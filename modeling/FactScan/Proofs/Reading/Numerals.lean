/-
# FactScan.Proofs.Reading.Numerals — numbers and timestamps as tokens

The texts of integers, doubles and timestamps are made of the characters a numeric token
may hold, and begin with a digit or a sign, so each is taken as one token whatever stops
it.  Which of the three a token is, is settled by its characters: a timestamp has a `T`, a
double a point, an exponent or a name, an integer nothing but digits after its sign.

* `Reader.isNumeral_intChars`, `Reader.isNumeral_floatChars`, `Reader.isNumeral_timestamp`:
  each of them is one token;
* `Reader.number?_intChars`: integers read back;
* `Reader.number?_floatChars`, `Reader.number?_timestamp`: so do doubles and timestamps whose
  text is read back by their own reader;
* `Decimal.float?_floatChars`: NaN and the infinities always are.
-/
import FactScan.Term.Reader

namespace FactScan

set_option autoImplicit false

/-! ## Digits -/

namespace Decimal

theorem isDigit_of_mem_natChars {n : Nat} {c : Char} (member : c ∈ natChars n) :
    c.isDigit = true :=
  Nat.isDigit_of_mem_toDigits (by decide) (by decide) member

theorem natChars_ne_nil (n : Nat) : natChars n ≠ [] := Nat.toDigits_ne_nil

theorem nat?_eq_some {cs : List Char} {n : Nat} :
    nat? cs = some n ↔
      cs ≠ [] ∧ (∀ c ∈ cs, c.isDigit = true) ∧ Nat.ofDigitChars 10 cs 0 = n := by
  have value : cs.foldl (fun n c => n * 10 + (c.toNat - '0'.toNat)) 0 =
      Nat.ofDigitChars 10 cs 0 := by
    simp only [Nat.ofDigitChars_eq_foldl, Nat.mul_comm 10]
  unfold nat?
  rw [value]
  split
  · rename_i noDigits
    simp only [List.isEmpty_iff, List.all_eq_true] at noDigits
    exact ⟨nofun, fun ⟨nonempty, digits, _⟩ => absurd digits (noDigits.resolve_left nonempty)⟩
  · rename_i digits
    simp only [List.isEmpty_iff, List.all_eq_true, not_or, Classical.not_not] at digits
    exact ⟨fun same => ⟨digits.1, digits.2, Option.some.inj same⟩, fun same => by rw [same.2.2]⟩

theorem ofDigitChars_natChars (n : Nat) : Nat.ofDigitChars 10 (natChars n) 0 = n :=
  Nat.ofDigitChars_ten_toDigits

/-- Zeros before digits count for nothing. -/
theorem ofDigitChars_zeros_append (k : Nat) (cs : List Char) :
    Nat.ofDigitChars 10 (List.replicate k '0' ++ cs) 0 = Nat.ofDigitChars 10 cs 0 := by
  rw [Nat.ofDigitChars_append, Nat.ofDigitChars_replicate_zero, Nat.mul_zero]

theorem isDigit_of_mem_zeros {k : Nat} : ∀ c ∈ List.replicate k '0', c.isDigit = true := by
  intro c inside
  rw [List.eq_of_mem_replicate inside]
  decide

theorem nat?_natChars (n : Nat) : nat? (natChars n) = some n :=
  nat?_eq_some.2 ⟨natChars_ne_nil n, fun _ => isDigit_of_mem_natChars, ofDigitChars_natChars n⟩

/-- The first character of digits is no sign. -/
theorem sign_natChars (n : Nat) : sign (natChars n) = (false, natChars n) := by
  have digits : ∀ c ∈ natChars n, c.isDigit = true := fun _ => isDigit_of_mem_natChars
  unfold sign
  split
  · rename_i shape
    rw [shape] at digits
    exact absurd (digits '-' List.mem_cons_self) (by decide)
  · rename_i shape
    rw [shape] at digits
    exact absurd (digits '+' List.mem_cons_self) (by decide)
  · rfl

/-- An integer is its digits under its sign. -/
theorem int?_eq_map (cs : List Char) :
    int? cs =
      (nat? (sign cs).2).map fun (n : Nat) => if (sign cs).1 then -(n : Int) else n := by
  unfold int?
  rcases sign cs with ⟨negative, digits⟩
  dsimp only
  cases nat? digits <;> rfl

theorem int?_intChars (n : Int) : int? (intChars n) = some n := by
  unfold intChars
  by_cases negative : n < 0
  · rw [if_pos negative, int?_eq_map]
    show (nat? (natChars n.natAbs)).map (fun (n : Nat) => -(n : Int)) = _
    rw [nat?_natChars, Option.map_some]
    congr
    omega
  · rw [if_neg negative, int?_eq_map, sign_natChars, nat?_natChars, Option.map_some]
    congr
    show ((n.natAbs : Nat) : Int) = n
    omega

theorem int64?_intChars (n : Int64) : int64? (intChars n.toInt) = some n := by
  unfold int64?
  rw [int?_intChars]
  have bounds : Int64.minValue.toInt ≤ n.toInt ∧ n.toInt ≤ Int64.maxValue.toInt :=
    ⟨Int64.le_toInt n, Int64.toInt_le n⟩
  show (if _ then _ else _) = _
  rw [if_pos bounds, Int64.ofInt_toInt]

/-- A text with a character that is neither digit nor sign is no integer. -/
theorem int64?_eq_none {cs : List Char} {c : Char} (member : c ∈ cs)
    (notDigit : c.isDigit = false) (notMinus : c ≠ '-') (notPlus : c ≠ '+') :
    int64? cs = none := by
  have inside : c ∈ (sign cs).2 := by
    unfold sign
    split
    · exact (List.mem_cons.1 member).resolve_left notMinus
    · exact (List.mem_cons.1 member).resolve_left notPlus
    · exact member
  have noNumber : nat? (sign cs).2 = none := by
    unfold nat?
    rw [if_pos]
    right
    intro digits
    rw [List.all_eq_true.1 digits c inside] at notDigit
    exact Bool.noConfusion notDigit
  unfold int64?
  rw [int?_eq_map, noNumber]
  rfl

/-! ## The characters of doubles -/

/-- The characters that the text of a magnitude is made of. -/
def IsFloatChar (c : Char) : Prop :=
  c.isDigit = true ∨ c = '.' ∨ c = 'e' ∨ c = '-' ∨ c = '+'

theorem isFloatChar_of_mem_intChars {n : Int} {c : Char} (member : c ∈ intChars n) :
    IsFloatChar c := by
  unfold intChars at member
  split at member
  · rcases List.mem_cons.1 member with rfl | member
    · exact .inr (.inr (.inr (.inl rfl)))
    · exact .inl (isDigit_of_mem_natChars member)
  · exact .inl (isDigit_of_mem_natChars member)

namespace Layout

variable {layout : Layout} {digits : List Char}

theorem isFloatChar_of_mem_positional (allDigits : ∀ c ∈ digits, c.isDigit = true) {point : Int}
    {c : Char} (member : c ∈ positional digits point) : IsFloatChar c := by
  unfold positional at member
  split at member
  · simp only [List.cons_append, List.mem_cons, List.mem_append] at member
    rcases member with rfl | rfl | inside | inside
    · exact .inl (by decide)
    · exact .inr (.inl rfl)
    · exact .inl (isDigit_of_mem_zeros c inside)
    · exact .inl (allDigits c inside)
  · dsimp only at member
    split at member
    · simp only [List.mem_append, List.mem_cons, List.not_mem_nil, or_false] at member
      rcases member with (inside | inside) | rfl | rfl
      · exact .inl (allDigits c inside)
      · exact .inl (isDigit_of_mem_zeros c inside)
      · exact .inr (.inl rfl)
      · exact .inl (by decide)
    · simp only [List.mem_append, List.mem_cons] at member
      rcases member with inside | rfl | inside
      · exact .inl (allDigits c (List.mem_of_mem_take inside))
      · exact .inr (.inl rfl)
      · exact .inl (allDigits c (List.mem_of_mem_drop inside))

theorem isFloatChar_of_mem_scientific (allDigits : ∀ c ∈ digits, c.isDigit = true) {power : Int}
    {c : Char} (member : c ∈ layout.scientific digits power) : IsFloatChar c := by
  unfold scientific at member
  simp only [List.mem_append, List.mem_cons] at member
  rcases member with (inside | rfl | inside) | inside
  · split at inside
    · rw [List.mem_singleton.1 inside]
      exact .inl (by decide)
    · exact .inl (allDigits c inside)
    · rename_i d rest _
      rcases List.mem_cons.1 inside with rfl | inside
      · exact .inl (allDigits _ List.mem_cons_self)
      · rcases List.mem_cons.1 inside with rfl | inside
        · exact .inr (.inl rfl)
        · exact .inl (allDigits c (List.mem_cons_of_mem _ inside))
  · exact .inr (.inr (.inl rfl))
  · split at inside
    · rw [List.mem_singleton.1 inside]
      exact .inr (.inr (.inr (.inr rfl)))
    · cases inside
  · exact isFloatChar_of_mem_intChars inside

/-- A text that begins with a digit. -/
def StartsWithDigit (cs : List Char) : Prop := ∃ c rest, cs = c :: rest ∧ c.isDigit = true

theorem startsWithDigit_positional (allDigits : ∀ c ∈ digits, c.isDigit = true)
    (some : digits ≠ []) (point : Int) : StartsWithDigit (positional digits point) := by
  obtain ⟨d, rest, rfl⟩ := List.exists_cons_of_ne_nil some
  have digit := allDigits d List.mem_cons_self
  unfold positional
  by_cases below : point ≤ 0
  · rw [if_pos below]
    exact ⟨'0', _, rfl, by decide⟩
  · rw [if_neg below]
    dsimp only
    split
    · exact ⟨d, _, rfl, digit⟩
    · obtain ⟨n, whole⟩ : ∃ n, point.toNat = n + 1 := ⟨point.toNat - 1, by omega⟩
      rw [whole, List.take_succ_cons]
      exact ⟨d, _, rfl, digit⟩

theorem startsWithDigit_scientific (allDigits : ∀ c ∈ digits, c.isDigit = true) (power : Int) :
    StartsWithDigit (layout.scientific digits power) := by
  unfold scientific
  match digits with
  | [] => exact ⟨'0', _, rfl, by decide⟩
  | [d] => exact ⟨d, _, rfl, allDigits d List.mem_cons_self⟩
  | d :: e :: rest => exact ⟨d, _, rfl, allDigits d List.mem_cons_self⟩

theorem point_mem_positional (digits : List Char) (point : Int) :
    '.' ∈ positional digits point := by
  unfold positional
  split
  · simp
  · dsimp only
    split <;> simp

theorem exponent_mem_scientific (digits : List Char) (power : Int) :
    'e' ∈ layout.scientific digits power := by
  unfold scientific
  simp

/-- The three things that the reader needs of the text of a magnitude. -/
theorem magnitude_shape (layout : Layout) (place : Nat) :
    StartsWithDigit (layout.magnitude place) ∧
      (∀ c ∈ layout.magnitude place, IsFloatChar c) ∧
      ('.' ∈ layout.magnitude place ∨ 'e' ∈ layout.magnitude place) := by
  have allDigits : ∀ c ∈ natChars (shortest layout.tie place).significand, c.isDigit = true :=
    fun _ => isDigit_of_mem_natChars
  unfold magnitude
  dsimp only
  split
  · refine ⟨⟨'0', _, rfl, by decide⟩, fun c member => ?_, .inl (by decide)⟩
    simp only [List.mem_cons, List.not_mem_nil, or_false] at member
    rcases member with rfl | rfl | rfl
    · exact .inl (by decide)
    · exact .inr (.inl rfl)
    · exact .inl (by decide)
  · split
    · exact ⟨startsWithDigit_positional allDigits (natChars_ne_nil _) _,
        fun _ => isFloatChar_of_mem_positional allDigits, .inl (point_mem_positional _ _)⟩
    · exact ⟨startsWithDigit_scientific allDigits _,
        fun _ => isFloatChar_of_mem_scientific allDigits, .inr (exponent_mem_scientific _ _)⟩

end Layout

theorem isDigit_of_mem_paddedChars {width n : Nat} {c : Char} (member : c ∈ paddedChars width n) :
    c.isDigit = true := by
  rcases List.mem_append.1 member with inside | inside
  · exact isDigit_of_mem_zeros c inside
  · exact isDigit_of_mem_natChars inside

theorem paddedChars_ne_nil (width n : Nat) : paddedChars width n ≠ [] := by
  intro empty
  exact natChars_ne_nil n (List.append_eq_nil_iff.1 empty).2

end Decimal

/-! ## Numeric tokens -/

namespace Reader

/-- A text that is read as one numeric token, whatever stops it. -/
structure IsNumeral (token : List Char) : Prop where
  start : ∃ c rest, token = c :: rest ∧ (c.isDigit = true ∨ c = '-' ∨ c = '+')
  chars : ∀ c ∈ token, isNumeric c = true

theorem isNumeric_of_isDigit {c : Char} (digit : c.isDigit = true) : isNumeric c = true := by
  simp [isNumeric, Char.isAlphanum, digit]

theorem isNumeric_of_isFloatChar {c : Char} (inside : Decimal.IsFloatChar c) :
    isNumeric c = true := by
  rcases inside with digit | rfl | rfl | rfl | rfl
  · exact isNumeric_of_isDigit digit
  all_goals decide

theorem isNumeral_intChars (n : Int) : IsNumeral (Decimal.intChars n) := by
  refine ⟨?_, fun c member => isNumeric_of_isFloatChar (Decimal.isFloatChar_of_mem_intChars member)⟩
  unfold Decimal.intChars
  split
  · exact ⟨'-', _, rfl, .inr (.inl rfl)⟩
  · obtain ⟨d, rest, shape⟩ := List.exists_cons_of_ne_nil (Decimal.natChars_ne_nil n.natAbs)
    refine ⟨d, rest, shape, .inl ?_⟩
    exact Decimal.isDigit_of_mem_natChars (shape ▸ List.mem_cons_self)

end Reader

/-- The text of a double is one of the names, or a magnitude under its sign. -/
theorem Decimal.floatChars_cases (x : Binary64) :
    floatChars x = ['+', 'n', 'a', 'n'] ∨ floatChars x = ['+', 'i', 'n', 'f'] ∨
      floatChars x = ['-', 'i', 'n', 'f'] ∨
      ∃ place, floatChars x = Layout.term.magnitude place ∨
        floatChars x = '-' :: Layout.term.magnitude place := by
  unfold floatChars
  match x with
  | .nan => exact .inl rfl
  | .point negative place =>
    dsimp only
    split
    · cases negative
      · exact .inr (.inl rfl)
      · exact .inr (.inr (.inl rfl))
    · refine .inr (.inr (.inr ⟨place.val, ?_⟩))
      unfold Layout.finite
      cases negative
      · exact .inl rfl
      · exact .inr rfl

namespace Reader

theorem isNumeral_floatChars (x : Binary64) : IsNumeral (Decimal.floatChars x) := by
  rcases Decimal.floatChars_cases x with name | name | name | ⟨place, plain | negative⟩
  · rw [name]
    exact ⟨⟨'+', _, rfl, .inr (.inr rfl)⟩, List.all_eq_true.1 (by decide)⟩
  · rw [name]
    exact ⟨⟨'+', _, rfl, .inr (.inr rfl)⟩, List.all_eq_true.1 (by decide)⟩
  · rw [name]
    exact ⟨⟨'-', _, rfl, .inr (.inl rfl)⟩, List.all_eq_true.1 (by decide)⟩
  · obtain ⟨⟨d, rest, shape, digit⟩, made, -⟩ := Decimal.Layout.magnitude_shape .term place
    rw [plain]
    exact ⟨⟨d, rest, shape, .inl digit⟩, fun c member => isNumeric_of_isFloatChar (made c member)⟩
  · obtain ⟨-, made, -⟩ := Decimal.Layout.magnitude_shape .term place
    rw [negative]
    refine ⟨⟨'-', _, rfl, .inr (.inl rfl)⟩, fun c member => ?_⟩
    rcases List.mem_cons.1 member with rfl | member
    · decide
    · exact isNumeric_of_isFloatChar (made c member)

theorem isNumeric_of_mem_paddedChars {width n : Nat} :
    ∀ c ∈ Decimal.paddedChars width n, isNumeric c = true := fun _ member =>
  isNumeric_of_isDigit (Decimal.isDigit_of_mem_paddedChars member)

theorem isNumeral_yearChars (year : Int) : IsNumeral (Timestamp.yearChars year) := by
  unfold Timestamp.yearChars
  split
  · obtain ⟨d, rest, shape⟩ := List.exists_cons_of_ne_nil (Decimal.paddedChars_ne_nil 4 year.toNat)
    refine ⟨⟨d, rest, shape, .inl ?_⟩, isNumeric_of_mem_paddedChars⟩
    exact Decimal.isDigit_of_mem_paddedChars (shape ▸ List.mem_cons_self)
  · split
    · exact ⟨⟨'-', _, rfl, .inr (.inl rfl)⟩,
        List.forall_mem_cons.2 ⟨by decide, isNumeric_of_mem_paddedChars⟩⟩
    · exact ⟨⟨'+', _, rfl, .inr (.inr rfl)⟩,
        List.forall_mem_cons.2 ⟨by decide, isNumeric_of_mem_paddedChars⟩⟩

theorem isNumeric_of_mem_fractionChars {nano : Nat} :
    ∀ c ∈ Timestamp.fractionChars nano, isNumeric c = true := by
  have point : ∀ width n, ∀ c ∈ '.' :: Decimal.paddedChars width n, isNumeric c = true :=
    fun _ _ => List.forall_mem_cons.2 ⟨by decide, isNumeric_of_mem_paddedChars⟩
  unfold Timestamp.fractionChars
  split
  · intro c member
    cases member
  · split
    · exact point _ _
    · split
      · exact point _ _
      · exact point _ _

theorem isNumeral_timestamp (t : Timestamp) : IsNumeral t.chars := by
  obtain ⟨⟨d, rest, shape, start⟩, year⟩ := isNumeral_yearChars t.date.year
  constructor
  · unfold Timestamp.chars
    dsimp only
    rw [shape]
    exact ⟨d, _, rfl, start⟩
  · unfold Timestamp.chars
    simp only [List.forall_mem_append, List.forall_mem_cons]
    refine ⟨⟨⟨⟨⟨⟨⟨year, by decide, ?_⟩, by decide, ?_⟩, by decide, ?_⟩, by decide, ?_⟩, by decide,
      ?_⟩, ?_⟩, by decide, ?_⟩
    all_goals first
      | exact isNumeric_of_mem_paddedChars
      | exact isNumeric_of_mem_fractionChars
      | exact fun _ member => absurd member List.not_mem_nil

end Reader

/-! ## Reading them back -/

namespace Reader

theorem not_mem_of_isFloatChar {cs : List Char} (made : ∀ c ∈ cs, Decimal.IsFloatChar c) :
    'T' ∉ cs := by
  intro member
  rcases made 'T' member with digit | same | same | same | same
  · exact absurd digit (by decide)
  all_goals exact absurd same (by decide)

theorem number?_intChars (n : Int64) :
    number? (Decimal.intChars n.toInt) = some (.integer n) := by
  have noT : (Decimal.intChars n.toInt).contains 'T' = false := by
    have absent := not_mem_of_isFloatChar fun c =>
      @Decimal.isFloatChar_of_mem_intChars n.toInt c
    simpa using absent
  unfold number?
  rw [noT, Decimal.int64?_intChars]
  rfl

/-- A token that is neither a timestamp nor an integer, but looks like a double, is read as
one. -/
theorem number?_of_float {token : List Char} {x : Binary64} (noT : 'T' ∉ token)
    (noInteger : Decimal.int64? token = none)
    (marked : '.' ∈ token ∨ 'e' ∈ token ∨ token = ['+', 'n', 'a', 'n'] ∨
      token = ['+', 'i', 'n', 'f'] ∨ token = ['-', 'i', 'n', 'f'])
    (value : Decimal.float? token = some x) : number? token = some (.float x) := by
  have noTimestamp : token.contains 'T' = false := by simpa using noT
  unfold number?
  rw [noTimestamp, noInteger, value]
  have looks : (token.contains '.' || token.contains 'e' || token.contains 'E'
      || decide (token.dropWhile (fun c => c = '-' || c = '+') = ['i', 'n', 'f'])
      || decide (token.dropWhile (fun c => c = '-' || c = '+') = ['n', 'a', 'n'])) = true := by
    rcases marked with point | exponent | rfl | rfl | rfl
    · simp [point]
    · simp [exponent]
    all_goals decide
  dsimp only
  rw [if_neg Bool.false_ne_true, if_pos looks, Option.map_some]

theorem number?_floatChars {x : Binary64} (value : Decimal.float? (Decimal.floatChars x) = some x) :
    number? (Decimal.floatChars x) = some (.float x) := by
  have ofMagnitude : ∀ place cs, cs = Decimal.Layout.term.magnitude place ∨
      cs = '-' :: Decimal.Layout.term.magnitude place → Decimal.float? cs = some x →
      number? cs = some (.float x) := by
    intro place cs shape value
    obtain ⟨-, made, marked⟩ := Decimal.Layout.magnitude_shape .term place
    have sub : ∀ c ∈ Decimal.Layout.term.magnitude place, c ∈ cs := by
      rcases shape with rfl | rfl
      · exact fun _ member => member
      · exact fun _ member => List.mem_cons_of_mem _ member
    have chars : ∀ c ∈ cs, Decimal.IsFloatChar c := by
      rcases shape with rfl | rfl
      · exact made
      · exact List.forall_mem_cons.2 ⟨.inr (.inr (.inr (.inl rfl))), made⟩
    refine number?_of_float (not_mem_of_isFloatChar chars) ?_ ?_ value
    · rcases marked with point | exponent
      · exact Decimal.int64?_eq_none (sub _ point) (by decide) (by decide) (by decide)
      · exact Decimal.int64?_eq_none (sub _ exponent) (by decide) (by decide) (by decide)
    · rcases marked with point | exponent
      · exact .inl (sub _ point)
      · exact .inr (.inl (sub _ exponent))
  rcases Decimal.floatChars_cases x with name | name | name | ⟨place, shape⟩
  · rw [name] at value ⊢
    exact number?_of_float (by decide) (by decide) (.inr (.inr (.inl rfl))) value
  · rw [name] at value ⊢
    exact number?_of_float (by decide) (by decide) (.inr (.inr (.inr (.inl rfl)))) value
  · rw [name] at value ⊢
    exact number?_of_float (by decide) (by decide) (.inr (.inr (.inr (.inr rfl)))) value
  · exact ofMagnitude place _ shape value

end Reader

/-- What is no finite number reads back from its name. -/
theorem Decimal.float?_floatChars {x : Binary64}
    (finite : x.isFinite = true → float? (floatChars x) = some x) :
    float? (floatChars x) = some x := by
  match x with
  | .nan => rfl
  | .point negative place =>
    by_cases below : place.val < Binary64.top
    · exact finite (decide_eq_true below)
    · have atTop : place = ⟨Binary64.top, Nat.lt_succ_self _⟩ := by
        have bound := place.isLt
        refine Fin.ext ?_
        show place.val = Binary64.top
        omega
      subst atTop
      unfold floatChars
      dsimp only
      rw [if_pos rfl]
      cases negative
      · rfl
      · rfl

namespace Reader

theorem number?_timestamp {t : Timestamp} (value : Timestamp.ofChars? t.chars = some t) :
    number? t.chars = some (.timestamp t) := by
  have hasT : t.chars.contains 'T' = true := by
    unfold Timestamp.chars
    simp
  unfold number?
  rw [if_pos hasT, value, Option.map_some]

end Reader

end FactScan
