/-
# FactScan.Proofs.Scalars.Identity — equality, text and hash of scalars and terms

Equality, the canonical text and the hash are three functions by recursion on the same trees, each
with cases of its own for doubles, patterns and terms.  They agree: a hasher is fed the same for two
scalars exactly if they are equal, and equal scalars have the same text.

The text says less, since the text of a field may be that of a boolean, and a term carried as data
looks like a nested one.  A term whose names are words that stand for what they name, and which has
neither, is told by its text (`IsTelling`).  Its operands are taken off the text one by one
(`Term.split_operands`), and the first character of each says what kind of operand it is
(`Operand.look_chars`).

* `Term.hashInput_append`: where the hash input of a term stands before something else, it shows
  where it ends and, up to equality, what it is of;
* `Term.beq_of_chars`: telling terms with the same text are equal;
* `Scalar.equality_told`: what equality is, and what agrees with it.
-/
import FactScan.Proofs.Reading.Doubles
import FactScan.Proofs.Reading.RoundTrip
import FactScan.Proofs.Reading.Shape
import FactScan.Proofs.Reading.Timestamps
import FactScan.Proofs.Scalars.Equality
import FactScan.Term.Hash
import Mathlib.Data.List.Basic
import Mathlib.Data.Set.Function

namespace FactScan

set_option autoImplicit false

/-! ## Hashes -/

theorem Binary64.bits_inj {x y : Binary64} : x.bits = y.bits ↔ x = y := by
  have inside (place : Fin (top + 1)) : place.val ≤ 0x7ff0000000000000 :=
    Nat.le_of_lt_succ place.isLt
  refine ⟨fun same => ?_, congrArg bits⟩
  match x, y with
  | .nan, .nan => rfl
  | .nan, .point negative place | .point negative place, .nan =>
    have below := inside place
    cases negative <;> simp [bits] at same <;> omega
  | .point negative place, .point negative' place' =>
    have below := inside place
    have below' := inside place'
    have places : negative = negative' ∧ place.val = place'.val := by
      cases negative <;> cases negative' <;> simp [bits] at same ⊢ <;> omega
    rw [places.1, Fin.ext places.2]

theorem Operator.hashInput_append {op op' : Operator} {rest rest' : List HashPart} :
    op.hashInput ++ rest = op'.hashInput ++ rest' ↔ (op == op') = true ∧ rest = rest' := by
  have builtins (b b' : Builtin) : Builtin.all.idxOf b = Builtin.all.idxOf b' ↔ b = b' :=
    List.idxOf_inj (Builtin.mem_all b)
  cases op <;> cases op' <;> simp [hashInput, builtins]

/-- The hash input shows where it ends and, up to equality, what it is of. -/
def Term.HashesApart (t : Term) : Prop :=
  ∀ (u : Term) (rest rest' : List HashPart),
    t.hashInput ++ rest = u.hashInput ++ rest' ↔ (t == u) = true ∧ rest = rest'

theorem Scalar.hashInput_append_of {a b : Scalar} (carried : ∀ t, a = .term t → t.HashesApart)
    {rest rest' : List HashPart} :
    a.hashInput ++ rest = b.hashInput ++ rest' ↔ (a == b) = true ∧ rest = rest' := by
  change _ ↔ same a b = true ∧ _
  cases a with
  | integer n => cases b <;> simp [hashInput, same]
  | float x => cases b <;> simp [hashInput, same, Binary64.bits_inj]
  | string s => cases b <;> simp [hashInput, same]
  | boolean p => cases b <;> simp [hashInput, same]
  | timestamp t => cases b <;> simp [hashInput, same]
  | regex p => cases b <;> simp [hashInput, same, Pattern.beq_iff, String.ofList_inj]
  | term t =>
      cases b with
      | term u =>
          simp only [hashInput, List.cons_append, List.cons.injEq, true_and, same]
          exact carried t rfl u rest rest'
      | _ => simp [hashInput, same]

theorem Operand.hashInput_append_of {o o' : Operand}
    (carried : ∀ t, o.carried? = some t → t.HashesApart) {rest rest' : List HashPart} :
    o.hashInput ++ rest = o'.hashInput ++ rest' ↔ (o == o') = true ∧ rest = rest' := by
  change _ ↔ same o o' = true ∧ _
  cases o with
  | literal a =>
      cases o' with
      | literal b =>
          simp only [hashInput, List.cons_append, List.cons.injEq, true_and, same]
          exact Scalar.hashInput_append_of fun t is => carried t (by rw [is]; rfl)
      | _ => simp [hashInput, same]
  | nested t =>
      cases o' with
      | nested u =>
          simp only [hashInput, List.cons_append, List.cons.injEq, true_and, same]
          exact carried t rfl u rest rest'
      | _ => simp [hashInput, same]
  | field name => cases o' <;> simp [hashInput, same]
  | placeholder i => cases o' <;> simp [hashInput, same]

/-- Lists are hashed after their lengths, so each operand meets the one at its place. -/
theorem Operand.listHashInput_append {operands operands' : List Operand}
    (each : ∀ o ∈ operands, ∀ (o' : Operand) (rest rest' : List HashPart),
      o.hashInput ++ rest = o'.hashInput ++ rest' ↔ (o == o') = true ∧ rest = rest')
    {rest rest' : List HashPart} :
    .length operands.length :: listHashInput operands ++ rest =
        .length operands'.length :: listHashInput operands' ++ rest' ↔
      (operands == operands') = true ∧ rest = rest' := by
  induction operands generalizing operands' with
  | nil => cases operands' <;> simp [listHashInput]
  | cons o others ih =>
      cases operands' with
      | nil => simp
      | cons o' others' =>
          have tails := @ih others' fun o member => each o (List.mem_cons_of_mem _ member)
          simp only [List.cons_append, List.cons.injEq, HashPart.length.injEq] at tails
          simp only [listHashInput, List.cons_append, List.append_assoc, List.cons.injEq,
            HashPart.length.injEq, List.length_cons, Nat.add_right_cancel_iff,
            each o List.mem_cons_self, List.cons_beq_cons, Bool.and_eq_true, and_assoc, ← tails]
          exact and_left_comm

/-- **A term is equal to what is hashed like it**, and to nothing else. -/
theorem Term.hashInput_append (t : Term) : t.HashesApart := by
  induction t using Term.carried_induction with
  | step op operands ih =>
      intro u rest rest'
      obtain ⟨op', operands'⟩ := u
      rw [hashInput, hashInput, List.append_assoc, List.append_assoc, Operator.hashInput_append,
        Operand.listHashInput_append
          fun o member _ _ _ => Operand.hashInput_append_of (ih o member),
        Term.mk_beq, Bool.and_eq_true, and_assoc]

theorem Term.beq_iff_hashInput {t u : Term} : (t == u) = true ↔ t.hashInput = u.hashInput := by
  have apart := t.hashInput_append u [] []
  simpa using apart.symm

theorem Scalar.beq_iff_hashInput {a b : Scalar} : (a == b) = true ↔ a.hashInput = b.hashInput := by
  have apart := @Scalar.hashInput_append_of a b (fun t _ => t.hashInput_append) [] []
  simpa using apart.symm

/-! ## Texts of what is equal -/

theorem Scalar.chars_of_beq_of {a b : Scalar} (same : (a == b) = true)
    (carried : ∀ t u, a = .term t → (t == u) = true → t.chars = u.chars) : a.chars = b.chars := by
  rcases beq_cases same with rfl | ⟨p, q, rfl, rfl⟩ | ⟨t, u, rfl, rfl⟩
  · rfl
  · rw [regex_beq, Pattern.beq_iff] at same
    rw [chars, chars, Pattern.chars, Pattern.chars, same]
  · exact carried t u rfl ((term_beq t u).symm.trans same)

theorem Operand.chars_of_beq_of {o o' : Operand} (same : (o == o') = true)
    (carried : ∀ t u, o.carried? = some t → (t == u) = true → t.chars = u.chars) :
    o.chars = o'.chars := by
  rcases beq_cases same with rfl | ⟨a, b, rfl, rfl⟩ | ⟨t, u, rfl, rfl⟩
  · rfl
  · rw [literal_beq] at same
    exact Scalar.chars_of_beq_of same fun t u is => carried t u (by rw [is]; rfl)
  · exact carried t u rfl ((nested_beq t u).symm.trans same)

theorem Operand.listChars_of_beq {operands operands' : List Operand}
    (each : ∀ o ∈ operands, ∀ o' : Operand, (o == o') = true → o.chars = o'.chars)
    (same : (operands == operands') = true) : listChars operands = listChars operands' := by
  induction operands generalizing operands' with
  | nil =>
      cases operands' with
      | nil => rfl
      | cons o' rest' => cases same
  | cons o rest ih =>
      cases operands' with
      | nil => cases same
      | cons o' rest' =>
          rw [List.cons_beq_cons, Bool.and_eq_true] at same
          rw [listChars, listChars, each o List.mem_cons_self o' same.1,
            ih (fun o member => each o (List.mem_cons_of_mem _ member)) same.2]

theorem Term.chars_of_beq {t u : Term} (same : (t == u) = true) : t.chars = u.chars := by
  induction t using Term.carried_induction generalizing u with
  | step op operands ih =>
      obtain ⟨op', operands'⟩ := u
      rw [Term.mk_beq, Bool.and_eq_true] at same
      have each : ∀ o ∈ operands, ∀ o' : Operand, (o == o') = true → o.chars = o'.chars :=
        fun o member o' same => Operand.chars_of_beq_of same fun t u carried =>
          ih o member t carried
      rw [chars, chars, LawfulBEq.eq_of_beq same.1, Operand.listChars_of_beq each same.2]

theorem Scalar.chars_of_beq {a b : Scalar} (same : (a == b) = true) : a.chars = b.chars :=
  chars_of_beq_of same fun _ _ _ => Term.chars_of_beq

theorem Scalar.typeName_of_beq {a b : Scalar} (same : (a == b) = true) :
    a.typeName = b.typeName := by
  rcases beq_cases same with rfl | ⟨p, q, rfl, rfl⟩ | ⟨t, u, rfl, rfl⟩
  all_goals rfl

/-! ## Terms that their texts tell -/

/-- An operand whose text tells it from others, nested terms aside: its timestamps are among some
that do, a field is a word that is no boolean, and no term is carried as data. -/
def Operand.IsTelling (S : Set Timestamp) : Operand → Prop
  | .literal (.term _) => False
  | .literal (.timestamp t) => t ∈ S
  | .field name => Reader.isWord name.toList = true ∧ name ≠ "true" ∧ name ≠ "false"
  | _ => True

/-- A term made of such operands, with operators that are named by words and are what their names
stand for. -/
structure Term.IsTelling (S : Set Timestamp) (t : Term) : Prop where
  operators : ∀ u ∈ t.walk, u.operator.IsReadable
  operands : ∀ u ∈ t.walk, ∀ o ∈ u.operands, o.IsTelling S

def Scalar.IsTelling (S : Set Timestamp) : Scalar → Prop
  | .timestamp t => t ∈ S
  | .term t => t.IsTelling S
  | _ => True

section

variable {S : Set Timestamp}

theorem Term.IsTelling.nested {op : Operator} {operands : List Operand} {t : Term}
    (telling : (Term.mk op operands).IsTelling S) (member : .nested t ∈ operands) :
    t.IsTelling S where
  operators u inside := telling.operators u (Term.mem_walk.2 (.inr ⟨t, member, inside⟩))
  operands u inside := telling.operands u (Term.mem_walk.2 (.inr ⟨t, member, inside⟩))

theorem Term.IsTelling.isLegible {t : Term} (telling : t.IsTelling S) : t.IsLegible where
  plain u inside _ member := telling.operands u inside _ member
  names u inside := (telling.operators u inside).word
  fields u inside _ member := (telling.operands u inside _ member).1

end

/-! ## The look of an operand -/

/-- What the first character of an operand shows. -/
inductive Look where
  | numeral | string | pattern | word | nested | placeholder

def Look.ofChar (c : Char) : Look :=
  if c = '\'' then .string
  else if c = '/' then .pattern
  else if c = '(' then .nested
  else if c = '$' then .placeholder
  else if Reader.isWordStart c then .word
  else .numeral

def Scalar.look : Scalar → Look
  | .integer _ | .float _ | .timestamp _ => .numeral
  | .string _ => .string
  | .regex _ => .pattern
  | .boolean _ => .word
  | .term _ => .nested

def Operand.look : Operand → Look
  | .literal s => s.look
  | .field _ => .word
  | .nested _ => .nested
  | .placeholder _ => .placeholder

theorem Look.ofChar_numeral {c : Char} (start : c.isDigit = true ∨ c = '-' ∨ c = '+') :
    ofChar c = .numeral := by
  rcases start with digit | rfl | rfl
  · have noWord : ¬ Reader.isWordStart c = true := fun word => by
      rw [Reader.isDigit_eq_false_of_isWordStart word] at digit
      cases digit
    unfold ofChar
    rw [if_neg (Reader.ne_of_class digit rfl), if_neg (Reader.ne_of_class digit rfl),
      if_neg (Reader.ne_of_class digit rfl), if_neg (Reader.ne_of_class digit rfl), if_neg noWord]
  · rfl
  · rfl

theorem Look.ofChar_word {c : Char} (start : Reader.isWordStart c = true) : ofChar c = .word := by
  unfold ofChar
  rw [if_neg (Reader.ne_of_class start rfl), if_neg (Reader.ne_of_class start rfl),
    if_neg (Reader.ne_of_class start rfl), if_neg (Reader.ne_of_class start rfl), if_pos start]

theorem Reader.IsNumeral.look {token : List Char} (numeral : IsNumeral token) :
    token.head?.map Look.ofChar = some .numeral := by
  obtain ⟨c, rest, rfl, start⟩ := numeral.start
  exact congrArg some (Look.ofChar_numeral start)

theorem Scalar.look_chars (s : Scalar) : s.chars.head?.map Look.ofChar = some s.look := by
  match s with
  | .integer n => exact (Reader.isNumeral_intChars n.toInt).look
  | .float x => exact (Reader.isNumeral_floatChars x).look
  | .timestamp t => exact (Reader.isNumeral_timestamp t).look
  | .boolean true | .boolean false | .string s | .regex p | .term (.mk op operands) => rfl

/-- The first character of an operand shows what kind of operand it is. -/
theorem Operand.look_chars {S : Set Timestamp} {o : Operand} (telling : o.IsTelling S) :
    o.chars.head?.map Look.ofChar = some o.look := by
  cases o with
  | literal s => exact s.look_chars
  | field name =>
      obtain ⟨c, rest, shape, start, -⟩ := Reader.isWord_cases telling.1
      rw [chars, shape]
      exact congrArg some (Look.ofChar_word start)
  | nested t => exact (Scalar.term t).look_chars
  | placeholder i => rfl

/-! ## Texts of what is told -/

theorem quotedChars_injective {s s' : List Char} (same : quotedChars s = quotedChars s') :
    s = s' := by
  have read (s : List Char) : (Reader.quoted? (quotedChars s).tail) = some (s, []) :=
    Reader.quoted?_append s []
  have both := read s
  rw [same, read s'] at both
  cases both
  rfl

theorem Decimal.natChars_injective : Function.Injective natChars := by
  intro n m same
  have read := nat?_natChars n
  rw [same, nat?_natChars m] at read
  exact (Option.some.inj read).symm

theorem Pattern.canonicalChars_of_chars {p q : Pattern} (same : p.chars = q.chars) :
    p.canonicalChars = q.canonicalChars := by
  rw [chars, chars] at same
  exact (List.append_inj' (List.cons.inj same).2 rfl).1

/-- Timestamps that can be written are told apart by their texts. -/
theorem Timestamp.injOn_chars : Set.InjOn chars {t | t.IsWritable} := by
  intro t writable u writable' same
  have read := Timestamp.ofChars?_chars writable
  rw [same, Timestamp.ofChars?_chars writable'] at read
  exact (Option.some.inj read).symm

theorem Timestamp.T_mem_chars (t : Timestamp) : 'T' ∈ t.chars := by simp [chars]

/-- The reader of numbers takes integers and doubles as what they are. -/
theorem Scalar.number?_chars {a : Scalar} (numeric : a.isNumeric = true) :
    'T' ∉ a.chars ∧ Reader.number? a.chars = some a := by
  cases a with
  | integer n =>
      exact ⟨Reader.not_mem_of_isFloatChar fun _ => Decimal.isFloatChar_of_mem_intChars,
        Reader.number?_intChars n⟩
  | float x =>
      refine ⟨?_, Reader.number?_floatChars (Decimal.float?_of_floatChars x)⟩
      have magnitude (place : Nat) : 'T' ∉ Decimal.Layout.term.magnitude place :=
        Reader.not_mem_of_isFloatChar (Decimal.Layout.magnitude_shape .term place).2.1
      rw [chars]
      rcases Decimal.floatChars_cases x with name | name | name | ⟨place, plain | negative⟩
      · rw [name]; decide
      · rw [name]; decide
      · rw [name]; decide
      · rw [plain]; exact magnitude place
      · rw [negative]; exact List.not_mem_cons_of_ne_of_not_mem (by decide) (magnitude place)
  | _ => cases numeric

section

variable {S : Set Timestamp}

/-- Among numbers and timestamps, a timestamp has a `T`, and the reader tells the others. -/
theorem Scalar.eq_of_numerals (apart : Set.InjOn Timestamp.chars S) {a b : Scalar}
    (telling : a.IsTelling S) (telling' : b.IsTelling S) (look : a.look = .numeral)
    (look' : b.look = .numeral) (same : a.chars = b.chars) : a = b := by
  have kinds {a : Scalar} (look : a.look = .numeral) :
      a.isNumeric = true ∨ ∃ t, a = .timestamp t := by
    cases a with
    | timestamp t => exact .inr ⟨t, rfl⟩
    | integer _ | float _ => exact .inl rfl
    | _ => cases look
  rcases kinds look with numeric | ⟨t, rfl⟩ <;> rcases kinds look' with numeric' | ⟨u, rfl⟩
  · have read := (number?_chars numeric).2
    rw [same, (number?_chars numeric').2] at read
    exact (Option.some.inj read).symm
  · exact absurd (same ▸ u.T_mem_chars) (number?_chars numeric).1
  · exact absurd (same ▸ t.T_mem_chars) (number?_chars numeric').1
  · rw [apart telling telling' same]

/-- The operands of each look. -/
theorem Operand.look_cases {o : Operand} (telling : o.IsTelling S) :
    match o.look with
    | .numeral => ∃ a : Scalar, o = .literal a ∧ a.look = .numeral ∧ a.IsTelling S
    | .string => ∃ s, o = .literal (.string s)
    | .pattern => ∃ p, o = .literal (.regex p)
    | .word =>
      (∃ b, o = .literal (.boolean b)) ∨
        ∃ name, o = .field name ∧ name ≠ "true" ∧ name ≠ "false"
    | .nested => ∃ t, o = .nested t
    | .placeholder => ∃ i, o = .placeholder i := by
  match o with
  | .literal (.integer n) => exact ⟨_, rfl, rfl, trivial⟩
  | .literal (.float x) => exact ⟨_, rfl, rfl, trivial⟩
  | .literal (.timestamp t) => exact ⟨_, rfl, rfl, telling⟩
  | .literal (.string s) => exact ⟨s, rfl⟩
  | .literal (.regex p) => exact ⟨p, rfl⟩
  | .literal (.boolean b) => exact .inl ⟨b, rfl⟩
  | .literal (.term _) => exact telling.elim
  | .field name => exact .inr ⟨name, rfl, telling.2⟩
  | .nested t => exact ⟨t, rfl⟩
  | .placeholder i => exact ⟨i, rfl⟩

/-- The text of a boolean is that of no other operand. -/
theorem Operand.eq_of_words {o o' : Operand}
    (word : (∃ b, o = .literal (.boolean b)) ∨
      ∃ name, o = .field name ∧ name ≠ "true" ∧ name ≠ "false")
    (word' : (∃ b, o' = .literal (.boolean b)) ∨
      ∃ name, o' = .field name ∧ name ≠ "true" ∧ name ≠ "false")
    (same : o.chars = o'.chars) : o = o' := by
  have boolean (b : Bool) : (Operand.literal (.boolean b)).chars = (toString b).toList := by
    cases b <;> rfl
  have distinct {b : Bool} {name : String} (plain : name ≠ "true" ∧ name ≠ "false") :
      (toString b).toList ≠ name.toList := by
    intro same
    have names := String.toList_injective same
    cases b
    · exact plain.2 names.symm
    · exact plain.1 names.symm
  rcases word with ⟨b, rfl⟩ | ⟨name, rfl, plain⟩ <;>
    rcases word' with ⟨b', rfl⟩ | ⟨name', rfl, plain'⟩
  · rw [boolean, boolean] at same
    have names := String.toList_injective same
    cases b <;> cases b' <;> first | rfl | exact absurd names (by decide)
  · rw [boolean] at same
    exact absurd same (distinct plain')
  · rw [boolean] at same
    exact absurd same.symm (distinct plain)
  · exact congrArg field (String.toList_injective same)

theorem Operand.beq_of_chars {o o' : Operand} (apart : Set.InjOn Timestamp.chars S)
    (telling : o.IsTelling S) (telling' : o'.IsTelling S)
    (nested : ∀ t u, o = .nested t → o' = .nested u → t.chars = u.chars → (t == u) = true)
    (same : o.chars = o'.chars) : (o == o') = true := by
  have shape := look_cases telling
  have shape' := look_cases telling'
  have looks : o'.look = o.look := by
    have looks := look_chars telling
    rw [same, look_chars telling'] at looks
    exact Option.some.inj looks
  rw [looks] at shape'
  generalize o.look = look at shape shape'
  cases look with
  | numeral =>
      obtain ⟨a, rfl, look, telling⟩ := shape
      obtain ⟨b, rfl, look', telling'⟩ := shape'
      rw [Scalar.eq_of_numerals apart telling telling' look look' same]
      exact (Operand.equates _).self
  | string =>
      obtain ⟨s, rfl⟩ := shape
      obtain ⟨s', rfl⟩ := shape'
      rw [String.toList_injective (quotedChars_injective same)]
      exact (Operand.equates _).self
  | pattern =>
      obtain ⟨p, rfl⟩ := shape
      obtain ⟨q, rfl⟩ := shape'
      rw [literal_beq, Scalar.regex_beq, Pattern.beq_iff]
      exact Pattern.canonicalChars_of_chars same
  | word =>
      rw [eq_of_words shape shape' same]
      exact (Operand.equates _).self
  | nested =>
      obtain ⟨t, rfl⟩ := shape
      obtain ⟨u, rfl⟩ := shape'
      exact (nested_beq t u).trans (nested t u rfl rfl same)
  | placeholder =>
      obtain ⟨i, rfl⟩ := shape
      obtain ⟨j, rfl⟩ := shape'
      have digits : Decimal.natChars i.toNat = Decimal.natChars j.toNat := (List.cons.inj same).2
      rw [UInt64.toNat_inj.1 (Decimal.natChars_injective digits)]
      exact (Operand.equates _).self

theorem Operand.list_beq_of_chars {operands operands' : List Operand}
    (texts : operands.map chars = operands'.map chars)
    (each : ∀ o ∈ operands, ∀ o' ∈ operands', o.chars = o'.chars → (o == o') = true) :
    (operands == operands') = true := by
  induction operands generalizing operands' with
  | nil =>
      cases operands' with
      | nil => rfl
      | cons o' rest' => cases texts
  | cons o rest ih =>
      cases operands' with
      | nil => cases texts
      | cons o' rest' =>
          obtain ⟨first, others⟩ := List.cons.inj texts
          rw [List.cons_beq_cons, each o List.mem_cons_self o' List.mem_cons_self first, ih others]
          · rfl
          · exact fun o member o' member' =>
              each o (List.mem_cons_of_mem _ member) o' (List.mem_cons_of_mem _ member')

/-- **A telling term is told by its text.** -/
theorem Term.beq_of_chars (apart : Set.InjOn Timestamp.chars S) {t u : Term}
    (telling : t.IsTelling S) (telling' : u.IsTelling S) (same : t.chars = u.chars) :
    (t == u) = true := by
  induction t using Term.nested_induction generalizing u with
  | step op operands ih =>
      obtain ⟨op', operands'⟩ := u
      have opens : [] ++ (mk op operands).chars = [] ++ (mk op' operands').chars := same
      obtain ⟨-, names, texts⟩ := Term.split_operands telling.isLegible telling'.isLegible opens
      have operators : op = op' := by
        have named : Operator.ofName op.name = op :=
          (telling.operators _ (self_mem_walk _)).named
        have named' : Operator.ofName op'.name = op' :=
          (telling'.operators _ (self_mem_walk _)).named
        rw [← named, ← named']
        exact congrArg Operator.ofName names
      rw [Term.mk_beq, operators, beq_self_eq_true, Bool.true_and]
      refine Operand.list_beq_of_chars texts fun o member o' member' => ?_
      refine Operand.beq_of_chars apart (telling.operands _ (self_mem_walk _) o member)
        (telling'.operands _ (self_mem_walk _) o' member') fun t u is is' => ?_
      subst is is'
      exact ih t member (telling.nested member) (telling'.nested member')

theorem Scalar.IsTelling.literal {a : Scalar} (telling : a.IsTelling S)
    (flat : ∀ t, a ≠ .term t) : (Operand.literal a).IsTelling S := by
  cases a with
  | term t => exact absurd rfl (flat t)
  | timestamp t => exact telling
  | _ => trivial

theorem Scalar.beq_of_chars (apart : Set.InjOn Timestamp.chars S) {a b : Scalar}
    (telling : a.IsTelling S) (telling' : b.IsTelling S) (same : a.chars = b.chars) :
    (a == b) = true := by
  have looks : a.look = b.look := by
    have looks := a.look_chars
    rw [same, b.look_chars] at looks
    exact (Option.some.inj looks).symm
  by_cases nested : a.look = .nested
  · have held {a : Scalar} (nested : a.look = .nested) : ∃ t, a = .term t := by
      cases a with
      | term t => exact ⟨t, rfl⟩
      | _ => cases nested
    obtain ⟨t, rfl⟩ := held nested
    obtain ⟨u, rfl⟩ := held (looks ▸ nested)
    exact (term_beq t u).trans (Term.beq_of_chars apart telling telling' same)
  · have flat : ∀ t, a ≠ .term t := fun t is => nested (by rw [is]; rfl)
    have flat' : ∀ t, b ≠ .term t := fun t is => nested (by rw [looks, is]; rfl)
    rw [← Operand.literal_beq]
    exact Operand.beq_of_chars apart (telling.literal flat) (telling'.literal flat') nofun same

/-- **What equality agrees with.**  Equality of scalars, and of terms, is an equivalence.  What is
equal is of the same type and has the same text, and a hasher is fed the same for two scalars or
terms exactly if they are equal.  Where timestamps are told apart by their texts, two scalars whose
terms are telling are equal exactly if their texts are: that is, where the names in a term are
words, its operators are what their names stand for, no field is called `true` or `false`, and no
term is carried as data in it.  What terms remember is no part of them, and a pattern may even end
in a backslash that nothing is paired with. -/
theorem Scalar.equality_told (apart : Set.InjOn Timestamp.chars S) :
    (Equivalence fun a b : Scalar => (a == b) = true) ∧
      (Equivalence fun t u : Term => (t == u) = true) ∧
      (∀ a b : Scalar, (a == b) = true → a.typeName = b.typeName ∧ a.text = b.text) ∧
      (∀ t u : Term, (t == u) = true → t.text = u.text) ∧
      (∀ a b : Scalar, (a == b) = true ↔ a.hashInput = b.hashInput) ∧
      (∀ t u : Term, (t == u) = true ↔ t.hashInput = u.hashInput) ∧
      ∀ a b : Scalar, a.IsTelling S → b.IsTelling S → ((a == b) = true ↔ a.text = b.text) := by
  have equivalence {α : Type} [BEq α] (all : ∀ a : α, Equates a) :
      Equivalence fun a b : α => (a == b) = true :=
    ⟨fun a => (all a).self, fun {a b} same => ((all a).symm b) ▸ same, fun {a _ _} => (all a).trans⟩
  have text {a b : Scalar} (same : (a == b) = true) : a.text = b.text :=
    congrArg String.ofList (chars_of_beq same)
  refine ⟨equivalence equates, equivalence Term.equates,
    fun a b same => ⟨typeName_of_beq same, text same⟩,
    fun t u same => congrArg String.ofList (Term.chars_of_beq same),
    fun a b => beq_iff_hashInput, fun t u => Term.beq_iff_hashInput, fun a b telling telling' => ?_⟩
  exact ⟨text, fun same => beq_of_chars apart telling telling' (String.ofList_injective same)⟩

end

/-- Two terms carried as data, one with a pattern that has a bare slash, and one with a pattern that
has it escaped. -/
theorem Scalar.equality_told_slashes :
    Set.InjOn Timestamp.chars {t | t.IsWritable} ∧
      ∃ p q, Pattern.ofSource "a/b" = .ok p ∧ Pattern.ofSource "a\\/b" = .ok q ∧
        let matching (p : Pattern) : Scalar :=
          .term (.mk (.builtin .isMatch) [.field "k", .literal (.regex p)])
        (matching p == matching q) = true := by
  obtain ⟨p, compiled⟩ := @Pattern.exists_ofSource "a/b" (by decide +kernel)
  obtain ⟨q, compiled'⟩ := @Pattern.exists_ofSource "a\\/b" (by decide +kernel)
  refine ⟨Timestamp.injOn_chars, p, q, compiled, compiled', ?_⟩
  intro matching
  have telling (p : Pattern) : (matching p).IsTelling {t | t.IsWritable} := by
    constructor
    · intro u inside
      rcases Term.mem_walk.1 inside with rfl | ⟨t, nested, -⟩
      · have readable : (Operator.builtin .isMatch).IsReadable := ⟨by decide, by decide⟩
        exact readable
      · simp at nested
    · intro u inside o member
      rcases Term.mem_walk.1 inside with rfl | ⟨t, nested, -⟩
      · simp only [Term.operands, List.mem_cons, List.not_mem_nil, or_false] at member
        rcases member with rfl | rfl
        · exact ⟨by decide, by decide, by decide⟩
        · trivial
      · simp at nested
  obtain ⟨-, -, -, -, -, -, told⟩ := Scalar.equality_told Timestamp.injOn_chars
  refine (told _ _ (telling p) (telling q)).2 ?_
  have canonical : p.canonicalChars = q.canonicalChars := by
    rw [Pattern.canonicalChars, Pattern.canonicalChars, Pattern.source_of_ofSource compiled,
      Pattern.source_of_ofSource compiled']
    decide
  simp only [matching, text, chars, Term.chars, Operand.listChars, Operand.chars, Pattern.chars,
    canonical]

end FactScan
