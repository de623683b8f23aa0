/-
# FactScan.Proofs.Reading.RoundTrip — reading undoes printing

An operand is read from its first character on and taken up to a character that cannot
belong to it.  After every operand of a spelled term stands spacing or the closing
parenthesis, and neither belongs to any token, so what is read is the operand that was
written: `Reader.ReadsAs` says so of one text, `Operand.readsAs` of the tokens, and
`Term.term_of_isSpelled` of whole terms by induction along nested terms.

* `Term.ofText_of_isSpelling`: every spelling of a readable term reads as an equal term.
-/
import FactScan.Proofs.Reading.Numerals
import FactScan.Proofs.Reading.Spelling
import FactScan.Proofs.Scalars.Equality

namespace FactScan

set_option autoImplicit false

/-! ## What ends a token -/

/-- The text goes on with spacing or a closing parenthesis, as it does after every operand. -/
def Reader.Stops (rest : List Char) : Prop :=
  ∃ c tail, rest = c :: tail ∧ (Text.isSpacing c = true ∨ c = ')')

namespace Text

theorem eq_of_isSpacing {c : Char} (spacing : isSpacing c = true) :
    c = ' ' ∨ c = '\t' ∨ c = '\r' ∨ c = '\n' := by
  simpa only [isSpacing, decide_eq_true_eq] using spacing

theorem skipSpacing_gap {gap rest : List Char} (spacing : IsGap gap) :
    skipSpacing (gap ++ rest) = skipSpacing rest :=
  List.dropWhile_append_of_pos spacing

theorem skipSpacing_cons {c : Char} {rest : List Char} (solid : isSpacing c = false) :
    skipSpacing (c :: rest) = c :: rest := by
  unfold skipSpacing
  rw [List.dropWhile_cons_of_neg]
  rw [solid]
  exact Bool.false_ne_true

theorem stops_of_gap {gap rest : List Char} (some : gap ≠ []) (spacing : IsGap gap) :
    Reader.Stops (gap ++ rest) := by
  obtain ⟨c, tail, rfl⟩ := List.exists_cons_of_ne_nil some
  exact ⟨c, tail ++ rest, rfl, .inl (spacing c List.mem_cons_self)⟩

theorem stops_of_closing {gap rest : List Char} (spacing : IsGap gap) :
    Reader.Stops (gap ++ ')' :: rest) := by
  cases gap with
  | nil => exact ⟨')', rest, rfl, .inr rfl⟩
  | cons c tail => exact ⟨c, _, rfl, .inl (spacing c List.mem_cons_self)⟩

end Text

namespace Reader

/-- A class of characters in which there is neither spacing nor a closing parenthesis. -/
def IsSolid (p : Char → Bool) : Prop :=
  p ' ' = false ∧ p '\t' = false ∧ p '\r' = false ∧ p '\n' = false ∧ p ')' = false

theorem IsSolid.stop {p : Char → Bool} (solid : IsSolid p) {c : Char}
    (stop : Text.isSpacing c = true ∨ c = ')') : p c = false := by
  obtain ⟨space, tab, ret, feed, paren⟩ := solid
  rcases stop with spacing | rfl
  · rcases Text.eq_of_isSpacing spacing with rfl | rfl | rfl | rfl
    · exact space
    · exact tab
    · exact ret
    · exact feed
  · exact paren

theorem IsSolid.isSpacing {p : Char → Bool} (solid : IsSolid p) {c : Char}
    (inside : p c = true) : Text.isSpacing c = false := by
  refine Bool.eq_false_iff.2 fun spacing => ?_
  rw [solid.stop (.inl spacing)] at inside
  cases inside

theorem takeWhile_token {p : Char → Bool} (solid : IsSolid p) {token rest : List Char}
    (inside : ∀ c ∈ token, p c = true) (stops : Stops rest) :
    (token ++ rest).takeWhile p = token ∧ (token ++ rest).dropWhile p = rest := by
  obtain ⟨c, tail, rfl, stop⟩ := stops
  have outside : ¬ p c = true := by
    rw [solid.stop stop]
    exact Bool.false_ne_true
  rw [List.takeWhile_append_of_pos inside, List.dropWhile_append_of_pos inside,
    List.takeWhile_cons_of_neg outside, List.dropWhile_cons_of_neg outside, List.append_nil]
  exact ⟨rfl, rfl⟩

theorem isSolid_isWordChar : IsSolid isWordChar := by
  unfold IsSolid
  decide

theorem isSolid_isWordStart : IsSolid isWordStart := by
  unfold IsSolid
  decide

theorem isSolid_isNumeric : IsSolid isNumeric := by
  unfold IsSolid
  decide

theorem isSolid_isDigit : IsSolid Char.isDigit := by
  unfold IsSolid
  decide

/-! ## Tokens -/

theorem word?_append {name : String} (word : isWord name.toList = true) {rest : List Char}
    (stops : Stops rest) : word? (name.toList ++ rest) = some (name, rest) := by
  obtain ⟨c, tail, shape, start, inside⟩ := isWord_cases word
  obtain ⟨taken, left⟩ := takeWhile_token isSolid_isWordChar inside stops
  rw [shape, List.cons_append, word?, if_pos start, taken, left, ← shape, String.ofList_toList]

theorem placeholder?_append (i : UInt64) {rest : List Char} (stops : Stops rest) :
    placeholder? (Decimal.natChars i.toNat ++ rest) = some (i, rest) := by
  obtain ⟨taken, left⟩ := takeWhile_token isSolid_isDigit
    (fun _ => Decimal.isDigit_of_mem_natChars) stops
  unfold placeholder?
  rw [taken, left, Decimal.nat?_natChars]
  show (if _ then _ else _) = _
  rw [if_pos i.toNat_lt, UInt64.ofNat_toNat]

/-- A string comes back without its escapes. -/
theorem quoted?_append (s rest : List Char) :
    quoted? (s.flatMap (fun c => if c = '\'' ∨ c = '\\' then ['\\', c] else [c])
      ++ '\'' :: rest) = some (s, rest) := by
  induction s with
  | nil => rfl
  | cons c tail ih =>
      rw [List.flatMap_cons, List.append_assoc]
      by_cases escaped : c = '\'' ∨ c = '\\'
      · rw [if_pos escaped, List.cons_append, List.cons_append, List.nil_append, quoted?, ih,
          Option.map_some]
      · rw [if_neg escaped]
        obtain ⟨noQuote, noBackslash⟩ := not_or.1 escaped
        rw [List.cons_append, List.nil_append, quoted?]
        · rw [ih, Option.map_some]
        · exact noQuote
        · exact fun same => absurd same noBackslash
        · exact fun _ _ same => absurd same noBackslash

end Reader

/-! ## Patterns -/

namespace Pattern

/-- A character that begins neither a lone backslash nor a pair is no backslash. -/
theorem ne_backslash {c : Char} {rest : List Char} (noLone : c = '\\' → rest = [] → False)
    (noPair : ∀ d tail, c = '\\' → rest = d :: tail → False) : c ≠ '\\' := by
  intro same
  cases rest with
  | nil => exact noLone same rfl
  | cons d tail => exact noPair d tail same rfl

/-- The text between slashes has no bare slash, so it is the same text written again. -/
theorem canonical_canonical (source : List Char) :
    canonical (canonical source) = canonical source := by
  fun_induction canonical source with
  | case1 => rfl
  | case2 => rfl
  | case3 c rest ih => rw [canonical, ih]
  | case4 rest ih => rw [canonical, ih]
  | case5 c rest noLone noPair noSlash ih =>
      have noBackslash := ne_backslash noLone noPair
      rw [canonical, ih]
      · exact fun same => absurd same noBackslash
      · exact fun _ _ same => absurd same noBackslash
      · exact noSlash

/-- The text between slashes is taken up to the closing one, escapes kept. -/
theorem slashed?_canonical {source : List Char} (paired : endsUnpaired source = false)
    (rest : List Char) :
    Reader.slashed? (canonical source ++ '/' :: rest) = some (canonical source, rest) := by
  fun_induction canonical source with
  | case1 => rfl
  | case2 => cases paired
  | case3 c tail ih =>
      rw [List.cons_append, List.cons_append, Reader.slashed?, ih paired, Option.map_some]
  | case4 tail ih =>
      rw [List.cons_append, List.cons_append, Reader.slashed?, ih paired, Option.map_some]
  | case5 c tail noLone noPair noSlash ih =>
      have noBackslash := ne_backslash noLone noPair
      have tailPaired : endsUnpaired tail = false := by
        rwa [endsUnpaired] at paired
        · exact fun same => absurd same noBackslash
        · exact fun _ _ same => absurd same noBackslash
      rw [List.cons_append, Reader.slashed?, ih tailPaired, Option.map_some]
      · exact noSlash
      · exact fun same => absurd same noBackslash
      · exact fun _ _ same => absurd same noBackslash

theorem source_of_ofSource {source : String} {p : Pattern} (compiled : ofSource source = .ok p) :
    p.source = source := by
  unfold ofSource at compiled
  split at compiled
  · cases compiled
    rfl
  · cases compiled

theorem exists_ofSource {source : String} (compiles : (compile source.toList).isOk = true) :
    ∃ p, ofSource source = .ok p := by
  unfold ofSource
  split
  · exact ⟨_, rfl⟩
  · rename_i fails
    rw [fails] at compiles
    cases compiles

end Pattern

/-! ## Operands by their first character -/

namespace Reader

variable {nested : List Char → Except Fault (Term × List Char)}

theorem ne_of_class {p : Char → Bool} {c d : Char} (inside : p c = true) (outside : p d = false) :
    c ≠ d := by
  rintro rfl
  rw [inside] at outside
  cases outside

/-- Words and numbers begin differently. -/
theorem isDigit_eq_false_of_isWordStart {c : Char} (start : isWordStart c = true) :
    c.isDigit = false := by
  refine Bool.eq_false_iff.2 fun digit => ?_
  have bounds : 48 ≤ c.toNat ∧ c.toNat < 58 := by
    simp only [Char.isDigit, Bool.and_eq_true, decide_eq_true_eq, ge_iff_le,
      UInt32.le_iff_toNat_le] at digit
    exact ⟨digit.1, Nat.lt_succ_of_le digit.2⟩
  have noWord : ∀ n, n < 58 → 48 ≤ n → isWordStart (Char.ofNat n) = false := by decide
  have noStart := noWord c.toNat bounds.2 bounds.1
  rw [Char.ofNat_toNat, start] at noStart
  cases noStart

theorem operand_of_numeral {token : List Char} (numeral : IsNumeral token) {rest : List Char}
    (stops : Stops rest) :
    operand nested (token ++ rest) = .ok ((number? token).map fun s => (.literal s, rest)) := by
  obtain ⟨taken, left⟩ := takeWhile_token isSolid_isNumeric numeral.chars stops
  obtain ⟨c, tail, rfl, start⟩ := numeral.start
  have inside : isNumeric c = true := numeral.chars c List.mem_cons_self
  have first : (c.isDigit || c = '-' || c = '+') = true := by simpa [or_assoc] using start
  rw [List.cons_append] at taken left ⊢
  rw [operand, if_pos first, taken, left]
  · exact ne_of_class inside (by decide)
  · exact ne_of_class inside (by decide)
  · exact ne_of_class inside (by decide)
  · exact ne_of_class inside (by decide)

theorem operand_of_word {name : String} (word : isWord name.toList = true) {rest : List Char}
    (stops : Stops rest) :
    operand nested (name.toList ++ rest) = .ok (some (wordOperand name, rest)) := by
  have taken := word?_append word stops
  obtain ⟨c, tail, shape, start, -⟩ := isWord_cases word
  have noNumber : ¬ (c.isDigit || c = '-' || c = '+') = true := by
    intro first
    simp only [Bool.or_eq_true, decide_eq_true_eq] at first
    rcases first with (digit | rfl) | rfl
    · rw [isDigit_eq_false_of_isWordStart start] at digit
      cases digit
    · exact absurd start (by decide)
    · exact absurd start (by decide)
  rw [shape, List.cons_append] at taken ⊢
  rw [operand, if_neg noNumber, taken, Option.map_some]
  · exact ne_of_class start (by decide)
  · exact ne_of_class start (by decide)
  · exact ne_of_class start (by decide)
  · exact ne_of_class start (by decide)

/-- The token is read as an operand equal to the given one, wherever an operand may end. -/
structure ReadsAs (nested : List Char → Except Fault (Term × List Char)) (token : List Char)
    (o : Operand) : Prop where
  start : ∃ c tail, token = c :: tail ∧ Text.isSpacing c = false
  reads : ∀ rest, Stops rest →
    ∃ read, operand nested (token ++ rest) = .ok (some (read, rest)) ∧ (read == o) = true

theorem ReadsAs.of_numeral {token : List Char} {s : Scalar} (numeral : IsNumeral token)
    (value : number? token = some s) :
    ReadsAs nested token (.literal s) := by
  constructor
  · obtain ⟨c, tail, shape, -⟩ := numeral.start
    have inside : isNumeric c = true := numeral.chars c (shape ▸ List.mem_cons_self)
    exact ⟨c, tail, shape, isSolid_isNumeric.isSpacing inside⟩
  · intro rest stops
    rw [operand_of_numeral numeral stops, value]
    exact ⟨_, rfl, (Operand.equates _).self⟩

theorem ReadsAs.of_word {name : String} (word : isWord name.toList = true) {o : Operand}
    (means : wordOperand name = o) : ReadsAs nested name.toList o := by
  constructor
  · obtain ⟨c, tail, shape, start, -⟩ := isWord_cases word
    exact ⟨c, tail, shape, isSolid_isWordStart.isSpacing start⟩
  · intro rest stops
    rw [operand_of_word word stops, means]
    exact ⟨o, rfl, o.equates.self⟩

theorem ReadsAs.of_string (s : String) :
    ReadsAs nested (quotedChars s.toList) (.literal (.string s)) := by
  refine ⟨⟨'\'', _, rfl, by decide⟩, fun rest _ => ⟨.literal (.string s), ?_, ?_⟩⟩
  · rw [quotedChars, List.cons_append, List.cons_append, List.append_assoc, operand,
      List.singleton_append, quoted?_append, Option.map_some]
    dsimp only
    rw [String.ofList_toList]
  · exact (Operand.equates _).self

theorem ReadsAs.of_placeholder (i : UInt64) :
    ReadsAs nested ('$' :: Decimal.natChars i.toNat) (.placeholder i) := by
  refine ⟨⟨'$', _, rfl, by decide⟩, fun rest stops => ⟨.placeholder i, ?_, ?_⟩⟩
  · rw [List.cons_append, operand, placeholder?_append i stops, Option.map_some]
  · exact (Operand.equates _).self

/-- The text of a pattern is read up to its closing slash, whatever follows it. -/
theorem operand_pattern {p : Pattern} (paired : Pattern.endsUnpaired p.source.toList = false)
    (compiles : ∃ q, Pattern.ofSource (String.ofList p.canonicalChars) = .ok q)
    (rest : List Char) :
    ∃ q : Pattern, operand nested (p.chars ++ rest) = .ok (some (.literal (.regex q), rest)) ∧
      (q == p) = true := by
  obtain ⟨q, compiled⟩ := compiles
  refine ⟨q, ?_, ?_⟩
  · have taken : slashed? (p.canonicalChars ++ '/' :: rest) = some (p.canonicalChars, rest) :=
      Pattern.slashed?_canonical paired rest
    rw [Pattern.chars, List.cons_append, List.cons_append, List.append_assoc, operand,
      List.singleton_append, taken]
    dsimp only
    rw [compiled]
  · have source : q.canonicalChars = p.canonicalChars := by
      rw [Pattern.canonicalChars, Pattern.source_of_ofSource compiled, String.toList_ofList]
      exact Pattern.canonical_canonical p.source.toList
    exact Pattern.beq_iff.2 source

theorem ReadsAs.of_regex {p : Pattern} (paired : Pattern.endsUnpaired p.source.toList = false)
    (compiles : ∃ q, Pattern.ofSource (String.ofList p.canonicalChars) = .ok q) :
    ReadsAs nested p.chars (.literal (.regex p)) := by
  refine ⟨⟨'/', _, rfl, by decide⟩, fun rest _ => ?_⟩
  obtain ⟨q, read, same⟩ := operand_pattern paired compiles rest
  exact ⟨.literal (.regex q), read, by rwa [Operand.literal_beq, Scalar.regex_beq]⟩

end Reader

/-- Every readable operand that is no nested term is read back. -/
theorem Operand.readsAs {nested : List Char → Except Reader.Fault (Term × List Char)}
    {o : Operand} (flat : ∀ t, o ≠ .nested t) (readable : o.IsReadable)
    (back : ∀ s, o = .literal s → s.ReadsBack) : Reader.ReadsAs nested o.chars o := by
  match o with
  | .nested t => exact absurd rfl (flat t)
  | .literal (.term _) => exact readable.elim
  | .literal (.integer n) =>
    exact .of_numeral (Reader.isNumeral_intChars _) (Reader.number?_intChars n)
  | .literal (.float x) =>
    exact .of_numeral (Reader.isNumeral_floatChars x)
      (Reader.number?_floatChars (Decimal.float?_floatChars (back _ rfl)))
  | .literal (.timestamp t) =>
    exact .of_numeral (Reader.isNumeral_timestamp t) (Reader.number?_timestamp (back _ rfl))
  | .literal (.string s) => exact .of_string s
  | .literal (.boolean true) =>
    exact @Reader.ReadsAs.of_word nested "true" (by decide) _ rfl
  | .literal (.boolean false) =>
    exact @Reader.ReadsAs.of_word nested "false" (by decide) _ rfl
  | .literal (.regex p) => exact .of_regex readable (back _ rfl)
  | .field name =>
    obtain ⟨word, notTrue, notFalse⟩ := readable
    refine .of_word word ?_
    rw [Reader.wordOperand, if_neg notTrue, if_neg notFalse]
  | .placeholder i => exact .of_placeholder i

/-! ## Operands in a row -/

namespace Reader

variable {nested : List Char → Except Fault (Term × List Char)} {operands : List Operand}
  {body closing : List Char}

theorem stops_of_areSpelled (spelled : Operand.AreSpelled operands body)
    (spacing : Text.IsGap closing) (rest : List Char) :
    Stops (body ++ (closing ++ ')' :: rest)) := by
  cases operands with
  | nil =>
      cases spelled
      exact Text.stops_of_closing spacing
  | cons o others =>
      obtain ⟨gap, token, tail, some, separating, -, -, rfl⟩ := spelled
      rw [List.append_assoc, List.append_assoc]
      exact Text.stops_of_gap some separating

/-- Every operand takes a character. -/
theorem length_le_of_areSpelled (spelled : Operand.AreSpelled operands body) :
    operands.length ≤ body.length := by
  induction operands generalizing body with
  | nil => exact Nat.zero_le _
  | cons o others ih =>
      obtain ⟨gap, token, tail, some, -, -, others, rfl⟩ := spelled
      have fewer := ih others
      have gapTakes : 0 < gap.length := List.length_pos_iff.2 some
      simp only [List.length_cons, List.length_append]
      omega

/-- A closing parenthesis is no operand. -/
theorem operand_closing (rest : List Char) : operand nested (')' :: rest) = .ok none := by
  rw [operand, if_neg (by decide), word?, if_neg (by decide), Option.map_none]
  all_goals decide

/-- Spelled operands are read in order, up to the spacing before the closing parenthesis. -/
theorem operands_of_areSpelled
    (reads : ∀ o ∈ operands, ∀ token, o.IsSpelled token → ReadsAs nested token o)
    (spelled : Operand.AreSpelled operands body) (spacing : Text.IsGap closing)
    (rest : List Char) {n : Nat} (enough : operands.length ≤ n) :
    ∃ read, Reader.operands nested n (body ++ (closing ++ ')' :: rest)) =
        .ok (read, closing ++ ')' :: rest) ∧
      Operand.listSame read operands = true := by
  induction operands generalizing body n with
  | nil =>
      cases spelled
      refine ⟨[], ?_, by rw [Operand.listSame]⟩
      cases n with
      | zero => rfl
      | succ n =>
          have paren : Text.skipSpacing (')' :: rest) = ')' :: rest :=
            Text.skipSpacing_cons (by decide)
          rw [List.nil_append, Reader.operands, Text.skipSpacing_gap spacing, paren,
            operand_closing]
          rfl
  | cons o others ih =>
      obtain ⟨gap, token, tail, some, separating, written, left, rfl⟩ := spelled
      obtain ⟨m, rfl⟩ : ∃ m, n = m + 1 := ⟨n - 1, by
        rw [List.length_cons] at enough
        omega⟩
      obtain ⟨⟨c, cs, shape, solid⟩, reading⟩ := reads o List.mem_cons_self token written
      have stops := stops_of_areSpelled left spacing rest
      obtain ⟨first, readFirst, sameFirst⟩ := reading _ stops
      obtain ⟨more, readMore, sameMore⟩ :=
        ih (fun o member => reads o (List.mem_cons_of_mem _ member)) left
          (Nat.le_of_succ_le_succ enough)
      have skipped : Text.skipSpacing (gap ++ token ++ tail ++ (closing ++ ')' :: rest)) =
          token ++ (tail ++ (closing ++ ')' :: rest)) := by
        rw [List.append_assoc, List.append_assoc, Text.skipSpacing_gap separating, shape,
          List.cons_append, Text.skipSpacing_cons solid]
      refine ⟨first :: more, ?_, ?_⟩
      · rw [Reader.operands, skipped, readFirst]
        show (Reader.operands nested m _ >>= _) = _
        rw [readMore]
        rfl
      · rw [Operand.listSame, Bool.and_eq_true]
        exact ⟨sameFirst, sameMore⟩

end Reader

/-! ## Terms -/

/-- One level of a spelled term is read as its name and what its operands are read as. -/
theorem Reader.term_of_parts {room : Nat} {name : String} {operands : List Operand}
    {opening body closing : List Char} (word : isWord name.toList = true)
    (reads : ∀ o ∈ operands, ∀ token, o.IsSpelled token → ReadsAs (term room) token o)
    (spelled : Operand.AreSpelled operands body) (before : Text.IsGap opening)
    (after : Text.IsGap closing) (rest : List Char) :
    ∃ read, term (room + 1) ('(' :: opening ++ name.toList ++ body ++ closing ++ [')'] ++ rest) =
        .ok (.ofName name read, rest) ∧
      Operand.listSame read operands = true := by
  have enough : operands.length ≤ (body ++ (closing ++ ')' :: rest)).length := by
    have taken := length_le_of_areSpelled spelled
    rw [List.length_append]
    omega
  obtain ⟨read, readOperands, same⟩ := operands_of_areSpelled reads spelled after rest enough
  have readName : word? (name.toList ++ (body ++ (closing ++ ')' :: rest))) =
      some (name, body ++ (closing ++ ')' :: rest)) :=
    word?_append word (stops_of_areSpelled spelled after rest)
  have atName : Text.skipSpacing
      (opening ++ (name.toList ++ (body ++ (closing ++ ')' :: rest)))) =
      name.toList ++ (body ++ (closing ++ ')' :: rest)) := by
    obtain ⟨c, tail, shape, start, -⟩ := isWord_cases word
    rw [Text.skipSpacing_gap before, shape]
    exact Text.skipSpacing_cons (isSolid_isWordStart.isSpacing start)
  have atParen : Text.skipSpacing (closing ++ ')' :: rest) = ')' :: rest := by
    rw [Text.skipSpacing_gap after]
    exact Text.skipSpacing_cons (by decide)
  have joined : '(' :: opening ++ name.toList ++ body ++ closing ++ [')'] ++ rest =
      '(' :: (opening ++ (name.toList ++ (body ++ (closing ++ ')' :: rest)))) := by
    simp only [List.cons_append, List.append_assoc, List.nil_append]
  refine ⟨read, ?_, same⟩
  rw [joined, term]
  dsimp only
  rw [atName, readName]
  dsimp only
  rw [readOperands]
  simp only [bind, Except.bind, atParen]
  rfl

theorem Term.starts_of_isSpelled {t : Term} {cs : List Char} (spelled : t.IsSpelled cs) :
    ∃ tail, cs = '(' :: tail := by
  cases t with
  | mk op operands =>
      obtain ⟨opening, body, closing, -, -, -, rfl⟩ := spelled
      exact ⟨_, rfl⟩

theorem Reader.ReadsAs.of_nested {room : Nat} {t : Term} {cs : List Char}
    (written : t.IsSpelled cs)
    (reads : ∀ rest, ∃ read, Reader.term room (cs ++ rest) = .ok (read, rest) ∧
      (read == t) = true) : Reader.ReadsAs (Reader.term room) cs (.nested t) := by
  obtain ⟨tail, rfl⟩ := Term.starts_of_isSpelled written
  refine ⟨⟨'(', tail, rfl, by decide⟩, fun rest _ => ?_⟩
  obtain ⟨read, reading, same⟩ := reads rest
  refine ⟨.nested read, ?_, (Operand.nested_beq _ _).trans same⟩
  rw [List.cons_append] at reading ⊢
  rw [Reader.operand, reading]

/-- A spelled term is read as an equal one, and what follows it is left. -/
theorem Term.term_of_isSpelled {t : Term} (operators : ∀ u ∈ t.walk, u.operator.IsReadable)
    (flat : ∀ u ∈ t.walk, ∀ o ∈ u.operands, o.IsReadable) (back : t.LiteralsReadBack)
    {room : Nat} (shallow : t.depth ≤ room) {cs : List Char} (spelled : t.IsSpelled cs)
    (rest : List Char) :
    ∃ read, Reader.term room (cs ++ rest) = .ok (read, rest) ∧ (read == t) = true := by
  induction t using Term.nested_induction generalizing room cs rest with
  | step op operands ih =>
      have self := Term.self_mem_walk (.mk op operands)
      have inside : ∀ t, .nested t ∈ operands → ∀ u ∈ t.walk, u ∈ (Term.mk op operands).walk :=
        fun t member u below => Term.mem_walk.2 (.inr ⟨t, member, below⟩)
      rw [Term.depth] at shallow
      obtain ⟨below, rfl⟩ : ∃ below, room = below + 1 := ⟨room - 1, by omega⟩
      have reads : ∀ o ∈ operands, ∀ token, o.IsSpelled token →
          Reader.ReadsAs (Reader.term below) token o := by
        intro o member token written
        have deep := Operand.depth_le_listDepth member
        rcases o.nested_or_flat with ⟨t, rfl⟩ | noTerm
        · rw [Operand.depth] at deep
          rw [Operand.IsSpelled] at written
          exact .of_nested written fun rest =>
            ih t member (fun u below => operators u (inside t member u below))
              (fun u below => flat u (inside t member u below))
              (fun u below => back u (inside t member u below)) (by omega) written rest
        · rw [(Operand.isSpelled_of_flat noTerm).1 written]
          refine Operand.readsAs noTerm (flat _ self o member) fun s literal => ?_
          exact back _ self s (literal ▸ member)
      obtain ⟨opening, body, closing, before, after, written, rfl⟩ := spelled
      obtain ⟨word, named⟩ := operators _ self
      obtain ⟨read, reading, same⟩ :=
        Reader.term_of_parts word reads written before after rest
      refine ⟨.ofName op.name read, reading, ?_⟩
      show Term.same (.mk (.ofName op.name) read) (.mk op operands) = true
      have sameOperator : Operator.ofName op.name = op := named
      rw [Term.same, sameOperator, same, beq_self_eq_true, Bool.and_self]

/-! ## Whole texts -/

/-- **Reading undoes printing, in any spacing.**  Every spelling of a readable term whose
literals read back is read, and as a term equal to it. -/
theorem Term.ofText_of_isSpelling {t : Term} (readable : t.IsReadable)
    (back : t.LiteralsReadBack) {source : String} (spelling : t.IsSpelling source) :
    ∃ read, Term.ofText source = .ok read ∧ (read == t) = true := by
  obtain ⟨before, cs, after, leading, trailing, spelled, text⟩ := spelling
  obtain ⟨read, reading, same⟩ := Term.term_of_isSpelled readable.operators readable.operands
    back readable.depth spelled after
  obtain ⟨tail, shape⟩ := Term.starts_of_isSpelled spelled
  have notBlank : ¬ (before ++ cs ++ after).all Text.isBlank = true := by
    intro blank
    have paren : Text.isBlank '(' = true := by
      refine List.all_eq_true.1 blank '(' ?_
      rw [shape]
      simp
    exact absurd paren (by decide)
  have atTerm : Text.skipSpacing (before ++ cs ++ after) = cs ++ after := by
    rw [List.append_assoc, Text.skipSpacing_gap leading, shape, List.cons_append,
      Text.skipSpacing_cons (by decide)]
  have atEnd : Text.skipSpacing after = [] := by
    have skipped := @Text.skipSpacing_gap after [] trailing
    rwa [List.append_nil] at skipped
  refine ⟨read, ?_, same⟩
  have whole : Reader.whole (before ++ cs ++ after) = .ok read := by
    unfold Reader.whole
    rw [atTerm, reading]
    simp only [bind, Except.bind, atEnd]
    rfl
  rw [Term.ofText, text, Term.ofChars, if_neg notBlank, whole]

/-- `(scale price 2.5 -7)`. -/
def Term.scaledPrice : Term :=
  .mk (.custom "scale")
    [.field "price", .literal (.float (.ofDecimal false 25 (-1))), .literal (.integer (-7))]

/-- `(either $0 (scale price 2.5 -7) 'it\'s' p)`. -/
def Term.assorted (p : Pattern) : Term :=
  .mk (.builtin .either)
    [.placeholder 0, .nested .scaledPrice, .literal (.string "it's"), .literal (.regex p)]

theorem Term.mem_walk_assorted {p : Pattern} {u : Term} (inside : u ∈ (assorted p).walk) :
    u = assorted p ∨ u = scaledPrice := by
  unfold assorted at inside
  rcases Term.mem_walk.1 inside with rfl | ⟨t, nested, inside⟩
  · exact .inl rfl
  · simp only [List.mem_cons, reduceCtorEq, Operand.nested.injEq, List.not_mem_nil, false_or,
      or_false] at nested
    subst nested
    unfold scaledPrice at inside
    rcases Term.mem_walk.1 inside with rfl | ⟨t, nested, -⟩
    · exact .inr rfl
    · simp at nested

theorem Term.ofText_of_isSpelling_assorted :
    ∃ p, Pattern.ofSource "a/b" = .ok p ∧
      ∃ read, Term.ofText "( either\n$0 (scale price\t2.5 -7)  'it\\'s' /a\\/b/ )\n" = .ok read ∧
        (read == Term.assorted p) = true := by
  obtain ⟨p, compiled⟩ := @Pattern.exists_ofSource "a/b" (by decide +kernel)
  have source := Pattern.source_of_ofSource compiled
  have canonical : p.canonicalChars = ['a', '\\', '/', 'b'] := by
    rw [Pattern.canonicalChars, source]
    decide
  refine ⟨p, compiled, Term.ofText_of_isSpelling ⟨?operators, ?operands, ?depth⟩ ?back ?spelling⟩
  case operators =>
    intro u inside
    rcases Term.mem_walk_assorted inside with rfl | rfl
    · constructor
      · show Reader.isWord "either".toList = true
        decide
      · show Operator.ofName "either" = .builtin .either
        decide
    · constructor
      · show Reader.isWord "scale".toList = true
        decide
      · show Operator.ofName "scale" = .custom "scale"
        decide
  case operands =>
    intro u inside o member
    rcases Term.mem_walk_assorted inside with rfl | rfl
    · simp only [Term.assorted, Term.operands, List.mem_cons, List.not_mem_nil, or_false] at member
      rcases member with rfl | rfl | rfl | rfl
      · trivial
      · trivial
      · trivial
      · show Pattern.endsUnpaired p.source.toList = false
        rw [source]
        decide
    · simp only [Term.scaledPrice, Term.operands, List.mem_cons, List.not_mem_nil,
        or_false] at member
      rcases member with rfl | rfl | rfl
      · exact ⟨by decide, by decide, by decide⟩
      · trivial
      · trivial
  case depth =>
    simp only [Term.assorted, Term.scaledPrice, Term.depth, Operand.listDepth, Operand.depth]
    decide
  case back =>
    intro u inside s member
    rcases Term.mem_walk_assorted inside with rfl | rfl
    · simp only [Term.assorted, Term.operands, List.mem_cons, reduceCtorEq, Operand.literal.injEq,
        List.not_mem_nil, false_or, or_false] at member
      rcases member with rfl | rfl
      · trivial
      · show ∃ q, Pattern.ofSource (String.ofList p.canonicalChars) = .ok q
        rw [canonical]
        exact Pattern.exists_ofSource (by decide +kernel)
    · simp only [Term.scaledPrice, Term.operands, List.mem_cons, reduceCtorEq,
        Operand.literal.injEq, List.not_mem_nil, false_or, or_false] at member
      rcases member with rfl | rfl
      · intro _
        show Decimal.float? (Decimal.floatChars (.ofDecimal false 25 (-1))) =
          some (.ofDecimal false 25 (-1))
        decide +kernel
      · trivial
  case spelling =>
    have gap : ∀ c, Text.isSpacing c = true → Text.IsGap [c] := fun c spacing d member =>
      List.mem_singleton.1 member ▸ spacing
    have inner : scaledPrice.IsSpelled "(scale price\t2.5 -7)".toList := by
      refine ⟨[], " price\t2.5 -7".toList, [], Text.isGap_nil, Text.isGap_nil, ?_, by decide⟩
      refine ⟨[' '], "price".toList, "\t2.5 -7".toList, List.cons_ne_nil _ _, gap ' ' rfl, rfl,
        ?_, by decide⟩
      refine ⟨['\t'], "2.5".toList, " -7".toList, List.cons_ne_nil _ _, gap '\t' rfl, ?_, ?_,
        by decide⟩
      · show _ = Decimal.floatChars (.ofDecimal false 25 (-1))
        decide +kernel
      · have number : (Operand.literal (.integer (-7))).IsSpelled "-7".toList :=
          show _ = Decimal.intChars (-7) by decide +kernel
        exact ⟨[' '], "-7".toList, [], List.cons_ne_nil _ _, gap ' ' rfl, number, rfl, by decide⟩
    refine ⟨[], "( either\n$0 (scale price\t2.5 -7)  'it\\'s' /a\\/b/ )".toList, ['\n'],
      Text.isGap_nil, gap '\n' rfl, ?_, by decide⟩
    refine ⟨[' '], "\n$0 (scale price\t2.5 -7)  'it\\'s' /a\\/b/".toList, [' '], gap ' ' rfl,
      gap ' ' rfl, ?_, by decide⟩
    refine ⟨['\n'], "$0".toList, " (scale price\t2.5 -7)  'it\\'s' /a\\/b/".toList,
      List.cons_ne_nil _ _, gap '\n' rfl, show _ = '$' :: Decimal.natChars 0 by decide, ?_,
      by decide⟩
    refine ⟨[' '], "(scale price\t2.5 -7)".toList, "  'it\\'s' /a\\/b/".toList,
      List.cons_ne_nil _ _, gap ' ' rfl, inner, ?_, by decide⟩
    refine ⟨[' ', ' '], "'it\\'s'".toList, " /a\\/b/".toList, List.cons_ne_nil _ _,
      List.all_eq_true.1 (by decide),
      show _ = quotedChars "it's".toList by decide, ?_, by decide⟩
    refine ⟨[' '], "/a\\/b/".toList, [], List.cons_ne_nil _ _, gap ' ' rfl, ?_, rfl, by decide⟩
    show _ = '/' :: p.canonicalChars ++ ['/']
    rw [canonical]
    decide

end FactScan
