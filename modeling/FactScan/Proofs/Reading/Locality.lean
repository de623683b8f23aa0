/-
# FactScan.Proofs.Reading.Locality — a term ends at its last parenthesis

A string or a pattern ends with its own delimiter, but a word or a number goes on as far as its
characters do, so an operand is settled only by the character after it (`Reader.IsLocal`).
Inside a term there always is one, for the term goes on up to the parenthesis that closes it.
So of a term that was read every operand was settled within the term, and what follows the
parenthesis has no say in it (`Reader.closes_term`).  It does not matter how an operand that
was tried in vain would have gone on: a term with such an operand is refused.

* `Term.ofText_append`: behind a text that is read, spacing is passed over, and anything else is
  refused at its place.
-/
import Mathlib.Data.List.TakeWhile
import FactScan.Proofs.Reading.Slashes

namespace FactScan

set_option autoImplicit false

/-! ## Spacing -/

namespace Text

/-- A text is a run of spacing and what is left of it. -/
theorem exists_gap (cs : List Char) : ∃ gap, IsGap gap ∧ cs = gap ++ skipSpacing cs :=
  ⟨cs.takeWhile isSpacing, fun _ member => List.mem_takeWhile_imp member,
    List.takeWhile_append_dropWhile.symm⟩

theorem skipSpacing_eq_nil_iff {cs : List Char} : skipSpacing cs = [] ↔ IsGap cs :=
  List.dropWhile_eq_nil_iff

theorem byteCount_append (cs ds : List Char) :
    byteCount (cs ++ ds) = byteCount cs + byteCount ds := by
  induction cs with
  | nil => rw [List.nil_append, byteCount, Nat.zero_add]
  | cons c rest ih => rw [List.cons_append, byteCount, byteCount, ih, Nat.add_assoc]

end Text

namespace Reader

/-! ## Tokens -/

/-- What is read is settled by the characters taken, of which there are some, and the one after
them: whatever may follow that one. -/
def IsLocal {α : Type} (Reads : List Char → α → List Char → Prop) : Prop :=
  ∀ cs a d rest, Reads cs a (d :: rest) →
    ∃ c taken, cs = c :: taken ++ d :: rest ∧
      ∀ rest', Reads (c :: taken ++ d :: rest') a (d :: rest')

/-- A run of characters of a class is settled by the first one that is not of it. -/
theorem exists_taken {p : Char → Bool} {cs rest : List Char} {d : Char}
    (left : cs.dropWhile p = d :: rest) :
    ∃ taken, cs = taken ++ d :: rest ∧
      ∀ rest', (taken ++ d :: rest').takeWhile p = cs.takeWhile p ∧
        (taken ++ d :: rest').dropWhile p = d :: rest' := by
  have inside : ∀ c ∈ cs.takeWhile p, p c = true := fun _ member => List.mem_takeWhile_imp member
  have outside : ¬ p d = true := by
    have stopped := List.head?_dropWhile_not p cs
    rw [left] at stopped
    simpa using stopped
  refine ⟨cs.takeWhile p, by rw [← left, List.takeWhile_append_dropWhile], fun rest' => ?_⟩
  rw [List.takeWhile_append_of_pos inside, List.dropWhile_append_of_pos inside,
    List.takeWhile_cons_of_neg outside, List.dropWhile_cons_of_neg outside, List.append_nil]
  exact ⟨rfl, rfl⟩

theorem isLocal_word? : IsLocal fun cs name rest => word? cs = some (name, rest) := by
  intro cs name d rest read
  cases cs with
  | nil => cases read
  | cons c tail =>
      by_cases start : isWordStart c = true
      · rw [word?, if_pos start] at read
        injection read with read
        obtain ⟨named, left⟩ := Prod.mk.inj read
        obtain ⟨taken, shape, again⟩ := exists_taken left
        refine ⟨c, taken, by rw [shape, List.cons_append], fun rest' => ?_⟩
        obtain ⟨same, left'⟩ := again rest'
        rw [List.cons_append, word?, if_pos start, same, left', named]
      · rw [word?, if_neg start] at read
        cases read

theorem isLocal_placeholder? :
    IsLocal fun cs index rest => placeholder? cs = some (index, rest) := by
  intro cs index d rest read
  obtain ⟨n, number, made⟩ := Option.bind_eq_some_iff.1 read
  split at made
  · rename_i fits
    injection made with made
    obtain ⟨indexed, left⟩ := Prod.mk.inj made
    obtain ⟨taken, shape, again⟩ := exists_taken left
    cases taken with
    | nil =>
        -- A placeholder has a digit.
        have stopped := (again rest).1
        rw [List.nil_append] at shape stopped
        have outside := List.head?_dropWhile_not Char.isDigit cs
        rw [left] at outside
        rw [shape, List.takeWhile_cons_of_neg (by simpa using outside)] at number
        cases number
    | cons c taken =>
        refine ⟨c, taken, shape, fun rest' => ?_⟩
        obtain ⟨same, left'⟩ := again rest'
        unfold placeholder?
        rw [same, left', number]
        show (if _ then _ else _) = _
        rw [if_pos fits, indexed]
  · cases made

theorem isLocal_quoted? : IsLocal fun cs s rest => quoted? cs = some (s, rest) := by
  intro cs s d rest read
  fun_induction quoted? cs generalizing s with
  | case1 => cases read
  | case2 tail =>
      cases read
      exact ⟨'\'', [], rfl, fun rest' => rfl⟩
  | case3 => cases read
  | case4 c tail ih =>
      obtain ⟨⟨s', after⟩, inner, same⟩ := Option.map_eq_some_iff.1 read
      cases same
      obtain ⟨c', taken, rfl, again⟩ := ih _ inner
      refine ⟨'\\', c :: c' :: taken, rfl, fun rest' => ?_⟩
      show quoted? ('\\' :: c :: (c' :: taken ++ d :: rest')) = _
      rw [quoted?, again rest', Option.map_some]
  | case5 c tail noQuote noLone noPair ih =>
      obtain ⟨⟨s', after⟩, inner, same⟩ := Option.map_eq_some_iff.1 read
      cases same
      obtain ⟨c', taken, rfl, again⟩ := ih _ inner
      have noBackslash := Pattern.ne_backslash noLone noPair
      refine ⟨c, c' :: taken, rfl, fun rest' => ?_⟩
      show quoted? (c :: (c' :: taken ++ d :: rest')) = _
      rw [quoted?, again rest', Option.map_some]
      · exact noQuote
      · exact fun same => absurd same noBackslash
      · exact fun _ _ same => absurd same noBackslash

theorem isLocal_slashed? : IsLocal fun cs source rest => slashed? cs = some (source, rest) := by
  intro cs source d rest read
  obtain ⟨rfl, canonical⟩ := slashed?_eq_some_iff.1 read
  have again : ∀ rest', slashed? (source ++ '/' :: rest') = some (source, rest') :=
    fun rest' => slashed?_eq_some_iff.2 ⟨rfl, canonical⟩
  cases source with
  | nil => exact ⟨'/', [], rfl, fun rest' => again _⟩
  | cons c tail =>
      refine ⟨c, tail ++ ['/'], by simp, fun rest' => ?_⟩
      have read' := again (d :: rest')
      simpa using read'

/-- What is read behind spacing, and goes on with a text that ends in a parenthesis, is read the
same whatever follows that. -/
theorem IsLocal.before {α : Type} {Reads : List Char → α → List Char → Prop}
    (isLocal : IsLocal Reads) {cs body tail : List Char} {a : α}
    (read : Reads (Text.skipSpacing cs) a (body ++ ')' :: tail)) :
    ∃ taken, cs = taken ++ (body ++ ')' :: tail) ∧ taken ≠ [] ∧
      ∀ tail', Reads (Text.skipSpacing (taken ++ (body ++ ')' :: tail'))) a
        (body ++ ')' :: tail') := by
  obtain ⟨d, next⟩ : ∃ d, ∀ tail, ∃ rest, body ++ ')' :: tail = d :: rest := by
    cases body with
    | nil => exact ⟨')', fun tail => ⟨tail, rfl⟩⟩
    | cons d body => exact ⟨d, fun tail => ⟨body ++ ')' :: tail, rfl⟩⟩
  obtain ⟨rest, starts⟩ := next tail
  rw [starts] at read ⊢
  obtain ⟨c, token, taken, again⟩ := isLocal _ _ _ _ read
  obtain ⟨gap, spacing, shape⟩ := Text.exists_gap cs
  have solid : Text.isSpacing c = false := by
    have stopped := List.head?_dropWhile_not Text.isSpacing cs
    rw [show cs.dropWhile Text.isSpacing = _ from taken] at stopped
    simpa using stopped
  refine ⟨gap ++ c :: token, ?_, by simp, fun tail' => ?_⟩
  · rw [shape, taken, List.append_assoc]
  · obtain ⟨rest', starts'⟩ := next tail'
    rw [starts', List.append_assoc, Text.skipSpacing_gap spacing, List.cons_append,
      Text.skipSpacing_cons solid]
    exact again rest'

/-! ## Operands -/

/-- A reader of terms takes what it reads up to a closing parenthesis, and reads the same whatever
follows that. -/
def Closes (read : List Char → Except Fault (Term × List Char)) : Prop :=
  ∀ cs t rest, read cs = .ok (t, rest) →
    ∃ taken, cs = '(' :: taken ++ ')' :: rest ∧
      ∀ rest', read ('(' :: taken ++ ')' :: rest') = .ok (t, rest')

variable {nested : List Char → Except Fault (Term × List Char)}

theorem isNumeric_of_number {c : Char}
    (number : (c.isDigit || decide (c = '-') || decide (c = '+')) = true) :
    isNumeric c = true := by
  simp only [Bool.or_eq_true, decide_eq_true_eq] at number
  rcases number with (digit | rfl) | rfl
  · exact isNumeric_of_isDigit digit
  · decide
  · decide

/-- **An operand is settled by the character after it.** -/
theorem isLocal_operand (closes : Closes nested) :
    IsLocal fun cs o rest => operand nested cs = .ok (some (o, rest)) := by
  intro cs o d rest read
  unfold operand at read
  split at read
  · cases read
  · split at read
    · rename_i t after term
      cases read
      obtain ⟨taken, shape, again⟩ := closes _ _ _ term
      refine ⟨'(', taken ++ [')'], by simp [shape], fun rest' => ?_⟩
      have read' := again (d :: rest')
      rw [List.cons_append] at read'
      simp [operand, read']
    · split at read <;> cases read
  · obtain ⟨⟨s, after⟩, quoted, same⟩ := Option.map_eq_some_iff.1 (Except.ok.inj read)
    cases same
    obtain ⟨c, taken, rfl, again⟩ := isLocal_quoted? _ _ _ _ quoted
    refine ⟨'\'', c :: taken, rfl, fun rest' => ?_⟩
    have read' : quoted? (c :: taken ++ d :: rest') = some (s, d :: rest') := again rest'
    show operand nested ('\'' :: (c :: taken ++ d :: rest')) = _
    rw [operand, read', Option.map_some]
  · split at read
    · cases read
    · rename_i source after slashed
      split at read
      · rename_i p compiled
        cases read
        obtain ⟨c, taken, rfl, again⟩ := isLocal_slashed? _ _ _ _ slashed
        refine ⟨'/', c :: taken, rfl, fun rest' => ?_⟩
        have read' : slashed? (c :: taken ++ d :: rest') = some (source, d :: rest') :=
          again rest'
        show operand nested ('/' :: (c :: taken ++ d :: rest')) = _
        rw [operand, read']
        dsimp only
        rw [compiled]
      · cases read
  · obtain ⟨⟨i, after⟩, index, same⟩ := Option.map_eq_some_iff.1 (Except.ok.inj read)
    cases same
    obtain ⟨c, taken, rfl, again⟩ := isLocal_placeholder? _ _ _ _ index
    refine ⟨'$', c :: taken, rfl, fun rest' => ?_⟩
    have read' : placeholder? (c :: taken ++ d :: rest') = some (i, d :: rest') := again rest'
    show operand nested ('$' :: (c :: taken ++ d :: rest')) = _
    rw [operand, read', Option.map_some]
  · rename_i c tail noParen noQuote noSlash noDollar
    split at read
    · rename_i number
      obtain ⟨a, value, same⟩ := Option.map_eq_some_iff.1 (Except.ok.inj read)
      obtain ⟨rfl, left⟩ := Prod.mk.inj same
      have numeric : isNumeric c = true := isNumeric_of_number number
      rw [List.takeWhile_cons_of_pos numeric] at value
      rw [List.dropWhile_cons_of_pos numeric] at left
      obtain ⟨taken, rfl, again⟩ := exists_taken left
      refine ⟨c, taken, rfl, fun rest' => ?_⟩
      obtain ⟨same', left'⟩ := again rest'
      show operand nested (c :: (taken ++ d :: rest')) = _
      rw [operand, if_pos number, List.takeWhile_cons_of_pos numeric,
        List.dropWhile_cons_of_pos numeric, same', left', value, Option.map_some]
      · exact noParen
      · exact noQuote
      · exact noSlash
      · exact noDollar
    · rename_i noNumber
      obtain ⟨⟨name, after⟩, word, same⟩ := Option.map_eq_some_iff.1 (Except.ok.inj read)
      cases same
      obtain ⟨c', taken, shape, again⟩ := isLocal_word? _ _ _ _ word
      cases shape
      refine ⟨c, taken, rfl, fun rest' => ?_⟩
      have read' : word? (c :: taken ++ d :: rest') = some (name, d :: rest') := again rest'
      rw [List.cons_append] at read'
      show operand nested (c :: (taken ++ d :: rest')) = _
      rw [operand, if_neg noNumber, read', Option.map_some]
      · exact noParen
      · exact noQuote
      · exact noSlash
      · exact noDollar

/-! ## Operands in a row -/

/-- The text is some operands with spacing around them, as far as they are read before a closing
parenthesis, whatever follows that. -/
def IsRow (nested : List Char → Except Fault (Term × List Char)) (os : List Operand)
    (taken : List Char) : Prop :=
  os.length ≤ taken.length ∧
    ∀ n tail, os.length ≤ n →
      ∃ rest, operands nested n (taken ++ ')' :: tail) = .ok (os, rest) ∧
        Text.skipSpacing rest = ')' :: tail

theorem isRow_nil {gap : List Char} (spacing : Text.IsGap gap) : IsRow nested [] gap := by
  have closing : ∀ tail, Text.skipSpacing (gap ++ ')' :: tail) = ')' :: tail := by
    intro tail
    rw [Text.skipSpacing_gap spacing, Text.skipSpacing_cons (by decide)]
  refine ⟨Nat.zero_le _, fun n tail _ => ⟨gap ++ ')' :: tail, ?_, closing tail⟩⟩
  cases n with
  | zero => rfl
  | succ n =>
      rw [operands, closing, operand_closing]
      rfl

theorem isRow_cons {taken others : List Char} {o : Operand} {os : List Operand}
    (some_ : taken ≠ [])
    (first : ∀ tail, operand nested (Text.skipSpacing (taken ++ (others ++ ')' :: tail))) =
      .ok (some (o, others ++ ')' :: tail)))
    (row : IsRow nested os others) : IsRow nested (o :: os) (taken ++ others) := by
  obtain ⟨fewer, more⟩ := row
  have takes : 0 < taken.length := List.length_pos_iff.2 some_
  refine ⟨?_, fun n tail enough => ?_⟩
  · rw [List.length_append, List.length_cons]
    omega
  · obtain ⟨m, rfl⟩ : ∃ m, n = m + 1 := ⟨n - 1, by
      rw [List.length_cons] at enough
      omega⟩
    obtain ⟨rest, read, closing⟩ := more m tail (Nat.le_of_succ_le_succ enough)
    refine ⟨rest, ?_, closing⟩
    rw [operands, List.append_assoc, first tail]
    show (operands nested m _ >>= _) = _
    rw [read]
    rfl

/-- **Operands that were read up to a parenthesis are read the same whatever follows it.** -/
theorem exists_isRow (closes : Closes nested) {n : Nat} {cs rest tail : List Char}
    {os : List Operand} (read : operands nested n cs = .ok (os, rest))
    (closing : Text.skipSpacing rest = ')' :: tail) :
    ∃ taken, cs = taken ++ ')' :: tail ∧ IsRow nested os taken := by
  have none_ : ∀ {cs}, Text.skipSpacing cs = ')' :: tail →
      ∃ taken, cs = taken ++ ')' :: tail ∧ IsRow nested [] taken := by
    intro cs closing
    obtain ⟨gap, spacing, shape⟩ := Text.exists_gap cs
    exact ⟨gap, by rwa [closing] at shape, isRow_nil spacing⟩
  induction n generalizing cs os with
  | zero =>
      cases read
      exact none_ closing
  | succ n ih =>
      rw [operands] at read
      cases first : operand nested (Text.skipSpacing cs) with
      | error f =>
          rw [first] at read
          cases read
      | ok found =>
          rw [first] at read
          cases found with
          | none =>
              cases read
              exact none_ closing
          | some found =>
              obtain ⟨o, after⟩ := found
              simp only [bind, Except.bind] at read
              cases more : operands nested n after with
              | error f =>
                  rw [more] at read
                  cases read
              | ok found =>
                  rw [more] at read
                  cases read
                  obtain ⟨others, rfl, row⟩ := ih more
                  obtain ⟨taken, rfl, some_, again⟩ := (isLocal_operand closes).before first
                  exact ⟨taken ++ others, by rw [List.append_assoc], isRow_cons some_ again row⟩

/-! ## Terms -/

/-- **A term is settled by its last parenthesis**: what is behind that is left as it is. -/
theorem closes_term (room : Nat) : Closes (term room) := by
  induction room with
  | zero =>
      intro cs t rest read
      unfold term at read
      split at read <;> cases read
  | succ room ih =>
      intro cs t rest read
      unfold term at read
      split at read
      · dsimp only at read
        split at read
        · cases read
        · rename_i name atOperands word
          cases more : operands (term room) atOperands.length atOperands with
          | error f =>
              rw [more] at read
              cases read
          | ok found =>
              obtain ⟨os, after⟩ := found
              rw [more] at read
              simp only [bind, Except.bind] at read
              split at read
              · rename_i closing
                cases read
                obtain ⟨body, rfl, fewer, row⟩ := exists_isRow ih more closing
                obtain ⟨taken, rfl, -, again⟩ := isLocal_word?.before word
                refine ⟨taken ++ body, by simp, fun rest' => ?_⟩
                have enough : os.length ≤ (body ++ ')' :: rest').length := by
                  rw [List.length_append]
                  omega
                obtain ⟨after', read', closing'⟩ := row _ rest' enough
                rw [List.cons_append, List.append_assoc, term]
                dsimp only
                rw [again rest']
                dsimp only
                rw [read']
                simp only [bind, Except.bind, closing']
                rfl
              · cases read
      · cases read

end Reader

/-! ## Whole texts -/

namespace Text

theorem byteCount_toList (source : String) : byteCount source.toList = source.utf8ByteSize := by
  have ofList : ∀ cs : List Char, (String.ofList cs).utf8ByteSize = byteCount cs := by
    intro cs
    induction cs with
    | nil => rw [String.ofList_nil, String.utf8ByteSize_empty, byteCount]
    | cons c rest ih =>
        have apart : String.ofList (c :: rest) = String.singleton c ++ String.ofList rest := by
          rw [String.singleton_eq_ofList, ← String.ofList_append]
          rfl
        rw [apart, String.utf8ByteSize_append, String.utf8ByteSize_singleton, ih, byteCount]
  rw [← ofList, String.ofList_toList]

end Text

/-- A text that is read is a term with spacing around it. -/
theorem Term.exists_chars_of_ofText {source : String} {t : Term}
    (accepted : Term.ofText source = .ok t) :
    ∃ before taken after, Text.IsGap before ∧ Text.IsGap after ∧
      source.toList = before ++ '(' :: taken ++ ')' :: after ∧
      ∀ rest, Reader.term Reader.maxNesting ('(' :: taken ++ ')' :: rest) = .ok (t, rest) := by
  obtain ⟨rest, read, ended⟩ := term_of_ofText accepted
  obtain ⟨before, leading, shape⟩ := Text.exists_gap source.toList
  obtain ⟨taken, text, again⟩ := Reader.closes_term _ _ _ _ read
  rw [text, ← List.append_assoc] at shape
  exact ⟨before, taken, rest, leading, Text.skipSpacing_eq_nil_iff.1 ended, shape, again⟩

/-- What is read of a text with some more behind it. -/
theorem Term.ofText_append_eq {source : String} {t : Term} (accepted : Term.ofText source = .ok t)
    (rest : String) :
    Term.ofText (source ++ rest) =
      match Text.skipSpacing rest.toList with
      | [] => .ok t
      | left => .error (.syntaxError
          (Text.byteCount (source ++ rest).toList - Text.byteCount left)
          Reader.FaultKind.trailing.message) := by
  obtain ⟨before, taken, after, leading, trailing, shape, again⟩ :=
    exists_chars_of_ofText accepted
  have text : (source ++ rest).toList =
      before ++ ('(' :: taken ++ ')' :: (after ++ rest.toList)) := by
    rw [String.toList_append, shape]
    simp
  have notBlank : ¬ (source ++ rest).toList.all Text.isBlank = true := by
    intro blank
    have paren : Text.isBlank '(' = true := by
      refine List.all_eq_true.1 blank '(' ?_
      rw [text]
      simp
    exact absurd paren (by decide)
  have atTerm : Text.skipSpacing (source ++ rest).toList =
      '(' :: taken ++ ')' :: (after ++ rest.toList) := by
    rw [text, Text.skipSpacing_gap leading, List.cons_append, Text.skipSpacing_cons (by decide)]
  rw [Term.ofText, Term.ofChars, if_neg notBlank]
  unfold Reader.whole
  rw [atTerm, again]
  simp only [bind, Except.bind, Text.skipSpacing_gap trailing]
  cases Text.skipSpacing rest.toList <;> rfl

theorem Term.ofText_append_gap {source rest : String} {t : Term}
    (accepted : Term.ofText source = .ok t) (gap : Text.IsGap rest.toList) :
    Term.ofText (source ++ rest) = .ok t := by
  rw [ofText_append_eq accepted, Text.skipSpacing_eq_nil_iff.2 gap]

theorem Term.ofText_append_trailing {source rest : String} {t : Term}
    (accepted : Term.ofText source = .ok t) (trailing : ¬ Text.IsGap rest.toList) :
    Term.ofText (source ++ rest) = .error (.syntaxError
      (source.utf8ByteSize + (String.ofList (rest.toList.takeWhile Text.isSpacing)).utf8ByteSize)
      Reader.FaultKind.trailing.message) := by
  rw [ofText_append_eq accepted]
  split
  · rename_i nothing
    exact absurd (Text.skipSpacing_eq_nil_iff.1 nothing) trailing
  · have parts := congrArg Text.byteCount
      (List.takeWhile_append_dropWhile (p := Text.isSpacing) (l := rest.toList))
    rw [Text.byteCount_append, show rest.toList.dropWhile Text.isSpacing = _ from rfl] at parts
    rw [String.toList_append, Text.byteCount_append, ← parts, Text.byteCount_toList,
      ← Text.byteCount_toList (String.ofList _), String.toList_ofList]
    congr 2
    show source.utf8ByteSize + (_ + Text.byteCount (Text.skipSpacing rest.toList)) -
      Text.byteCount (Text.skipSpacing rest.toList) = _
    omega

/-- **Terms are self-delimiting.**  Behind a text that is read as a term, spacing is passed over
and the text is read as the same term; anything else is refused as trailing input, at the first
byte that is no spacing.  So no text is read from which the last closing parenthesis, and perhaps
more, was taken away: a truncated term is not another term. -/
theorem Term.ofText_append {source : String} {t : Term} (accepted : Term.ofText source = .ok t) :
    (∀ rest : String,
      (Text.IsGap rest.toList → Term.ofText (source ++ rest) = .ok t) ∧
      (¬ Text.IsGap rest.toList →
        Term.ofText (source ++ rest) = .error (.syntaxError
          (source.utf8ByteSize +
            (String.ofList (rest.toList.takeWhile Text.isSpacing)).utf8ByteSize)
          "unexpected trailing input"))) ∧
    ∀ front back : String, source = front ++ back → ')' ∈ back.toList →
      ∃ e, Term.ofText front = .error e := by
  refine ⟨fun rest => ⟨ofText_append_gap accepted, ofText_append_trailing accepted⟩, ?_⟩
  rintro front back rfl closing
  cases shorter : Term.ofText front with
  | error e => exact ⟨e, rfl⟩
  | ok u =>
      have notGap : ¬ Text.IsGap back.toList := fun gap => absurd (gap _ closing) (by decide)
      rw [ofText_append_trailing shorter notGap] at accepted
      cases accepted

/-- A string and a pattern with parentheses, a number without a space before it, and spacing
behind the term. -/
theorem Term.ofText_append_dense :
    let source := "(and(eq k ')(')(matches k /\\)/)(lt k-1)) "
    ∃ t, Term.ofText source = .ok t ∧
      Term.ofText (source ++ "\r\n") = .ok t ∧
      Term.ofText (source ++ "\t§ (") = .error (.syntaxError 42 "unexpected trailing input") ∧
      ∃ e, Term.ofText "(and(eq k ')(')(matches k /\\)/)(lt k-1)" = .error e := by
  intro source
  have text : (Term.ofText source).toOption.map Term.text =
      some "(and (eq k ')(') (matches k /\\)/) (lt k -1))" := by
    decide +kernel
  cases read : Term.ofText source with
  | error e =>
      rw [read] at text
      cases text
  | ok t =>
      obtain ⟨append, truncated⟩ := Term.ofText_append read
      have gap : Text.IsGap "\r\n".toList := Text.skipSpacing_eq_nil_iff.1 (by decide +kernel)
      have noGap : ¬ Text.IsGap "\t§ (".toList :=
        mt Text.skipSpacing_eq_nil_iff.2 (by decide +kernel)
      refine ⟨t, rfl, (append _).1 gap, ?_, truncated _ ") " (by decide +kernel) (by decide)⟩
      · have place : source.utf8ByteSize +
            (String.ofList ("\t§ (".toList.takeWhile Text.isSpacing)).utf8ByteSize = 42 := by
          decide +kernel
        rw [← place]
        exact (append _).2 noGap

end FactScan
