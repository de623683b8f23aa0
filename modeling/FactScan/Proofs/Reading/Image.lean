/-
# FactScan.Proofs.Reading.Image — what the reader gives

The reader takes many more texts than are ever written: integers with a plus sign or leading
zeros, doubles of any length, timestamps with an offset or without padding, strings and patterns
with escapes that nothing needs, operands with no space between them.  What it makes of them is
narrower.  A name is a word, a field is none of the words that mean a boolean, a pattern between
slashes has no bare slash and no backslash at its end, a timestamp is one of those that have a
text, and the nesting is within the limit (`Term.IsAccepted`).  All of that is written so that it
reads back.

* `Reader.isAccepted_of_term`: what the reader gives is of that kind, level by level.
* `Term.eq_of_beq`: such terms are equal only if they are the same.
* `Term.ofText_text`: the text of a term that was read is read as that term.
-/
import FactScan.Proofs.Reading.Doubles
import FactScan.Proofs.Reading.RoundTrip
import FactScan.Proofs.Reading.Timestamps
import FactScan.Proofs.Registration

namespace FactScan

set_option autoImplicit false

/-! ## Terms that a text can give -/

/-- The operand, nested terms aside, is one that the reader gives: it can be read back, and a
pattern is written as it was read. -/
structure Operand.IsAccepted (o : Operand) : Prop where
  readable : o.IsReadable
  back : ∀ s, o = .literal s → s.ReadsBack
  canonical : ∀ p, o = .literal (.regex p) → p.canonicalChars = p.source.toList

/-- A term that the reader gives where `room` levels are left to it. -/
structure Term.IsAccepted (room : Nat) (t : Term) : Prop where
  operators : ∀ u ∈ t.walk, u.operator.IsReadable
  operands : ∀ u ∈ t.walk, ∀ o ∈ u.operands, o.IsAccepted
  depth : t.depth ≤ room

theorem Operand.isAccepted_nested (t : Term) : (Operand.nested t).IsAccepted :=
  ⟨trivial, nofun, nofun⟩

/-- A literal that is no pattern has only to read back. -/
theorem Operand.isAccepted_literal {s : Scalar} (flat : ∀ t, s ≠ .term t)
    (noPattern : ∀ p, s ≠ .regex p) (back : s.ReadsBack) : (Operand.literal s).IsAccepted := by
  refine ⟨?_, fun s' same => ?_, fun p same => ?_⟩
  · cases s with
    | term t => exact absurd rfl (flat t)
    | regex p => exact absurd rfl (noPattern p)
    | _ => trivial
  · cases same
    exact back
  · cases same
    exact absurd rfl (noPattern p)

/-- One level more, of operands that are accepted with the room below it. -/
theorem Term.isAccepted_mk {op : Operator} {operands : List Operand} {room : Nat}
    (operator : op.IsReadable) (flat : ∀ o ∈ operands, o.IsAccepted)
    (nested : ∀ t, .nested t ∈ operands → t.IsAccepted room) :
    (Term.mk op operands).IsAccepted (room + 1) := by
  refine ⟨fun u inside => ?_, fun u inside => ?_, ?_⟩
  · rcases Term.mem_walk.1 inside with rfl | ⟨t, member, below⟩
    · exact operator
    · exact (nested t member).operators u below
  · rcases Term.mem_walk.1 inside with rfl | ⟨t, member, below⟩
    · exact flat
    · exact (nested t member).operands u below
  · rw [Term.depth]
    refine Nat.succ_le_succ (Operand.listDepth_le fun o member => ?_)
    rcases o.nested_or_flat with ⟨t, rfl⟩ | noTerm
    · rw [Operand.depth]
      exact (nested t member).depth
    · cases o with
      | nested t => exact absurd rfl (noTerm t)
      | literal _ | field _ | placeholder _ => exact Nat.zero_le _

/-- A nested term is accepted with a level less. -/
theorem Term.IsAccepted.nested {op : Operator} {operands : List Operand} {room : Nat} {t : Term}
    (accepted : (Term.mk op operands).IsAccepted room) (member : .nested t ∈ operands) :
    t.IsAccepted (room - 1) := by
  refine ⟨fun u below => ?_, fun u below => ?_, ?_⟩
  · exact accepted.operators u (Term.mem_walk.2 (.inr ⟨t, member, below⟩))
  · exact accepted.operands u (Term.mem_walk.2 (.inr ⟨t, member, below⟩))
  · have whole := accepted.depth
    have part := Operand.depth_le_listDepth member
    rw [Term.depth] at whole
    rw [Operand.depth] at part
    omega

/-! ## Tokens -/

namespace Reader

theorem isWord_of_word? {cs rest : List Char} {name : String}
    (read : word? cs = some (name, rest)) : isWord name.toList = true := by
  cases cs with
  | nil => cases read
  | cons c tail =>
      by_cases start : isWordStart c = true
      · rw [word?, if_pos start] at read
        cases read
        rw [String.toList_ofList, isWord, start, Bool.true_and]
        exact List.all_takeWhile
      · rw [word?, if_neg start] at read
        cases read

/-- A source between slashes has no bare slash, and no backslash that escapes nothing. -/
theorem canonical_of_slashed? {cs source rest : List Char}
    (read : slashed? cs = some (source, rest)) :
    Pattern.canonical source = source ∧ Pattern.endsUnpaired source = false := by
  fun_induction slashed? cs generalizing source rest with
  | case1 => cases read
  | case2 => cases read; exact ⟨rfl, rfl⟩
  | case3 => cases read
  | case4 c tail ih =>
      obtain ⟨⟨s, after⟩, inner, same⟩ := Option.map_eq_some_iff.1 read
      cases same
      obtain ⟨canonical, paired⟩ := ih inner
      exact ⟨by rw [Pattern.canonical, canonical], paired⟩
  | case5 c tail noSlash noLone noPair ih =>
      obtain ⟨⟨s, after⟩, inner, same⟩ := Option.map_eq_some_iff.1 read
      cases same
      obtain ⟨canonical, paired⟩ := ih inner
      have noBackslash := Pattern.ne_backslash noLone noPair
      constructor
      · rw [Pattern.canonical, canonical]
        · exact fun same => absurd same noBackslash
        · exact fun _ _ same => absurd same noBackslash
        · exact noSlash
      · rw [Pattern.endsUnpaired, paired]
        · exact fun same => absurd same noBackslash
        · exact fun _ _ same => absurd same noBackslash

/-- What a numeric token stands for is written as one that stands for the same. -/
theorem isAccepted_of_number? {token : List Char} {s : Scalar} (read : number? token = some s) :
    (Operand.literal s).IsAccepted := by
  unfold number? at read
  split at read
  · obtain ⟨t, value, rfl⟩ := Option.map_eq_some_iff.1 read
    have written := Timestamp.isWritable_of_ofChars? value
    exact Operand.isAccepted_literal nofun nofun (Timestamp.ofChars?_chars written)
  · split at read
    · cases read
      exact Operand.isAccepted_literal nofun nofun trivial
    · dsimp only at read
      split at read
      · obtain ⟨x, -, rfl⟩ := Option.map_eq_some_iff.1 read
        exact Operand.isAccepted_literal nofun nofun fun _ => Decimal.float?_of_floatChars x
      · cases read

theorem isAccepted_wordOperand {name : String} (word : isWord name.toList = true) :
    (wordOperand name).IsAccepted ∧ ∀ t, wordOperand name ≠ .nested t := by
  unfold wordOperand
  split
  · exact ⟨Operand.isAccepted_literal nofun nofun trivial, nofun⟩
  · rename_i notTrue
    split
    · exact ⟨Operand.isAccepted_literal nofun nofun trivial, nofun⟩
    · rename_i notFalse
      exact ⟨⟨⟨word, notTrue, notFalse⟩, nofun, nofun⟩, nofun⟩

theorem isAccepted_pattern {cs source rest : List Char} {p : Pattern}
    (read : slashed? cs = some (source, rest))
    (compiled : Pattern.ofSource (String.ofList source) = .ok p) :
    (Operand.literal (.regex p)).IsAccepted := by
  obtain ⟨canonical, paired⟩ := canonical_of_slashed? read
  have own : p.source.toList = source := by
    rw [Pattern.source_of_ofSource compiled, String.toList_ofList]
  have written : p.canonicalChars = source := by
    rw [Pattern.canonicalChars, own, canonical]
  refine ⟨?_, fun s literal => ?_, fun q literal => ?_⟩
  · show Pattern.endsUnpaired p.source.toList = false
    rw [own, paired]
  · cases literal
    exact ⟨p, by rw [written, compiled]⟩
  · cases literal
    rw [written, own]

/-! ## Operands and terms -/

variable {nested : List Char → Except Fault (Term × List Char)} {room : Nat}

/-- An operand is accepted if the terms nested in it are. -/
theorem isAccepted_of_operand
    (inner : ∀ cs t rest, nested cs = .ok (t, rest) → t.IsAccepted room) {cs rest : List Char}
    {o : Operand} (read : operand nested cs = .ok (some (o, rest))) :
    o.IsAccepted ∧ ∀ t, o = .nested t → t.IsAccepted room := by
  unfold operand at read
  split at read
  · cases read
  · split at read
    · rename_i t rest term
      cases read
      refine ⟨Operand.isAccepted_nested t, fun u same => ?_⟩
      cases same
      exact inner _ _ _ term
    · split at read <;> cases read
  · obtain ⟨⟨s, after⟩, -, same⟩ := Option.map_eq_some_iff.1 (Except.ok.inj read)
    cases same
    exact ⟨Operand.isAccepted_literal nofun nofun trivial, nofun⟩
  · split at read
    · cases read
    · rename_i source after taken
      split at read
      · rename_i p compiled
        cases read
        exact ⟨isAccepted_pattern taken compiled, nofun⟩
      · cases read
  · obtain ⟨⟨i, after⟩, -, same⟩ := Option.map_eq_some_iff.1 (Except.ok.inj read)
    cases same
    exact ⟨⟨trivial, nofun, nofun⟩, nofun⟩
  · split at read
    · obtain ⟨s, value, same⟩ := Option.map_eq_some_iff.1 (Except.ok.inj read)
      cases same
      exact ⟨isAccepted_of_number? value, nofun⟩
    · obtain ⟨⟨name, after⟩, word, same⟩ := Option.map_eq_some_iff.1 (Except.ok.inj read)
      cases same
      obtain ⟨accepted, flat⟩ := isAccepted_wordOperand (isWord_of_word? word)
      exact ⟨accepted, fun t same => absurd same (flat t)⟩

theorem isAccepted_of_operands
    (inner : ∀ cs t rest, nested cs = .ok (t, rest) → t.IsAccepted room) {n : Nat}
    {cs rest : List Char} {os : List Operand} (read : operands nested n cs = .ok (os, rest)) :
    ∀ o ∈ os, o.IsAccepted ∧ ∀ t, o = .nested t → t.IsAccepted room := by
  induction n generalizing cs os rest with
  | zero =>
      cases read
      exact fun o member => absurd member List.not_mem_nil
  | succ n ih =>
      rw [operands] at read
      cases first : operand nested (Text.skipSpacing cs) with
      | error f =>
          rw [first] at read
          cases read
      | ok found =>
          rw [first] at read
          cases found with
          | none =>
              cases read
              exact fun o member => absurd member List.not_mem_nil
          | some found =>
              obtain ⟨o, after⟩ := found
              simp only [bind, Except.bind] at read
              cases more : operands nested n after with
              | error f =>
                  rw [more] at read
                  cases read
              | ok others =>
                  rw [more] at read
                  cases read
                  exact List.forall_mem_cons.2 ⟨isAccepted_of_operand inner first, ih more⟩

end Reader

theorem Operator.isReadable_ofName {name : String} (word : Reader.isWord name.toList = true) :
    (Operator.ofName name).IsReadable := by
  have named : (Operator.ofName name).name = name := by
    unfold Operator.ofName
    split
    · rename_i b found
      exact Builtin.name_of_ofName? found
    · rfl
  exact ⟨by rw [named, word], by rw [named]⟩

/-- **What the reader gives is accepted, at every level.** -/
theorem Reader.isAccepted_of_term {room : Nat} {cs rest : List Char} {t : Term}
    (read : term room cs = .ok (t, rest)) : t.IsAccepted room := by
  induction room generalizing cs rest t with
  | zero =>
      unfold term at read
      split at read <;> cases read
  | succ room ih =>
      unfold term at read
      split at read
      · dsimp only at read
        split at read
        · cases read
        · rename_i name atOperands word
          cases more : operands (term room) atOperands.length atOperands with
          | error f =>
              rw [more] at read
              cases read
          | ok found =>
              obtain ⟨os, after⟩ := found
              rw [more] at read
              simp only [bind, Except.bind] at read
              split at read
              · cases read
                have accepted := isAccepted_of_operands (fun _ _ _ => ih) more
                exact Term.isAccepted_mk (Operator.isReadable_ofName (isWord_of_word? word))
                  (fun o member => (accepted o member).1)
                  fun t member => (accepted _ member).2 t rfl
              · cases read
      · cases read

/-! ## Equal terms that were read -/

theorem Scalar.eq_of_beq {a b : Scalar} (accepted : (Operand.literal a).IsAccepted)
    (accepted' : (Operand.literal b).IsAccepted) (same : (a == b) = true) : a = b := by
  rcases Scalar.beq_cases same with rfl | ⟨p, q, rfl, rfl⟩ | ⟨t, u, rfl, rfl⟩
  · rfl
  · have written := Pattern.beq_iff.1 ((Scalar.regex_beq p q).symm.trans same)
    rw [accepted.canonical p rfl, accepted'.canonical q rfl] at written
    rw [Pattern.ext_source (String.toList_injective written)]
  · exact accepted.readable.elim

theorem Operand.eq_of_list_beq {operands operands' : List Operand}
    (each : ∀ o ∈ operands, ∀ o' ∈ operands', (o == o') = true → o = o')
    (same : (operands == operands') = true) : operands = operands' := by
  induction operands generalizing operands' with
  | nil =>
      cases operands' with
      | nil => rfl
      | cons o' rest' => cases same
  | cons o rest ih =>
      cases operands' with
      | nil => cases same
      | cons o' rest' =>
          rw [List.cons_beq_cons, Bool.and_eq_true] at same
          rw [each o List.mem_cons_self o' List.mem_cons_self same.1]
          congr
          exact ih (fun p member p' member' => each p (List.mem_cons_of_mem _ member) p'
            (List.mem_cons_of_mem _ member')) same.2

/-- **Terms that were read are equal only if they are the same.** -/
theorem Term.eq_of_beq {t u : Term} {room room' : Nat} (accepted : t.IsAccepted room)
    (accepted' : u.IsAccepted room') (same : (t == u) = true) : t = u := by
  induction t using Term.nested_induction generalizing u room room' with
  | step op operands ih =>
      cases u with
      | mk op' operands' =>
          have flat := accepted.operands _ (Term.self_mem_walk _)
          have flat' := accepted'.operands _ (Term.self_mem_walk _)
          rw [Term.mk_beq, Bool.and_eq_true] at same
          rw [LawfulBEq.eq_of_beq same.1]
          congr
          refine Operand.eq_of_list_beq (fun o member o' member' same => ?_) same.2
          rcases Operand.beq_cases same with rfl | ⟨a, b, rfl, rfl⟩ | ⟨t, u, rfl, rfl⟩
          · rfl
          · rw [Operand.literal_beq] at same
            rw [Scalar.eq_of_beq (flat _ member) (flat' _ member') same]
          · rw [Operand.nested_beq] at same
            rw [ih _ member (accepted.nested member) (accepted'.nested member') same]

/-! ## Whole texts -/

/-- A term's text has nothing before it and nothing after it. -/
theorem Term.ofText_of_term {t read : Term}
    (reading : Reader.term Reader.maxNesting t.chars = .ok (read, [])) :
    Term.ofText t.text = .ok read := by
  obtain ⟨tail, shape⟩ := Term.starts_of_isSpelled t.isSpelled_chars
  have notBlank : ¬ t.chars.all Text.isBlank = true := by
    intro blank
    have paren := List.all_eq_true.1 blank '(' (shape ▸ List.mem_cons_self)
    exact absurd paren (by decide)
  have atTerm : Text.skipSpacing t.chars = t.chars := by
    rw [shape, Text.skipSpacing_cons (by decide)]
  have whole : Reader.whole t.chars = .ok read := by
    unfold Reader.whole
    rw [atTerm, reading]
    rfl
  rw [Term.ofText, Term.text, String.toList_ofList, Term.ofChars, if_neg notBlank, whole]

/-- What was read of a whole text was read by the reader of terms, and left only spacing. -/
theorem Term.term_of_ofText {source : String} {t : Term} (accepted : Term.ofText source = .ok t) :
    ∃ rest, Reader.term Reader.maxNesting (Text.skipSpacing source.toList) = .ok (t, rest) ∧
      Text.skipSpacing rest = [] := by
  unfold Term.ofText Term.ofChars at accepted
  split at accepted
  · cases accepted
  · split at accepted
    · rename_i u whole
      cases accepted
      unfold Reader.whole at whole
      cases read : Reader.term Reader.maxNesting (Text.skipSpacing source.toList) with
      | error f =>
          rw [read] at whole
          cases whole
      | ok found =>
          obtain ⟨u, rest⟩ := found
          rw [read] at whole
          simp only [bind, Except.bind] at whole
          split at whole
          · rename_i ended
            cases whole
            exact ⟨rest, rfl, ended⟩
          · cases whole
    · cases accepted

theorem Term.isAccepted_of_ofText {source : String} {t : Term}
    (accepted : Term.ofText source = .ok t) : t.IsAccepted Reader.maxNesting := by
  obtain ⟨rest, read, -⟩ := term_of_ofText accepted
  exact Reader.isAccepted_of_term read

/-- **What the reader takes, the writer writes.**  The text of a term that was read is read as
the same term, and that term equals itself, so that it is written as the same text again. -/
theorem Term.ofText_text {source : String} {t : Term} (accepted : Term.ofText source = .ok t) :
    Term.ofText t.text = .ok t ∧ (t == t) = true := by
  have written := Term.isAccepted_of_ofText accepted
  obtain ⟨read, reading, same⟩ := Term.term_of_isSpelled written.operators
    (fun u inside o member => (written.operands u inside o member).readable)
    (fun u inside s member => (written.operands u inside _ member).back s rfl) written.depth
    t.isSpelled_chars []
  rw [List.append_nil] at reading
  have own := Term.eq_of_beq (Reader.isAccepted_of_term reading) written same
  subst own
  exact ⟨Term.ofText_of_term reading, same⟩

/-- A sign and zeros before an integer, doubles out of range, an offset that leaves the years
with four digits, escapes that nothing needs, and operands without a space between them. -/
def Term.oddSpelling : String :=
  "( either +007 1e999 -1e-999 0000-01-01T00:00:00.50+14:00 'i\\t\\'s'/a\\/b/$007(nil x))\n"

theorem Term.ofText_text_oddSpelling :
    ∃ t, Term.ofText Term.oddSpelling = .ok t ∧
      t.text = "(either 7 +inf -0.0 -0001-12-31T10:00:00.500Z 'it\\'s' /a\\/b/ $7 (nil x))" ∧
      Term.ofText t.text = .ok t ∧ (t == t) = true := by
  have text : (Term.ofText Term.oddSpelling).toOption.map Term.text =
      some "(either 7 +inf -0.0 -0001-12-31T10:00:00.500Z 'it\\'s' /a\\/b/ $7 (nil x))" := by
    decide +kernel
  cases read : Term.ofText Term.oddSpelling with
  | error e =>
      rw [read] at text
      cases text
  | ok t =>
      rw [read] at text
      exact ⟨t, rfl, Option.some.inj text, Term.ofText_text read⟩

end FactScan
