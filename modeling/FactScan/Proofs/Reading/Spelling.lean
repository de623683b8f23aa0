/-
# FactScan.Proofs.Reading.Spelling — the texts that stand for a term

Between the parts of a term any spacing may stand, so a term has many texts besides its
canonical one: a spelling has a run of spacing wherever the canonical text has a space, and
further runs around the whole and inside its parentheses.  Nothing is ever put inside a
token.

Not every term can be read back.  `Term.IsReadable` says which can: those whose names are
words that stand for what they name, without a term carried as data, without a pattern
that would swallow its closing slash, and nested no deeper than the reader goes.

* `Term.isSpelling_text`: the canonical text is a spelling.
-/
import FactScan.Proofs.Terms
import FactScan.Term.Reader

namespace FactScan

set_option autoImplicit false

/-! ## Readable terms -/

/-- The text is one word: an operator name or a field. -/
def Reader.isWord : List Char → Bool
  | [] => false
  | c :: rest => isWordStart c && rest.all isWordChar

theorem Reader.isWord_cases {cs : List Char} (word : isWord cs = true) :
    ∃ c tail, cs = c :: tail ∧ isWordStart c = true ∧ ∀ d ∈ tail, isWordChar d = true := by
  cases cs with
  | nil => cases word
  | cons c tail =>
      rw [isWord, Bool.and_eq_true, List.all_eq_true] at word
      exact ⟨c, tail, rfl, word.1, word.2⟩

/-- The text ends in a backslash that no character before it escapes. -/
def Pattern.endsUnpaired : List Char → Bool
  | [] => false
  | ['\\'] => true
  | '\\' :: _ :: rest => endsUnpaired rest
  | _ :: rest => endsUnpaired rest

/-- The operator's name is a word, and it is the operator of that name. -/
structure Operator.IsReadable (op : Operator) : Prop where
  word : Reader.isWord op.name.toList = true
  named : Operator.ofName op.name = op

/-- The operand, nested terms aside, is one that can be read back. -/
def Operand.IsReadable : Operand → Prop
  | .literal (.term _) => False
  | .literal (.regex p) => Pattern.endsUnpaired p.source.toList = false
  | .field name => Reader.isWord name.toList = true ∧ name ≠ "true" ∧ name ≠ "false"
  | _ => True

mutual

/-- How many terms are nested in each other, the term itself included. -/
def Term.depth : Term → Nat
  | .mk _ operands => Operand.listDepth operands + 1

def Operand.depth : Operand → Nat
  | .nested t => t.depth
  | _ => 0

def Operand.listDepth : List Operand → Nat
  | [] => 0
  | o :: rest => max o.depth (Operand.listDepth rest)

end

structure Term.IsReadable (t : Term) : Prop where
  operators : ∀ u ∈ t.walk, u.operator.IsReadable
  operands : ∀ u ∈ t.walk, ∀ o ∈ u.operands, o.IsReadable
  depth : t.depth ≤ Reader.maxNesting

theorem Operand.depth_le_listDepth {o : Operand} {operands : List Operand}
    (member : o ∈ operands) : o.depth ≤ Operand.listDepth operands := by
  induction operands with
  | nil => cases member
  | cons first rest ih =>
      rw [Operand.listDepth]
      rcases List.mem_cons.1 member with rfl | member
      · exact Nat.le_max_left _ _
      · exact Nat.le_trans (ih member) (Nat.le_max_right _ _)

theorem Operand.listDepth_le {operands : List Operand} {room : Nat}
    (within : ∀ o ∈ operands, o.depth ≤ room) : Operand.listDepth operands ≤ room := by
  induction operands with
  | nil => exact Nat.zero_le _
  | cons o rest ih =>
      rw [Operand.listDepth]
      exact Nat.max_le.2 ⟨within o List.mem_cons_self,
        ih fun o member => within o (List.mem_cons_of_mem _ member)⟩

/-! ## Tokens that read back -/

/-- The text of a finite double, a timestamp or a pattern is one that its own reader takes:
the double and the timestamp come back, and the pattern compiles with its slashes escaped. -/
def Scalar.ReadsBack : Scalar → Prop
  | .float x => x.isFinite = true → Decimal.float? (Decimal.floatChars x) = some x
  | .timestamp t => Timestamp.ofChars? t.chars = some t
  | .regex p => ∃ q, Pattern.ofSource (String.ofList p.canonicalChars) = .ok q
  | _ => True

/-- Every literal of the term does. -/
def Term.LiteralsReadBack (t : Term) : Prop :=
  ∀ u ∈ t.walk, ∀ s, .literal s ∈ u.operands → s.ReadsBack

/-! ## Spellings -/

/-- A run of spacing, which may be empty. -/
def Text.IsGap (cs : List Char) : Prop := ∀ c ∈ cs, Text.isSpacing c = true

mutual

/-- The text is the canonical one of the term up to the runs of spacing in it. -/
def Term.IsSpelled : Term → List Char → Prop
  | .mk op operands, cs =>
    ∃ opening body closing, Text.IsGap opening ∧ Text.IsGap closing ∧
      Operand.AreSpelled operands body ∧
      cs = '(' :: opening ++ op.name.toList ++ body ++ closing ++ [')']

def Operand.IsSpelled : Operand → List Char → Prop
  | .nested t, cs => t.IsSpelled cs
  | o, cs => cs = o.chars

/-- Operands with a run of spacing that is not empty before each. -/
def Operand.AreSpelled : List Operand → List Char → Prop
  | [], cs => cs = []
  | o :: rest, cs =>
    ∃ gap token tail, gap ≠ [] ∧ Text.IsGap gap ∧ o.IsSpelled token ∧
      Operand.AreSpelled rest tail ∧ cs = gap ++ token ++ tail

end

/-- The whole source is the term, with spacing around it. -/
def Term.IsSpelling (t : Term) (source : String) : Prop :=
  ∃ before cs after, Text.IsGap before ∧ Text.IsGap after ∧ t.IsSpelled cs ∧
    source.toList = before ++ cs ++ after

theorem Text.isGap_nil : Text.IsGap [] := fun _ member => absurd member List.not_mem_nil

theorem Operand.isSpelled_of_flat {o : Operand} {cs : List Char} (flat : ∀ t, o ≠ .nested t) :
    o.IsSpelled cs ↔ cs = o.chars := by
  cases o with
  | nested t => exact absurd rfl (flat t)
  | literal s => rw [Operand.IsSpelled]; exact nofun
  | field name => rw [Operand.IsSpelled]; exact nofun
  | placeholder i => rw [Operand.IsSpelled]; exact nofun

theorem Operand.areSpelled_listChars {operands : List Operand}
    (spelled : ∀ o ∈ operands, o.IsSpelled o.chars) :
    Operand.AreSpelled operands (Operand.listChars operands) := by
  induction operands with
  | nil => rfl
  | cons o rest ih =>
      refine ⟨[' '], o.chars, Operand.listChars rest, List.cons_ne_nil _ _, ?_, ?_, ?_, rfl⟩
      · intro c member
        rw [List.mem_singleton.1 member]
        decide
      · exact spelled o List.mem_cons_self
      · exact ih fun o member => spelled o (List.mem_cons_of_mem _ member)

theorem Term.isSpelled_chars (t : Term) : t.IsSpelled t.chars := by
  induction t using Term.nested_induction with
  | step op operands ih =>
      have spelled : ∀ o ∈ operands, o.IsSpelled o.chars := by
        intro o member
        rcases o.nested_or_flat with ⟨t, rfl⟩ | flat
        · exact ih t member
        · exact (Operand.isSpelled_of_flat flat).2 rfl
      refine ⟨[], Operand.listChars operands, [], Text.isGap_nil, Text.isGap_nil,
        Operand.areSpelled_listChars spelled, ?_⟩
      simp [Term.chars]

/-- The canonical text of a term is one of its spellings. -/
theorem Term.isSpelling_text (t : Term) : t.IsSpelling t.text :=
  ⟨[], t.chars, [], Text.isGap_nil, Text.isGap_nil, t.isSpelled_chars, by
    rw [Term.text, String.toList_ofList, List.nil_append, List.append_nil]⟩

end FactScan
