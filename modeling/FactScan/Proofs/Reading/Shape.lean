/-
# FactScan.Proofs.Reading.Shape — what the text of a term shows

Two terms may have the same text without being the same: a word is a field or a boolean, and
patterns are written with their slashes escaped.  But if their names are words and they
carry no terms as data, the text shows the operator's name and how many operands there are.

The text is taken apart from its end.  The last character of an operand tells whether it is
a nested term, a string, a pattern or a bare token, and each of these begins at a place that
can be found from its end: inside a string or a pattern, a quote or a slash stands only
right after a backslash, while the one that opens it stands after a space.

* `Term.split_operands`: a text ends in a term's text in one way only, and shows the texts of its
  operands;
* `Term.shape_of_text_eq`: equal texts show equal names and equally many operands.
-/
import FactScan.Proofs.Reading.Numerals
import FactScan.Proofs.Reading.Spelling
import Mathlib.Data.List.Induction

namespace FactScan

set_option autoImplicit false

/-! ## Legible terms -/

/-- Operators and fields are named by words, and no operand is a literal that is itself a
term. -/
structure Term.IsLegible (t : Term) : Prop where
  plain : t.IsPlain
  names : ∀ u ∈ t.walk, Reader.isWord u.name.toList = true
  fields : ∀ u ∈ t.walk, ∀ name, .field name ∈ u.operands → Reader.isWord name.toList = true

def Operand.IsLegible : Operand → Prop
  | .nested t => t.IsLegible
  | .field name => Reader.isWord name.toList = true
  | .literal (.term _) => False
  | _ => True

theorem Term.isLegible_mk {op : Operator} {operands : List Operand} :
    (Term.mk op operands).IsLegible ↔
      Reader.isWord op.name.toList = true ∧ ∀ o ∈ operands, o.IsLegible := by
  constructor
  · rintro ⟨plain, names, fields⟩
    refine ⟨names _ (Term.self_mem_walk _), fun o member => ?_⟩
    have plainOperand := Term.isPlain_mk.1 plain o member
    unfold Operand.IsLegible
    split
    · rename_i t
      exact ⟨plainOperand, fun u below => names u (Term.mem_walk.2 (.inr ⟨t, member, below⟩)),
        fun u below => fields u (Term.mem_walk.2 (.inr ⟨t, member, below⟩))⟩
    · exact fields _ (Term.self_mem_walk _) _ member
    · exact plainOperand
    · trivial
  · rintro ⟨word, legible⟩
    refine ⟨Term.isPlain_mk.2 fun o member => ?_, fun u inside => ?_, fun u inside => ?_⟩
    · have legible := legible o member
      unfold Operand.IsPlain
      split
      · exact Term.IsLegible.plain legible
      · exact legible
      · trivial
    · rcases Term.mem_walk.1 inside with rfl | ⟨t, member, below⟩
      · exact word
      · exact Term.IsLegible.names (legible _ member) u below
    · rcases Term.mem_walk.1 inside with rfl | ⟨t, member, below⟩
      · exact fun name member => legible _ member
      · exact Term.IsLegible.fields (legible _ member) u below

/-! ## Taking a text apart from its end -/

namespace Text

/-- The characters that end a bare token: a space, or one that opens or closes something. -/
def isMark (c : Char) : Bool := c = ' ' || c = '\'' || c = '/' || c = '(' || c = ')'

/-- A token without marks. -/
def IsBare (token : List Char) : Prop := token ≠ [] ∧ ∀ c ∈ token, isMark c = false

variable {A B a b : List Char} {m n q : Char}

/-- The last characters of an equation are equal, and so is what is before them. -/
theorem split_concat (same : A ++ (a ++ [m]) = B ++ (b ++ [n])) : m = n ∧ A ++ a = B ++ b := by
  rw [← List.append_assoc, ← List.append_assoc] at same
  obtain ⟨before, last⟩ := List.append_inj' same rfl
  exact ⟨List.head_eq_of_cons_eq last, before⟩

/-- The last mark is found from either side of an equation. -/
theorem split_mark (markM : isMark m = true) (markN : isMark n = true)
    (bareA : ∀ c ∈ a, isMark c = false) (bareB : ∀ c ∈ b, isMark c = false)
    (same : A ++ m :: a = B ++ n :: b) : A = B ∧ m = n ∧ a = b := by
  rcases List.append_eq_append_iff.1 same with ⟨gap, shifted, tail⟩ | ⟨gap, shifted, tail⟩
  · cases gap with
    | nil =>
        cases tail
        exact ⟨by rw [shifted, List.append_nil], rfl, rfl⟩
    | cons c gap =>
        have inside : n ∈ a := by
          rw [(List.cons.inj tail).2]
          simp
        rw [bareA n inside] at markN
        cases markN
  · cases gap with
    | nil =>
        cases tail
        exact ⟨by rw [shifted, List.append_nil], rfl, rfl⟩
    | cons c gap =>
        have inside : m ∈ b := by
          rw [(List.cons.inj tail).2]
          simp
        rw [bareB m inside] at markM
        cases markM

/-- A bare token does not end in a mark. -/
theorem not_bare_concat (bare : IsBare a) (mark : isMark q = true) :
    A ++ m :: a ≠ B ++ (b ++ [q]) := by
  intro same
  obtain ⟨some, none⟩ := bare
  obtain ⟨front, last, rfl⟩ := (List.eq_nil_or_concat a).resolve_left some
  rw [List.concat_eq_append] at same none
  rw [← List.cons_append] at same
  have ends := (split_concat same).1
  subst ends
  rw [none last (List.mem_append_right _ (List.mem_singleton.2 rfl))] at mark
  cases mark

/-! ## Escapes -/

/-- A text in which `q` stands only right after a backslash. -/
inductive Escaped (q : Char) : List Char → Prop
  | nil : Escaped q []
  | plain {c : Char} {rest : List Char} : c ≠ q → Escaped q rest → Escaped q (c :: rest)
  | pair {c : Char} {rest : List Char} : Escaped q rest → Escaped q ('\\' :: c :: rest)

theorem escaped_string (s : List Char) :
    Escaped '\'' (s.flatMap fun c => if c = '\'' ∨ c = '\\' then ['\\', c] else [c]) := by
  induction s with
  | nil => exact .nil
  | cons c rest ih =>
      rw [List.flatMap_cons]
      by_cases escaped : c = '\'' ∨ c = '\\'
      · rw [if_pos escaped]
        exact .pair ih
      · rw [if_neg escaped]
        exact .plain (not_or.1 escaped).1 ih

theorem escaped_canonical (source : List Char) : Escaped '/' (Pattern.canonical source) := by
  fun_induction Pattern.canonical source with
  | case1 => exact .nil
  | case2 => exact .plain (by decide) .nil
  | case3 c rest ih => exact .pair ih
  | case4 rest ih => exact .pair ih
  | case5 c rest _ _ noSlash ih => exact .plain noSlash ih

/-- An unescaped `q` is not inside. -/
theorem Escaped.eq_backslash (notBackslash : q ≠ '\\') {cs l r : List Char} {c : Char}
    (escaped : Escaped q cs) (shape : cs = l ++ c :: q :: r) : c = '\\' := by
  have noStart : ∀ {cs}, Escaped q cs → ∀ r, cs ≠ q :: r := by
    rintro cs (_ | ⟨differs, -⟩ | _) r same
    · cases same
    · cases same
      exact differs rfl
    · cases same
      exact notBackslash rfl
  induction escaped generalizing l with
  | nil => simp at shape
  | plain differs inside ih =>
      cases l with
      | nil =>
          cases shape
          exact absurd rfl (noStart inside r)
      | cons d l =>
          cases shape
          exact ih rfl
  | pair inside ih =>
      match l with
      | [] =>
          cases shape
          rfl
      | [_] =>
          cases shape
          exact absurd rfl (noStart inside r)
      | _ :: _ :: l =>
          cases shape
          exact ih rfl

/-- A delimited token begins at the last delimiter that a space stands before. -/
theorem split_delimited (notBackslash : q ≠ '\\') (notSpace : q ≠ ' ') (escapedA : Escaped q a)
    (escapedB : Escaped q b) (same : A ++ ' ' :: q :: a = B ++ ' ' :: q :: b) : A = B := by
  have apart : ∀ {A B a b : List Char} {gap}, Escaped q a → B = A ++ gap →
      ' ' :: q :: a = gap ++ ' ' :: q :: b → A = B := by
    intro A B a b gap escaped shifted tail
    match gap with
    | [] => rw [shifted, List.append_nil]
    | [_] =>
        rw [List.singleton_append] at tail
        exact absurd (List.cons.inj (List.cons.inj tail).2).1 notSpace
    | _ :: _ :: gap =>
        have shape := (List.cons.inj (List.cons.inj tail).2).2
        exact absurd (escaped.eq_backslash notBackslash shape) (by decide)
  rcases List.append_eq_append_iff.1 same with ⟨gap, shifted, tail⟩ | ⟨gap, shifted, tail⟩
  · exact apart escapedA shifted tail
  · exact (apart escapedB shifted tail).symm

end Text

/-! ## Operands -/

theorem Reader.isMark_eq_false_of_isNumeric {c : Char} (numeric : isNumeric c = true) :
    Text.isMark c = false := by
  refine Bool.eq_false_iff.2 fun mark => ?_
  simp only [Text.isMark, Bool.or_eq_true, decide_eq_true_eq] at mark
  rcases mark with (((rfl | rfl) | rfl) | rfl) | rfl
  all_goals exact absurd numeric (by decide)

theorem Reader.isBare_of_isNumeral {token : List Char} (numeral : IsNumeral token) :
    Text.IsBare token := by
  obtain ⟨⟨c, rest, shape, -⟩, chars⟩ := numeral
  refine ⟨?_, fun c member => isMark_eq_false_of_isNumeric (chars c member)⟩
  rw [shape]
  exact List.cons_ne_nil _ _

theorem Reader.isBare_of_isWord {token : List Char} (word : isWord token = true) :
    Text.IsBare token := by
  have noMark : ∀ c, isWordStart c = true ∨ isWordChar c = true → Text.isMark c = false := by
    intro c inside
    refine Bool.eq_false_iff.2 fun mark => ?_
    simp only [Text.isMark, Bool.or_eq_true, decide_eq_true_eq] at mark
    rcases mark with (((rfl | rfl) | rfl) | rfl) | rfl
    all_goals exact absurd inside (by decide)
  obtain ⟨c, rest, rfl, start, inside⟩ := isWord_cases word
  refine ⟨List.cons_ne_nil _ _, List.forall_mem_cons.2 ⟨noMark c (.inl start), ?_⟩⟩
  exact fun d member => noMark d (.inr (inside d member))

/-- What the text of a legible operand that is no nested term looks like. -/
theorem Operand.shape_of_isLegible {o : Operand} (legible : o.IsLegible) :
    (∃ t, o = .nested t) ∨ Text.IsBare o.chars ∨
      ∃ q body, (q = '\'' ∨ q = '/') ∧ Text.Escaped q body ∧ o.chars = q :: body ++ [q] := by
  match o with
  | .nested t => exact .inl ⟨t, rfl⟩
  | .literal (.integer _) =>
    exact .inr (.inl (Reader.isBare_of_isNumeral (Reader.isNumeral_intChars _)))
  | .literal (.float x) =>
    exact .inr (.inl (Reader.isBare_of_isNumeral (Reader.isNumeral_floatChars x)))
  | .literal (.timestamp t) =>
    exact .inr (.inl (Reader.isBare_of_isNumeral (Reader.isNumeral_timestamp t)))
  | .literal (.boolean true) => exact .inr (.inl (Reader.isBare_of_isWord (by decide)))
  | .literal (.boolean false) => exact .inr (.inl (Reader.isBare_of_isWord (by decide)))
  | .literal (.string s) => exact .inr (.inr ⟨'\'', _, .inl rfl, Text.escaped_string s.toList, rfl⟩)
  | .literal (.regex p) => exact .inr (.inr ⟨'/', _, .inr rfl, Text.escaped_canonical _, rfl⟩)
  | .literal (.term _) => exact legible.elim
  | .field name => exact .inr (.inl (Reader.isBare_of_isWord legible))
  | .placeholder i =>
    refine .inr (.inl ⟨List.cons_ne_nil _ _, ?_⟩)
    refine List.forall_mem_cons.2 ⟨by decide, fun c member => ?_⟩
    exact Reader.isMark_eq_false_of_isNumeric
      (Reader.isNumeric_of_isDigit (Decimal.isDigit_of_mem_natChars member))

theorem Text.isMark_of_delimiter {q : Char} (delimiter : q = '\'' ∨ q = '/') :
    Text.isMark q = true := by
  rcases delimiter with rfl | rfl
  all_goals decide

theorem Term.exists_chars_concat (t : Term) : ∃ front, t.chars = front ++ [')'] := by
  cases t with
  | mk op operands => exact ⟨_, by rw [Term.chars]⟩

/-- The end of a text shows where its last operand begins. -/
def Operand.IsSeparable (o : Operand) : Prop :=
  ∀ o' : Operand, o'.IsLegible → ∀ A B, A ++ ' ' :: o.chars = B ++ ' ' :: o'.chars → A = B

theorem Operand.isSeparable_of_bare {o : Operand} (bare : Text.IsBare o.chars) :
    o.IsSeparable := by
  intro o' legible A B same
  rcases shape_of_isLegible legible with ⟨t, rfl⟩ | bare' | ⟨q, body, delimiter, -, shape⟩
  · obtain ⟨front, shape⟩ := t.exists_chars_concat
    rw [Operand.chars, shape, ← List.cons_append] at same
    exact absurd same (Text.not_bare_concat bare rfl)
  · exact (Text.split_mark (by decide) (by decide) bare.2 bare'.2 same).1
  · rw [shape, ← List.cons_append] at same
    exact absurd same (Text.not_bare_concat bare (Text.isMark_of_delimiter delimiter))

theorem Operand.isSeparable_of_delimited {o : Operand} {q : Char} {body : List Char}
    (delimiter : q = '\'' ∨ q = '/') (escaped : Text.Escaped q body)
    (shape : o.chars = q :: body ++ [q]) : o.IsSeparable := by
  intro o' legible A B same
  rcases shape_of_isLegible legible with ⟨t, rfl⟩ | bare | ⟨q', body', -, escaped', shape'⟩
  · obtain ⟨front, closed⟩ := t.exists_chars_concat
    rw [Operand.chars, closed, shape, ← List.cons_append, ← List.cons_append] at same
    have ends := (Text.split_concat same).1
    subst ends
    exact absurd delimiter (by decide)
  · rw [shape, ← List.cons_append] at same
    exact absurd same.symm (Text.not_bare_concat bare (Text.isMark_of_delimiter delimiter))
  · rw [shape, shape', ← List.cons_append, ← List.cons_append] at same
    obtain ⟨rfl, fronts⟩ := Text.split_concat same
    refine Text.split_delimited ?_ ?_ escaped escaped' fronts
    · rcases delimiter with rfl | rfl
      all_goals decide
    · rcases delimiter with rfl | rfl
      all_goals decide

theorem Operand.isSeparable_of_nested {t : Term}
    (apart : ∀ u : Term, u.IsLegible → ∀ A B, A ++ t.chars = B ++ u.chars → A = B) :
    (Operand.nested t).IsSeparable := by
  intro o' legible A B same
  have text : (Operand.nested t).chars = t.chars := by rw [Operand.chars]
  rcases shape_of_isLegible legible with ⟨u, rfl⟩ | bare | ⟨q, body, delimiter, -, shape⟩
  · have spaced := apart u legible (A ++ [' ']) (B ++ [' '])
    simp only [List.append_assoc, List.singleton_append] at spaced
    exact (List.append_inj' (spaced same) rfl).1
  · obtain ⟨front, closed⟩ := t.exists_chars_concat
    rw [text, closed, ← List.cons_append] at same
    exact absurd same.symm (Text.not_bare_concat bare rfl)
  · obtain ⟨front, closed⟩ := t.exists_chars_concat
    rw [text, closed, shape, ← List.cons_append, ← List.cons_append] at same
    have ends := (Text.split_concat same).1
    subst ends
    exact absurd delimiter (by decide)

/-! ## Terms -/

theorem Operand.listChars_concat (operands : List Operand) (o : Operand) :
    Operand.listChars (operands ++ [o]) = Operand.listChars operands ++ ' ' :: o.chars := by
  induction operands with
  | nil => simp [Operand.listChars]
  | cons first rest ih => simp [Operand.listChars, ih]

/-- An operator's name is no operand. -/
theorem Operand.ne_name {o : Operand} (legible : o.IsLegible) {name : List Char}
    (bare : Text.IsBare name) (A B : List Char) : A ++ '(' :: name ≠ B ++ ' ' :: o.chars := by
  intro same
  rcases shape_of_isLegible legible with ⟨t, rfl⟩ | bare' | ⟨q, body, delimiter, -, shape⟩
  · obtain ⟨front, closed⟩ := t.exists_chars_concat
    rw [Operand.chars, closed, ← List.cons_append] at same
    exact Text.not_bare_concat bare rfl same
  · obtain ⟨-, opens, -⟩ := Text.split_mark (by decide) (by decide) bare.2 bare'.2 same
    exact absurd opens (by decide)
  · rw [shape, ← List.cons_append] at same
    exact Text.not_bare_concat bare (Text.isMark_of_delimiter delimiter) same

/-- Operands are taken off one by one from the end, until the name is left. -/
theorem Operand.split_listChars {operands operands' : List Operand}
    (separable : ∀ o ∈ operands, o.IsSeparable) (legible : ∀ o ∈ operands, o.IsLegible)
    (legible' : ∀ o ∈ operands', o.IsLegible) {name name' : List Char}
    (bare : Text.IsBare name) (bare' : Text.IsBare name') {A B : List Char}
    (same : A ++ '(' :: name ++ Operand.listChars operands =
      B ++ '(' :: name' ++ Operand.listChars operands') :
    A = B ∧ name = name' ∧ operands.map Operand.chars = operands'.map Operand.chars := by
  induction operands using List.reverseRecOn generalizing operands' with
  | nil =>
      rw [Operand.listChars, List.append_nil] at same
      rcases List.eq_nil_or_concat operands' with rfl | ⟨rest', o', rfl⟩
      · rw [Operand.listChars, List.append_nil] at same
        obtain ⟨before, -, names⟩ := Text.split_mark (by decide) (by decide) bare.2 bare'.2 same
        exact ⟨before, names, rfl⟩
      · rw [List.concat_eq_append] at same legible'
        rw [Operand.listChars_concat, ← List.append_assoc] at same
        have last := legible' o' (List.mem_append_right _ (List.mem_singleton.2 rfl))
        exact absurd same (Operand.ne_name last bare _ _)
  | append_singleton rest o ih =>
      have member : o ∈ rest ++ [o] := List.mem_append_right _ (List.mem_singleton.2 rfl)
      rw [Operand.listChars_concat, ← List.append_assoc] at same
      rcases List.eq_nil_or_concat operands' with rfl | ⟨rest', o', rfl⟩
      · rw [Operand.listChars, List.append_nil] at same
        exact absurd same.symm (Operand.ne_name (legible o member) bare' _ _)
      · rw [List.concat_eq_append] at same legible' ⊢
        rw [Operand.listChars_concat, ← List.append_assoc] at same
        have last := legible' o' (List.mem_append_right _ (List.mem_singleton.2 rfl))
        have fronts := separable o member o' last _ _ same
        have tokens : o.chars = o'.chars := by
          rw [fronts] at same
          exact (List.cons.inj (List.append_cancel_left same)).2
        obtain ⟨before, names, texts⟩ :=
          ih (fun p inside => separable p (List.mem_append_left _ inside))
            (fun p inside => legible p (List.mem_append_left _ inside))
            (fun p inside => legible' p (List.mem_append_left _ inside)) fronts
        refine ⟨before, names, ?_⟩
        rw [List.map_append, List.map_append, texts, List.map_singleton, List.map_singleton, tokens]

/-- A text ends in the text of a legible term in one way only, which shows the texts of the
operands too. -/
theorem Term.split_operands {t u : Term} (legible : t.IsLegible) (legible' : u.IsLegible)
    {A B : List Char} (same : A ++ t.chars = B ++ u.chars) :
    A = B ∧ t.name = u.name ∧ t.operands.map Operand.chars = u.operands.map Operand.chars := by
  induction t using Term.nested_induction generalizing u A B with
  | step op operands ih =>
      obtain ⟨word, legibleOperands⟩ := Term.isLegible_mk.1 legible
      cases u with
      | mk op' operands' =>
          obtain ⟨word', legibleOperands'⟩ := Term.isLegible_mk.1 legible'
          have separable : ∀ o ∈ operands, o.IsSeparable := by
            intro o member
            have legible := legibleOperands o member
            rcases Operand.shape_of_isLegible legible with
              ⟨t, rfl⟩ | bare | ⟨q, body, delimiter, escaped, shape⟩
            · exact Operand.isSeparable_of_nested fun u legible' A B same =>
                (ih t member legible legible' same).1
            · exact Operand.isSeparable_of_bare bare
            · exact Operand.isSeparable_of_delimited delimiter escaped shape
          rw [Term.chars, Term.chars] at same
          obtain ⟨-, fronts⟩ := Text.split_concat same
          rw [← List.append_assoc, ← List.append_assoc] at fronts
          obtain ⟨before, names, texts⟩ := Operand.split_listChars separable legibleOperands
            legibleOperands' (Reader.isBare_of_isWord word) (Reader.isBare_of_isWord word') fronts
          exact ⟨before, String.toList_injective names, texts⟩

/-- **The text of a legible term shows its operator's name and how many operands it has.** -/
theorem Term.shape_of_text_eq {t u : Term} (legible : t.IsLegible) (legible' : u.IsLegible)
    (same : t.text = u.text) : t.name = u.name ∧ t.arity = u.arity := by
  have chars : t.chars = u.chars := String.ofList_injective same
  obtain ⟨-, names, texts⟩ := @Term.split_operands t u legible legible' [] [] chars
  have lengths := congrArg List.length texts
  rw [List.length_map, List.length_map] at lengths
  exact ⟨names, lengths⟩

theorem Operand.length_chars_lt {o : Operand} {operands : List Operand} (member : o ∈ operands) :
    o.chars.length < (Operand.listChars operands).length := by
  induction operands with
  | nil => cases member
  | cons first rest ih =>
      rw [Operand.listChars, List.length_append, List.length_cons]
      rcases List.mem_cons.1 member with rfl | member
      · omega
      · have shorter := ih member
        omega

/-- A nested term has another text than the term it is nested in. -/
theorem Term.text_ne_of_nested {t u : Term} (member : .nested u ∈ t.operands) :
    u.text ≠ t.text := by
  intro same
  have chars : u.chars = t.chars := String.ofList_injective same
  cases t with
  | mk op operands =>
      have shorter := @Operand.length_chars_lt _ operands member
      rw [Operand.chars, chars, Term.chars, List.length_append, List.length_append] at shorter
      omega

end FactScan
