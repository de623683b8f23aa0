/-
# FactScan.Proofs.Lines — the lines of a scan

The text of a scan puts one numbered row below the other, and so has at least a line for each
value.  It has no more as long as no value breaks a row: numbers, booleans, timestamps and nothing
never do, but a string or the source of a pattern is written with the line breaks it has, and a term
may hold either, or have a name with one.  `breaks` counts them where they stand, and
`count_chars` says that the text has just as many.

* `Command.render_lines`: the lines of the text are those of its rows, in order, and they are as
  many as the values if and only if there is nothing to break a row.
* `Command.eval_two_lines`: a fact of a document that breaks one.
-/
import FactScan.Command
import FactScan.Proofs.Reading.Numerals
import FactScan.Proofs.Terms

namespace FactScan

set_option autoImplicit false

/-! ## Line breaks in values -/

/-- The counts of all elements together. -/
def together {α : Type} (count : α → Nat) : List α → Nat
  | [] => 0
  | a :: rest => count a + together count rest

theorem together_eq_zero_iff {α : Type} {count : α → Nat} {as : List α} :
    together count as = 0 ↔ ∀ a ∈ as, count a = 0 := by
  induction as with
  | nil => simp [together]
  | cons a rest ih => simp [together, ih]

mutual

/-- How many line breaks a scalar brings along. -/
def Scalar.breaks : Scalar → Nat
  | .string s => s.toList.count '\n'
  | .regex p => p.source.toList.count '\n'
  | .term t => t.breaks
  | .integer _ | .float _ | .boolean _ | .timestamp _ => 0

def Operand.breaks : Operand → Nat
  | .literal s => s.breaks
  | .field name => name.toList.count '\n'
  | .nested t => t.breaks
  | .placeholder _ => 0

def Term.breaks : Term → Nat
  | .mk op operands => op.name.toList.count '\n' + Operand.listBreaks operands

def Operand.listBreaks : List Operand → Nat
  | [] => 0
  | o :: rest => o.breaks + Operand.listBreaks rest

end

def Value.breaks : Value → Nat
  | .nil => 0
  | .scalar s => s.breaks
  | .sequence items => together Scalar.breaks items

/-! ## Line breaks in texts -/

/-- A number or timestamp is on one line. -/
theorem Reader.IsNumeral.count_newline {token : List Char} (numeral : IsNumeral token) :
    token.count '\n' = 0 :=
  List.count_eq_zero.2 fun member => absurd (numeral.chars '\n' member) (by decide)

theorem Decimal.count_newline_natChars (n : Nat) : (natChars n).count '\n' = 0 :=
  List.count_eq_zero.2 fun member => absurd (isDigit_of_mem_natChars member) (by decide)

/-- Quoting escapes quotes and backslashes only. -/
theorem count_newline_quotedChars (cs : List Char) :
    (quotedChars cs).count '\n' = cs.count '\n' := by
  have escaped (c : Char) : (if c = '\'' ∨ c = '\\' then ['\\', c] else [c]).count '\n' =
      [c].count '\n' := by
    split
    · exact List.count_cons_of_ne (by decide)
    · rfl
  have inside : (cs.flatMap fun c => if c = '\'' ∨ c = '\\' then ['\\', c] else [c]).count '\n' =
      cs.count '\n' := by
    induction cs with
    | nil => rfl
    | cons c rest ih => rw [List.flatMap_cons, List.count_append, escaped, ih, ← List.count_append,
        List.singleton_append]
  rw [quotedChars, List.count_append, List.count_cons_of_ne (by decide), inside]
  rfl

/-- A canonical source differs from the source in backslashes only. -/
theorem Pattern.count_newline_canonical (source : List Char) :
    (canonical source).count '\n' = source.count '\n' := by
  fun_induction canonical source with
  | case1 | case2 => rfl
  | case3 c rest ih => simp only [List.count_cons, ih]
  | case4 rest ih =>
      rw [List.count_cons_of_ne (by decide), List.count_cons_of_ne (by decide), ih,
        List.count_cons_of_ne (by decide)]
  | case5 c rest _ _ _ ih => simp only [List.count_cons, ih]

theorem Scalar.count_chars_of {s : Scalar}
    (held : ∀ t, s = .term t → t.chars.count '\n' = t.breaks) :
    s.chars.count '\n' = s.breaks := by
  match s with
  | .integer n => exact (Reader.isNumeral_intChars n.toInt).count_newline
  | .float x => exact (Reader.isNumeral_floatChars x).count_newline
  | .string s => exact count_newline_quotedChars s.toList
  | .boolean true | .boolean false => rfl
  | .timestamp t => exact (Reader.isNumeral_timestamp t).count_newline
  | .regex p =>
    rw [chars, Pattern.chars, List.count_append, List.count_cons_of_ne (by decide)]
    exact Pattern.count_newline_canonical p.source.toList
  | .term t => exact held t rfl

theorem Operand.count_chars_of {o : Operand}
    (held : ∀ t, o.carried? = some t → t.chars.count '\n' = t.breaks) :
    o.chars.count '\n' = o.breaks := by
  cases o with
  | literal s =>
      refine Scalar.count_chars_of fun t same => ?_
      subst same
      exact held t rfl
  | field name => rfl
  | nested t => exact held t rfl
  | placeholder i =>
      rw [chars, List.count_cons_of_ne (by decide)]
      exact Decimal.count_newline_natChars i.toNat

theorem Operand.count_listChars {operands : List Operand}
    (each : ∀ o ∈ operands, o.chars.count '\n' = o.breaks) :
    (listChars operands).count '\n' = listBreaks operands := by
  induction operands with
  | nil => rfl
  | cons o rest ih =>
      rw [listChars, listBreaks, List.count_append, List.count_cons_of_ne (by decide),
        each o List.mem_cons_self, ih fun o member => each o (List.mem_cons_of_mem _ member)]

theorem Term.count_chars (t : Term) : t.chars.count '\n' = t.breaks := by
  induction t using Term.carried_induction with
  | step op operands ih =>
      rw [chars, breaks, List.count_append, List.count_append, List.count_cons_of_ne (by decide),
        Operand.count_listChars fun o member => Operand.count_chars_of (ih o member)]
      rfl

theorem Scalar.count_chars (s : Scalar) : s.chars.count '\n' = s.breaks :=
  Scalar.count_chars_of fun t _ => t.count_chars

theorem Value.count_newline_intersperse (items : List Scalar) :
    ((items.map Scalar.chars).intersperse [',', ' ']).flatten.count '\n' =
      together Scalar.breaks items := by
  match items with
  | [] => rfl
  | [s] => simp [Scalar.count_chars, together]
  | s :: s' :: rest =>
    have tail := count_newline_intersperse (s' :: rest)
    rw [List.map_cons, List.map_cons, List.intersperse_cons_cons, List.flatten_cons,
      List.flatten_cons, List.count_append, List.count_append, Scalar.count_chars, ← List.map_cons,
      tail, together]
    exact congrArg (s.breaks + ·) (Nat.zero_add _)

theorem Value.count_chars (v : Value) : v.chars.count '\n' = v.breaks := by
  cases v with
  | nil => rfl
  | scalar s => exact s.count_chars
  | sequence items =>
      rw [chars, List.count_append, List.count_cons_of_ne (by decide), count_newline_intersperse]
      rfl

/-! ## Lines -/

section

variable {α : Type} [BEq α] [LawfulBEq α]

/-- Parts with `x` between them are cut there, and each where it has an `x` of its own. -/
theorem splitOn_intercalate_eq_flatMap (x : α) {parts : List (List α)} (some : parts ≠ []) :
    ([x].intercalate parts).splitOn x = parts.flatMap (List.splitOn x) := by
  induction parts with
  | nil => exact absurd rfl some
  | cons part rest ih =>
      cases rest with
      | nil => simp
      | cons next rest =>
          have cut := List.splitOnP_append_cons (p := (· == x)) part
            ([x].intercalate (next :: rest)) (beq_self_eq_true x)
          rw [List.intercalate_cons_cons, List.append_assoc, List.singleton_append,
            List.flatMap_cons, ← ih (List.cons_ne_nil _ _)]
          exact cut

omit [LawfulBEq α] in
theorem length_splitOn (x : α) (as : List α) : (as.splitOn x).length = as.count x + 1 := by
  induction as with
  | nil => rfl
  | cons a rest ih =>
      rw [List.splitOn] at ih ⊢
      rw [List.splitOnP_cons_eq_if_modifyHead]
      by_cases same : (a == x) = true
      · rw [if_pos same, List.length_cons, ih, List.count_cons, if_pos same]
      · rw [if_neg same, List.length_modifyHead, ih, List.count_cons, if_neg same, Nat.add_zero]

end

namespace Command

/-- A row of a scan: the number right-aligned in four columns, two spaces, and the value. -/
def rowChars (i : Nat) (v : Value) : List Char :=
  List.replicate (4 - (Decimal.natChars i).length) ' ' ++ Decimal.natChars i ++ [' ', ' '] ++
    v.chars

theorem toList_column4 (n : Nat) :
    (column4 n).toList =
      List.replicate (4 - (Decimal.natChars n).length) ' ' ++ Decimal.natChars n := by
  have digits : (toString n).toList = Decimal.natChars n := Nat.toList_repr
  rw [column4, String.toList_append, String.toList_ofList, digits, ← String.length_toList, digits]

theorem valueText_plain (v : Value) : valueText false v = v.text := by
  unfold valueText
  split <;> rfl

/-- The text of a scan: its rows with line breaks between them. -/
theorem toList_render_scan (vs : List Value) :
    (render false false (.scan vs)).toList =
      ['\n'].intercalate (vs.zipIdx.map fun (v, i) => rowChars i v) := by
  have row (v : Value) (i : Nat) :
      (column4 i ++ "  " ++ valueText false v).toList = rowChars i v := by
    have value : v.text.toList = v.chars := String.toList_ofList
    rw [String.toList_append, String.toList_append, toList_column4, valueText_plain, value]
    rfl
  rw [render, if_neg Bool.false_ne_true, String.toList_intercalate, List.map_map]
  exact congrArg (['\n'].intercalate ·) (List.map_congr_left fun (v, i) _ => row v i)

/-- What stands before the value of a row is on one line. -/
theorem count_newline_rowChars (i : Nat) (v : Value) : (rowChars i v).count '\n' = v.breaks := by
  have spaces (n : Nat) : (List.replicate n ' ').count '\n' = 0 :=
    List.count_eq_zero.2 fun member => absurd (List.eq_of_mem_replicate member) (by decide)
  rw [rowChars, List.count_append, List.count_append, List.count_append, spaces,
    Decimal.count_newline_natChars, v.count_chars]
  exact Nat.zero_add _

theorem length_flatMap_rows (vs : List Value) (start : Nat) :
    ((vs.zipIdx start).flatMap fun (v, i) => (rowChars i v).splitOn '\n').length =
      vs.length + together Value.breaks vs := by
  induction vs generalizing start with
  | nil => rfl
  | cons v rest ih =>
      rw [List.zipIdx_cons, List.flatMap_cons, List.length_append, ih, length_splitOn,
        count_newline_rowChars, List.length_cons, together]
      omega

/-- **The lines of a scan.**  Cut the text of a scan that has values where it breaks.  The lines are
those of the rows, one after the other, and there is one for each value and one more for each line
break in a value.  So there are as many lines as values exactly if no value has a line break in it,
and then each line is the row of its value: the number, right-aligned in at least four columns, two
spaces, and the text of the value. -/
theorem render_lines {vs : List Value} (some : vs ≠ []) :
    let lines := (render false false (.scan vs)).toList.splitOn '\n'
    lines = vs.zipIdx.flatMap (fun (v, i) => (rowChars i v).splitOn '\n') ∧
      lines.length = vs.length + together Value.breaks vs ∧
      (lines.length = vs.length ↔ ∀ v ∈ vs, v.breaks = 0) ∧
      ((∀ v ∈ vs, v.breaks = 0) → lines = vs.zipIdx.map fun (v, i) => rowChars i v) := by
  intro lines
  have parts : vs.zipIdx.map (fun (v, i) => rowChars i v) ≠ [] := by simpa using some
  have rows : lines = vs.zipIdx.flatMap (fun (v, i) => (rowChars i v).splitOn '\n') := by
    have cut := splitOn_intercalate_eq_flatMap '\n' parts
    rw [← toList_render_scan, List.flatMap_map] at cut
    exact cut
  have count : lines.length = vs.length + together Value.breaks vs := by
    rw [rows]
    exact length_flatMap_rows vs 0
  refine ⟨rows, count, ?_, fun whole => ?_⟩
  · rw [count, Nat.add_eq_left, together_eq_zero_iff]
  · have clean : ∀ row ∈ vs.zipIdx.map (fun (v, i) => rowChars i v), '\n' ∉ row := by
      intro row member
      obtain ⟨⟨v, i⟩, inside, rfl⟩ := List.mem_map.1 member
      rw [← List.count_eq_zero, count_newline_rowChars]
      exact whole v (List.fst_mem_of_mem_zipIdx inside)
    have cut := List.splitOn_intercalate '\n' clean parts
    rw [← toList_render_scan] at cut
    exact cut

/-- One number, and a term carried as data. -/
theorem render_lines_term :
    let vs : List Value :=
      [.scalar (.integer (-7)), .scalar (.term (.mk (.builtin .present) [.field "k"]))]
    vs ≠ [] ∧
      (render false false (.scan vs)).toList.splitOn '\n' =
        ["   0  -7".toList, "   1  (exists k)".toList] := by
  intro vs
  have some : vs ≠ [] := List.cons_ne_nil _ _
  obtain ⟨-, -, -, whole⟩ := render_lines some
  refine ⟨some, (whole ?_).trans ?_⟩
  · decide +kernel
  · decide +kernel

/-- Two facts, of which the first holds a string of two lines: three lines for two values. -/
theorem eval_two_lines :
    (match (eval {} {} "(either k 0)"
        ⟨none, none, some ⟨"facts", some "[\x7b\"k\": \"a\\nb\"\x7d, \x7b\x7d]"⟩⟩).1 with
      | .ok results =>
        (render false false results).toList.splitOn '\n' ==
          ["   0  'a".toList, "b'".toList, "   1  0".toList]
      | .error _ => false) = true := by
  decide +kernel

end Command

end FactScan
