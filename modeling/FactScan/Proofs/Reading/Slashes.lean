/-
# FactScan.Proofs.Reading.Slashes — patterns between slashes

The writer and the reader of a pattern go through it by the same pairs of a backslash and the
character behind it, and agree on which slash is bare as long as every backslash has such a
character.  A source need not be like that: in a comment under the flag `x` a backslash may be
the very last character.  Then the writer has nothing to pair it with, while the reader pairs it
with the slash that should close the pattern, and reads on (`Reader.slashed?_canonical_unpaired`).

* `Reader.slashed?_eq_some_iff`: the texts that are read between slashes are the canonical ones
  without a backslash left over.
* `Pattern.canonical_readsBack`: the text of a pattern reads back as that pattern, whatever
  follows, if and only if its source leaves no backslash over.
-/
import FactScan.Proofs.Reading.Image

namespace FactScan

set_option autoImplicit false

/-! ## Sources between slashes -/

namespace Reader

/-- What is taken between slashes stands there as it is. -/
theorem append_of_slashed? {cs source rest : List Char}
    (read : slashed? cs = some (source, rest)) : cs = source ++ '/' :: rest := by
  fun_induction slashed? cs generalizing source with
  | case1 => cases read
  | case2 =>
      cases read
      rfl
  | case3 => cases read
  | case4 c tail ih | case5 c tail _ _ _ ih =>
      obtain ⟨⟨s, after⟩, inner, same⟩ := Option.map_eq_some_iff.1 read
      cases same
      rw [ih inner]
      rfl

/-- **What can be read between slashes** is a text without bare slashes and without a backslash
left over at its end. -/
theorem slashed?_eq_some_iff {cs source rest : List Char} :
    slashed? cs = some (source, rest) ↔
      cs = source ++ '/' :: rest ∧ Pattern.canonical source = source ∧
        Pattern.endsUnpaired source = false := by
  constructor
  · exact fun read => ⟨append_of_slashed? read, canonical_of_slashed? read⟩
  · rintro ⟨rfl, canonical, paired⟩
    have taken := Pattern.slashed?_canonical paired rest
    rwa [canonical] at taken

/-- Behind a backslash that is left over, the closing slash is taken for part of the pattern, and
what follows is read on. -/
theorem slashed?_canonical_unpaired {source : List Char}
    (unpaired : Pattern.endsUnpaired source = true) (rest : List Char) :
    slashed? (Pattern.canonical source ++ '/' :: rest) =
      (slashed? rest).map fun (s, after) => (Pattern.canonical source ++ '/' :: s, after) := by
  fun_induction Pattern.canonical source with
  | case1 => cases unpaired
  | case2 => rfl
  | case3 c tail ih | case4 tail ih =>
      rw [List.cons_append, List.cons_append, slashed?, ih unpaired, Option.map_map]
      rfl
  | case5 c tail noLone noPair noSlash ih =>
      have noBackslash := Pattern.ne_backslash noLone noPair
      have tailUnpaired : Pattern.endsUnpaired tail = true := by
        rwa [Pattern.endsUnpaired] at unpaired
        · exact fun same => absurd same noBackslash
        · exact fun _ _ same => absurd same noBackslash
      rw [List.cons_append, slashed?, ih tailUnpaired, Option.map_map]
      · rfl
      · exact noSlash
      · exact fun same => absurd same noBackslash
      · exact fun _ _ same => absurd same noBackslash

end Reader

/-! ## Patterns -/

namespace Pattern

/-- The text of a pattern, followed by `rest`, is read as an operand that is an equal pattern, and
`rest` is left. -/
def ReadsBack (nested : List Char → Except Reader.Fault (Term × List Char)) (p : Pattern)
    (rest : List Char) : Prop :=
  ∃ q : Pattern, Reader.operand nested (p.chars ++ rest) = .ok (some (.literal (.regex q), rest)) ∧
    (q == p) = true

/-- With nothing behind it, a pattern that leaves a backslash over is not closed. -/
theorem operand_unpaired (nested : List Char → Except Reader.Fault (Term × List Char))
    {p : Pattern} (unpaired : endsUnpaired p.source.toList = true) :
    Reader.operand nested p.chars = .error ⟨.pattern, []⟩ := by
  have open_ : Reader.slashed? (p.canonicalChars ++ ['/']) = none :=
    Reader.slashed?_canonical_unpaired unpaired []
  rw [chars, List.cons_append, Reader.operand, open_]

theorem not_readsBack_of_unpaired (nested : List Char → Except Reader.Fault (Term × List Char))
    {p : Pattern} (unpaired : endsUnpaired p.source.toList = true) : ¬ p.ReadsBack nested [] := by
  rintro ⟨q, read, -⟩
  rw [List.append_nil, operand_unpaired nested unpaired] at read
  cases read

/-- **The canonical text of a pattern is faithful, as long as no backslash is left over.**  For
every source that is a pattern: its canonical text is its own canonical text; patterns are equal
exactly if their canonical texts are; and, where the canonical text compiles if the source does,
the text between slashes reads back as an equal pattern, whatever follows it, exactly if the
source does not end in a backslash that nothing is paired with. -/
theorem canonical_readsBack {source : String} {p : Pattern} (compiled : ofSource source = .ok p)
    (alike : (compile (canonical source.toList)).isOk = (compile source.toList).isOk) :
    canonical p.canonicalChars = p.canonicalChars ∧
      (∀ q : Pattern, (p == q) = true ↔ p.canonicalChars = q.canonicalChars) ∧
      (endsUnpaired source.toList = false ↔
        ∀ (nested : List Char → Except Reader.Fault (Term × List Char)) (rest : List Char),
          p.ReadsBack nested rest) := by
  refine ⟨canonical_canonical p.source.toList, fun q => beq_iff, ?_⟩
  have source_ := source_of_ofSource compiled
  subst source_
  constructor
  · intro paired nested rest
    refine Reader.operand_pattern paired (exists_ofSource ?_) rest
    rw [String.toList_ofList, canonicalChars, alike, p.compiles]
    rfl
  · intro reads
    refine eq_false_of_ne_true fun unpaired => ?_
    exact not_readsBack_of_unpaired (Reader.term 0) unpaired (reads (Reader.term 0) [])

/-- `C:\\temp/`: behind the pair of backslashes, the slash at the end is a bare one. -/
theorem canonical_readsBack_slash :
    ∃ p, ofSource "C:\\\\temp/" = .ok p ∧ p.chars = "/C:\\\\temp\\//".toList ∧
      canonical p.canonicalChars = p.canonicalChars ∧
      ∀ nested rest, p.ReadsBack nested rest := by
  obtain ⟨p, compiled⟩ := @exists_ofSource "C:\\\\temp/" (by decide +kernel)
  obtain ⟨idempotent, -, reads⟩ := canonical_readsBack compiled (by decide +kernel)
  refine ⟨p, compiled, ?_, idempotent, reads.1 (by decide +kernel)⟩
  rw [chars, canonicalChars, source_of_ofSource compiled]
  decide +kernel

/-- `(?x)#\`: a pattern that is nothing but a comment, with a backslash at its end.  Its canonical
text is the same and compiles, but between slashes it is never closed. -/
theorem canonical_unread :
    ∃ p, ofSource "(?x)#\\" = .ok p ∧ p.chars = "/(?x)#\\/".toList ∧
      (compile p.canonicalChars).isOk = true ∧
      ∀ nested, Reader.operand nested p.chars = .error ⟨.pattern, []⟩ ∧
        ¬ p.ReadsBack nested [] := by
  obtain ⟨p, compiled⟩ := @exists_ofSource "(?x)#\\" (by decide +kernel)
  have source := source_of_ofSource compiled
  have unpaired : endsUnpaired p.source.toList = true := by
    rw [source]
    decide +kernel
  refine ⟨p, compiled, ?_, ?_, fun nested => ⟨operand_unpaired nested unpaired,
    not_readsBack_of_unpaired nested unpaired⟩⟩
  · rw [chars, canonicalChars, source]
    decide +kernel
  · rw [canonicalChars, source]
    decide +kernel

end Pattern

end FactScan
