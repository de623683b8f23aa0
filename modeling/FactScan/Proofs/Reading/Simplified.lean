/-
# FactScan.Proofs.Reading.Simplified — simplified texts can be fed back

Simplification makes constants that no source held: infinities, negative zeros, sums of
strings with quotes in them.  Still, what it makes of a term that was read could have been read
(`Term.IsAccepted.simplify`): a constant is a literal of the term or a truth value, number or
string, every other operand is one of the term's own, and `(const x)` takes the place of a term,
so that nothing is nested deeper than it was.  So the text that the command prints reads back as
the simplified term, and since that is settled, the command prints the same text for it again
(`Command.simplify_text`).
-/
import FactScan.Command
import FactScan.Proofs.Reading.Image
import FactScan.Proofs.Simplify.Settled

namespace FactScan

set_option autoImplicit false

/-! ## Simplified terms -/

/-- Truth values, numbers and strings read back. -/
theorem Operand.isAccepted_of_isMade {a : Scalar} (made : a.isMade = true) :
    (Operand.literal a).IsAccepted := by
  cases a with
  | float x => exact isAccepted_literal nofun nofun fun _ => Decimal.float?_of_floatChars x
  | integer _ | string _ | boolean _ => exact isAccepted_literal nofun nofun trivial
  | timestamp _ | regex _ | term _ => cases made

/-- Acceptance is a matter of the operator and of each operand, as long as there is room. -/
theorem Term.isAccepted_mk_iff {op : Operator} {operands : List Operand} {room : Nat} :
    (Term.mk op operands).IsAccepted room ↔ (0 < room ∧ op.IsReadable) ∧
      ∀ o ∈ operands, o.IsAccepted ∧ ∀ t, o = .nested t → t.IsAccepted (room - 1) := by
  constructor
  · intro accepted
    have deep := accepted.depth
    rw [Term.depth] at deep
    refine ⟨⟨by omega, accepted.operators _ (Term.self_mem_walk _)⟩, fun o member => ?_⟩
    refine ⟨accepted.operands _ (Term.self_mem_walk _) o member, ?_⟩
    rintro t rfl
    exact accepted.nested member
  · rintro ⟨⟨some_, operator⟩, each⟩
    obtain ⟨room, rfl⟩ : ∃ rest, room = rest + 1 := ⟨room - 1, by omega⟩
    exact Term.isAccepted_mk operator (fun o member => (each o member).1)
      fun t member => (each _ member).2 t rfl

/-- **Simplification keeps to what the reader gives**, within the same nesting. -/
theorem Term.IsAccepted.simplify {settings : Settings} {registry : Registry}
    (hookless : ∀ d ∈ registry.custom, d.hook = none) {t : Term} {room : Nat}
    (accepted : t.IsAccepted room) : (t.simplify settings registry).IsAccepted room := by
  have compositional : Simplify.Compositional (fun depth t => t.IsAccepted (room - depth))
      (fun depth op => 0 < room - depth ∧ op.IsReadable)
      fun depth o => o.IsAccepted ∧ ∀ t, o = .nested t → t.IsAccepted (room - depth - 1) :=
    { term := Term.isAccepted_mk_iff
      nested := by simp [Operand.isAccepted_nested, Nat.sub_sub]
      const := fun ⟨some_, _⟩ => ⟨some_, by decide, by decide⟩
      made := fun made => ⟨Operand.isAccepted_of_isMade made, nofun⟩
      raised := fun ⟨own, _⟩ => ⟨own, nofun⟩ }
  have outside : t.IsAccepted (room - 0) := accepted
  refine compositional.simplifyAt (fun d member hook hooked => ?_) outside .blank
  exact absurd hooked (Simplify.not_hooked hookless member hook)

/-! ## Texts -/

/-- The text of an accepted term is read as that term, whatever follows it. -/
theorem Reader.term_chars {t : Term} {room : Nat} (accepted : t.IsAccepted room)
    (rest : List Char) :
    Reader.term room (t.chars ++ rest) = .ok (t, rest) ∧ (t == t) = true := by
  obtain ⟨read, reading, same⟩ := Term.term_of_isSpelled accepted.operators
    (fun u inside o member => (accepted.operands u inside o member).readable)
    (fun u inside s member => (accepted.operands u inside _ member).back s rfl) accepted.depth
    t.isSpelled_chars rest
  have own := Term.eq_of_beq (Reader.isAccepted_of_term reading) accepted same
  subst own
  exact ⟨reading, same⟩

/-- What the command prints for a source that is read. -/
theorem Command.simplify_eq (host : Host) (settings : Settings) {source : String} {t : Term}
    (read : Term.ofText source = .ok t) :
    (Command.simplify host settings source).1 =
        .ok (t.simplify settings (host.registry Host.common)).text ∧
      (Command.simplify host settings source).2.registries = host.registries := by
  unfold Command.simplify Command.readTerm
  rw [read]
  exact ⟨rfl, rfl⟩

/-- **What the command `simplify` prints can be fed back.**  For every source that the reader
takes, all settings and every common registry without hooks: the text printed reads back as the
simplified term, which equals itself, and the command prints the same text for that text. -/
theorem Command.simplify_text (host : Host) (settings : Settings)
    (hookless : ∀ d ∈ (host.registry Host.common).custom, d.hook = none) {source : String}
    {t : Term} (read : Term.ofText source = .ok t) :
    let simplified := t.simplify settings (host.registry Host.common)
    let first := Command.simplify host settings source
    first.1 = .ok simplified.text ∧
      Term.ofText simplified.text = .ok simplified ∧ (simplified == simplified) = true ∧
      (Command.simplify first.2 settings simplified.text).1 = .ok simplified.text := by
  intro simplified first
  obtain ⟨printed, sameRegistries⟩ := Command.simplify_eq host settings read
  have accepted : simplified.IsAccepted Reader.maxNesting :=
    (Term.isAccepted_of_ofText read).simplify hookless
  obtain ⟨reading, same⟩ := Reader.term_chars accepted []
  rw [List.append_nil] at reading
  have back := Term.ofText_of_term reading
  have settled : simplified.IsSettled settings (host.registry Host.common) 0 :=
    Term.isSettled_simplifyAt hookless t 0 .blank
  refine ⟨printed, back, same, ?_⟩
  have sameRegistry : first.2.registry Host.common = host.registry Host.common := by
    rw [Host.registry, Host.registry, show first.2.registries = _ from sameRegistries]
  have again : simplified.simplify settings (first.2.registry Host.common) = simplified := by
    rw [sameRegistry]
    exact settled.simplifyAt_eq hookless .blank
  rw [(Command.simplify_eq first.2 settings back).1, again]

/-- A product that leaves the doubles, a sum of strings with a quote, and an absorbing constant
behind an operand with a state. -/
theorem Command.simplify_text_folded :
    let source := "( and (gt 3 2) (eq k(mul -1e308 1e308)) (unique (add 'it\\'s' ' odd'))false k)"
    let text := "(and (eq k (const -inf)) (unique (const 'it\\'s odd')) false)"
    ∃ t, Term.ofText source = .ok t ∧
      let simplified := t.simplify {} Registry.standard
      let first := Command.simplify {} {} source
      simplified.text = text ∧ first.1 = .ok simplified.text ∧
        Term.ofText simplified.text = .ok simplified ∧ (simplified == simplified) = true ∧
        (Command.simplify first.2 {} simplified.text).1 = .ok simplified.text := by
  intro source text
  have printed : (Term.ofText source).toOption.map
      (fun t => (t.simplify {} Registry.standard).text) = some text := by
    decide +kernel
  cases read : Term.ofText source with
  | error e =>
      rw [read] at printed
      cases printed
  | ok t =>
      rw [read] at printed
      exact ⟨t, rfl, Option.some.inj printed,
        Command.simplify_text {} {} (fun d member => absurd member List.not_mem_nil) read⟩

end FactScan
