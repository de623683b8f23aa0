/-
# FactScan.Proofs.Simplify.Settled — simplifying twice is simplifying once

A term is settled if no rule is about it, or about a term nested in it that is not kept as it
is (`Term.IsSettled`).  That is what simplification leaves (`Term.isSettled_simplifyAt`), and
what it does not touch (`Term.IsSettled.simplifyAt_eq`), whatever an engine hosts, however
deep it evaluates, and whatever is wrong with a term.  So simplifying is idempotent
(`Instance.simplify_idempotent`), as long as no hook of the host has a say in it.
-/
import FactScan.Proofs.Simplify.Outcome

namespace FactScan

set_option autoImplicit false

/-- A term at a depth with nothing left to simplify: one that is kept as it is, or one of
settled terms that no rule is about. -/
inductive Term.IsSettled (settings : Settings) (registry : Registry) : Nat → Term → Prop
  | kept {depth : Nat} {op : Operator} {operands : List Operand} :
      Simplify.isKept settings depth op = true → IsSettled settings registry depth (.mk op operands)
  | mk {depth : Nat} {op : Operator} {operands : List Operand} :
      (∀ t, .nested t ∈ operands → IsSettled settings registry (depth + 1) t) →
      Simplify.NoRule settings registry op operands →
      IsSettled settings registry depth (.mk op operands)

section

variable {settings : Settings} {registry : Registry}

theorem Term.isSettled_constantOf (depth : Nat) (a : Scalar) :
    (Term.constantOf a).IsSettled settings registry depth :=
  .mk (by simp) trivial

/-- Simplified terms are settled. -/
theorem Term.isSettled_simplifyAt (hookless : ∀ d ∈ registry.custom, d.hook = none) (t : Term)
    (depth : Nat) (m : Memory) :
    (t.simplifyAt settings registry depth m).term.IsSettled settings registry depth := by
  refine Term.simplifyAt_rec settings registry (P := fun depth _ t' => t'.IsSettled _ _ depth)
    (fun depth op operands isKept => .kept isKept) ?_ t depth m
  intro depth op operands parts i _ below outcome
  cases outcome with
  | constant _ _ => exact isSettled_constantOf depth _
  | @kept left inside settled =>
      refine .mk (fun t member => ?_) settled
      obtain ⟨part, within, isNested⟩ := List.mem_map.1 member
      obtain ⟨o, _, nesting⟩ := Operand.exists_nesting below (inside.subset within)
      rw [isNested] at nesting
      cases nesting with
      | nested isSettled => exact isSettled
      | flat flat => exact absurd rfl (flat t)
  | hooked member hooked _ => exact absurd hooked (Simplify.not_hooked hookless member _)

/-- Settled terms simplify to themselves. -/
theorem Term.IsSettled.simplifyAt_eq (hookless : ∀ d ∈ registry.custom, d.hook = none)
    {depth : Nat} {t : Term} (settled : t.IsSettled settings registry depth) (m : Memory) :
    (t.simplifyAt settings registry depth m).term = t := by
  induction settled generalizing m with
  | kept isKept => rw [Term.simplifyAt, if_pos isKept]
  | @mk depth op operands _ noRule ih =>
      rw [Term.simplifyAt]
      split
      · rfl
      · generalize made : Operand.listSimplifyAt settings registry (depth + 1) operands
          m.children = parts
        -- Settled operands come back as they were, and the rules see the term itself.
        have same : parts.map (·.operand) = operands := by
          refine List.ext_getElem? fun p => ?_
          rw [← made, List.getElem?_map, Operand.getElem?_listSimplifyAt]
          cases found : operands[p]? with
          | none => rfl
          | some o =>
              refine congrArg some ?_
              cases o with
              | nested t =>
                  exact congrArg Operand.nested (ih t (List.mem_of_getElem? found) _)
              | literal s => cases s <;> rfl
              | field name => rfl
              | placeholder n => rfl
        have settled : Simplify.NoRule settings registry op (parts.map (·.operand)) := by
          rw [same]
          exact noRule
        rw [Simplify.apply_eq hookless settled]
        exact congrArg (Term.mk op) same

end

/-- **Simplification is idempotent.**  For all settings, in every registry without hooks,
whatever it hosts and defines, and for every term, whatever it carries as data and remembers,
with how many operands and how deep: in a simplified term no rule applies to anything any
more, and simplifying it again gives the same term. -/
theorem Instance.simplify_idempotent (settings : Settings) (registry : Registry)
    (hookless : ∀ d ∈ registry.custom, d.hook = none) (i : Instance) :
    let once := i.simplify settings registry
    once.term.IsSettled settings registry 0 ∧
      (once.simplify settings registry).term = once.term := by
  intro once
  have settled : once.term.IsSettled settings registry 0 :=
    Term.isSettled_simplifyAt hookless i.term 0 i.memory
  exact ⟨settled, settled.simplifyAt_eq hookless once.memory⟩

/-- An absorbing constant is kept behind an operand with a state: `(and (unique k) (lt 2 1) k)`
becomes `(and (unique k) (const false))`, and stays so. -/
theorem Instance.simplify_idempotent_unique :
    let i : Instance := ⟨.mk (.builtin .and) [.nested (.mk (.builtin .unique) [.field "k"]),
      .nested (.mk (.builtin (.compare .lt)) [.literal (.integer 2), .literal (.integer 1)]),
      .field "k"], .blank⟩
    let once := i.simplify {} .standard
    once.term = .mk (.builtin .and) [.nested (.mk (.builtin .unique) [.field "k"]),
      .nested (.constantOf (.boolean false))] ∧
    once.term.IsSettled {} .standard 0 ∧ (once.simplify {} .standard).term = once.term := by
  intro i once
  have hookless : ∀ d ∈ Registry.standard.custom, d.hook = none :=
    fun d member => absurd member List.not_mem_nil
  exact ⟨rfl, Instance.simplify_idempotent {} .standard hookless i⟩

end FactScan
