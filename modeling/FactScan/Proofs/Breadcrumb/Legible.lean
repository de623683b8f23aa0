/-
# FactScan.Proofs.Breadcrumb.Legible — legible terms stay legible

A term that is evaluated is the one given, one nested in another, or the expansion of a
definition.  If the given term and all bodies are legible, so is each of these: operands put
in the place of placeholders keep a body legible (`Term.IsLegible.instantiate`), and a body
filled in anew remembers nothing of earlier ones.

`State.IsLegible` says that all the terms a state can bring forth are legible: the bodies of
its definitions, none of them native, and the expansions it remembers, however deep.
-/
import FactScan.Proofs.Reading.Shape
import FactScan.Proofs.Dispatch

namespace FactScan

set_option autoImplicit false

/-! ## Terms -/

theorem Operand.IsLegible.isPlain {o : Operand} (legible : o.IsLegible) : o.IsPlain := by
  unfold Operand.IsPlain
  split
  · exact Term.IsLegible.plain legible
  · exact legible
  · trivial

theorem Term.IsLegible.operands {t : Term} (legible : t.IsLegible) :
    ∀ o ∈ t.operands, o.IsLegible := by
  cases t with
  | mk op operands => exact (Term.isLegible_mk.1 legible).2

/-- What an operand carries is nested in it. -/
theorem Operand.IsLegible.eq_nested {o : Operand} (legible : o.IsLegible) {t : Term}
    (carried : o.carried? = some t) : o = .nested t := by
  rcases Operand.carried?_cases carried with rfl | rfl
  · rfl
  · exact legible.elim

theorem Term.IsLegible.instantiate {t : Term} (legible : t.IsLegible) {args : List Operand}
    (given : ∀ o ∈ args, o.IsLegible) : (t.instantiate args).IsLegible := by
  induction t using Term.nested_induction with
  | step op operands ih =>
      obtain ⟨word, legibleOperands⟩ := Term.isLegible_mk.1 legible
      rw [Term.instantiate, Operand.listInstantiate_eq_map]
      refine Term.isLegible_mk.2 ⟨word, fun o member => ?_⟩
      obtain ⟨o, inside, rfl⟩ := List.mem_map.1 member
      have legible := legibleOperands o inside
      cases o with
      | nested t => exact ih t inside legible
      | placeholder i =>
          rw [Operand.instantiate]
          cases found : args[i.toNat]? with
          | none => exact legible
          | some arg => exact given arg (List.mem_of_getElem? found)
      | literal _ | field _ => exact legible

/-! ## Memories -/

/-- The term is an expansion that is remembered, by the term itself, by a term below it, or
by an expansion. -/
inductive Memory.Holds : Memory → Term → Prop
  | kept {m inner : Memory} {generation : Nat} {t : Term} :
      m.block = some (.expansion generation t inner) → Holds m t
  | inside {m inner : Memory} {generation : Nat} {body t : Term} :
      m.block = some (.expansion generation body inner) → Holds inner t → Holds m t
  | child {m : Memory} {t : Term} (p : Nat) : Holds (m.child p) t → Holds m t

/-- All expansions that are remembered are legible. -/
def Memory.IsLegible (m : Memory) : Prop := ∀ t, m.Holds t → t.IsLegible

namespace Memory

theorem not_holds_blank (t : Term) : ¬ blank.Holds t := by
  intro holds
  generalize start : blank = m at holds
  induction holds with
  | kept held =>
      subst start
      cases held
  | inside held =>
      subst start
      cases held
  | child p _ ih =>
      subst start
      exact ih (by simp [child, blank, children])

theorem isLegible_blank : blank.IsLegible := fun t holds => absurd holds (not_holds_blank t)

theorem IsLegible.child {m : Memory} (legible : m.IsLegible) (p : Nat) : (m.child p).IsLegible :=
  fun t holds => legible t (.child p holds)

theorem IsLegible.setChild {m c : Memory} (legible : m.IsLegible) (legible' : c.IsLegible)
    (p : Nat) : (m.setChild p c).IsLegible := by
  intro t holds
  cases holds with
  | kept held => exact legible t (.kept held)
  | inside held holds => exact legible t (.inside held holds)
  | child q holds =>
      by_cases same : p = q
      · subst same
        rw [child_setChild_self] at holds
        exact legible' t holds
      · rw [child_setChild_ne m same] at holds
        exact legible t (.child q holds)

/-- A block that is no expansion adds no term. -/
theorem IsLegible.setBlock {m : Memory} (legible : m.IsLegible) {b : Option Block}
    (other : ∀ generation t inner, b ≠ some (.expansion generation t inner)) :
    (m.setBlock b).IsLegible := by
  intro t holds
  cases holds with
  | kept held => exact absurd held (other _ _ _)
  | inside held holds => exact absurd held (other _ _ _)
  | child p holds => exact legible t (.child p holds)

theorem IsLegible.setExpansion {m inner : Memory} (legible : m.IsLegible) {body : Term}
    (legibleBody : body.IsLegible) (legible' : inner.IsLegible) (generation : Nat) :
    (m.setBlock (some (.expansion generation body inner))).IsLegible := by
  intro t holds
  cases holds with
  | kept held =>
      cases held
      exact legibleBody
  | inside held holds =>
      cases held
      exact legible' t holds
  | child p holds => exact legible t (.child p holds)

/-- A memory without a block of its own holds what its children hold. -/
theorem isLegible_of_children {m : Memory} (block : m.block = none)
    (legible : ∀ p, (m.child p).IsLegible) : m.IsLegible := by
  intro t holds
  cases holds with
  | kept held =>
      rw [block] at held
      cases held
  | inside held holds =>
      rw [block] at held
      cases held
  | child p holds => exact legible p t holds

end Memory

/-- A plain operand that is no nested term has no memory. -/
theorem Operand.freshMemory_eq_blank {o : Operand} (plain : o.IsPlain)
    (flat : ∀ t, o ≠ .nested t) (m : Memory) : o.freshMemory m = .blank := by
  match o with
  | .nested t => exact absurd rfl (flat t)
  | .literal (.term c) => exact plain.elim
  | .literal (.integer _) | .literal (.float _) | .literal (.string _) | .literal (.boolean _)
  | .literal (.timestamp _) | .literal (.regex _) | .field _ | .placeholder _ => rfl

theorem Term.isLegible_freshMemory {t : Term} (plain : t.IsPlain) (m : Memory) :
    (t.freshMemory m).IsLegible := by
  induction t using Term.nested_induction generalizing m with
  | step op operands ih =>
      refine Memory.isLegible_of_children rfl fun p => ?_
      rw [Term.child_freshMemory]
      cases found : operands[p]? with
      | none => exact Memory.isLegible_blank
      | some o =>
          have member := List.mem_of_getElem? found
          have plainOperand := Term.isPlain_mk.1 plain o member
          show (o.freshMemory (m.child p)).IsLegible
          rcases o.nested_or_flat with ⟨t, rfl⟩ | flat
          · exact ih t member plainOperand _
          · rw [Operand.freshMemory_eq_blank plainOperand flat]
            exact Memory.isLegible_blank

theorem Operand.isLegible_freshMemory {o : Operand} (plain : o.IsPlain) (m : Memory) :
    (o.freshMemory m).IsLegible := by
  rcases o.nested_or_flat with ⟨t, rfl⟩ | flat
  · exact Term.isLegible_freshMemory plain m
  · rw [freshMemory_eq_blank plain flat]
    exact Memory.isLegible_blank

/-- A body filled in anew remembers no expansion. -/
theorem Term.isLegible_instantiateMemory {t : Term} (plain : t.IsPlain) {args : List Operand}
    (given : ∀ o ∈ args, o.IsPlain) (ms : List Memory) (m : Memory) :
    (t.instantiateMemory args ms m).IsLegible := by
  induction t using Term.nested_induction generalizing m with
  | step op operands ih =>
      refine Memory.isLegible_of_children rfl fun p => ?_
      rw [Term.child_instantiateMemory]
      cases found : operands[p]? with
      | none => exact Memory.isLegible_blank
      | some o =>
          have member := List.mem_of_getElem? found
          have plainOperand := Term.isPlain_mk.1 plain o member
          show (o.instantiateMemory args ms (m.child p)).IsLegible
          match o with
          | .nested t => exact ih t member plainOperand _
          | .placeholder i =>
            rw [Operand.instantiateMemory]
            cases argument : args[i.toNat]? with
            | none => exact Memory.isLegible_blank
            | some arg =>
                exact Operand.isLegible_freshMemory (given arg (List.mem_of_getElem? argument)) _
          | .literal (.term c) => exact plainOperand.elim
          | .literal (.integer _) | .literal (.float _) | .literal (.string _)
          | .literal (.boolean _) | .literal (.timestamp _) | .literal (.regex _) | .field _ =>
            exact Memory.isLegible_blank

/-! ## Definitions -/

/-- The definition is one a registry takes, and is not native; its body is legible. -/
structure Definition.IsLegible (d : Definition) : Prop where
  named : Registry.checkName d.name = .ok ()
  body : ∃ body, d.body = .expression body ∧ body.term.IsLegible

def Registry.IsLegible (r : Registry) : Prop := ∀ d ∈ r.custom, d.IsLegible

/-- All terms that the state can bring forth are legible. -/
structure State.IsLegible (s : State) : Prop where
  memory : s.memory.IsLegible
  registry : s.world.registry.IsLegible

theorem World.isLegible_define {w w' : World} (legible : w.registry.IsLegible) {d : Definition}
    {body : Instance} (isTerm : d.body = .expression body) (legibleBody : body.term.IsLegible)
    (made : w.define d = .ok w') : w'.registry.IsLegible := by
  have ⟨named, _, _⟩ := World.define_eq_ok.1 made
  exact World.forall_define legible made ⟨named, body, isTerm, legibleBody⟩

theorem World.isLegible_undefine {w w' : World} (legible : w.registry.IsLegible) {name : String}
    {removed : Bool} (done : w.undefine name = .ok (w', removed)) : w'.registry.IsLegible :=
  World.forall_undefine legible done

/-- What a call of a legible definition runs is legible, whether it was kept or is new. -/
theorem Definition.isLegible_expansionFor {d : Definition} {body : Instance}
    (legibleBody : body.term.IsLegible) {term : Term} (legible : term.IsLegible) {m : Memory}
    (legibleMemory : m.IsLegible) :
    (d.expansionFor body term m).term.IsLegible ∧
      (d.expansionFor body term m).memory.IsLegible := by
  cases kept : d.isKept m with
  | true =>
      have held := d.expansionFor_of_isKept body term kept
      exact ⟨legibleMemory _ (.kept held), fun t holds => legibleMemory t (.inside held holds)⟩
  | false =>
      rw [d.expansionFor_of_not_isKept body term kept]
      have plainOperands : ∀ o ∈ term.operands, o.IsPlain :=
        fun o member => (legible.operands o member).isPlain
      exact ⟨legibleBody.instantiate legible.operands,
        Term.isLegible_instantiateMemory legibleBody.plain plainOperands _ _⟩

/-- A name that a custom operator has is no built-in operator's. -/
theorem Definition.IsLegible.ofName?_eq_none {d : Definition} (legible : d.IsLegible) :
    Builtin.ofName? d.name = none :=
  Registry.ofName?_eq_none.2 (Registry.checkName_eq_ok.1 legible.named).unreserved

end FactScan
