/-
# FactScan.Proofs.Breadcrumb.Blame — who is to blame for a failure

An operator gets at the terms below only through the evaluator it is given.  So to see which
of them it evaluates, give it another evaluator: one that agrees wherever the first succeeds
and fails as it likes elsewhere (`Evaluator.Extends`).  If the operator fails, either it does
so by itself, with the same error under all of these, or one evaluation below failed, and
whatever error that one had given, the operator would have given (`Act.Outcome`).

* `Builtin.outcome`: this is so of every built-in operator on a legible term;
* `Definition.outcome`: and of every custom operator that a term defines.
-/
import FactScan.Proofs.Breadcrumb.Legible

namespace FactScan

set_option autoImplicit false

/-- The second evaluator gives what the first gives wherever that one succeeds. -/
def Evaluator.Extends (E₀ E : Evaluator) : Prop :=
  ∀ site t s v s', E₀ site t s = (.ok v, s') → E site t s = (.ok v, s')

/-- The evaluators that extend one. -/
abbrev Evaluator.Extension (E₀ : Evaluator) : Type := { E : Evaluator // E₀.Extends E }

/-- Successful evaluations of legible terms leave legible states. -/
def Evaluator.KeepsLegible (E₀ : Evaluator) : Prop :=
  ∀ site t s v s', t.IsLegible → s.IsLegible → E₀ site t s = (.ok v, s') → s'.IsLegible

/-- How an act for `term` ends that evaluates terms one level below `depth`, each of them a
`callee` in the state in which it is evaluated. -/
inductive Act.Outcome (E₀ : Evaluator) (callee : Term → State → Prop) (depth : Nat) (term : Term)
    {α : Type} (act : E₀.Extension → Act α) (s : State) : Prop
  /-- It succeeds, whatever other evaluations might have given. -/
  | ok (a : α) (s' : State) : s'.IsLegible → (∀ E, act E s = (.ok a, s')) →
      Outcome E₀ callee depth term act s
  /-- It raises an error of its own. -/
  | raised (e : EvalError) : e.IsLocal ∨ e.RaisedFor term → (∀ E, (act E s).1 = .error e) →
      Outcome E₀ callee depth term act s
  /-- An evaluation below failed, and the act passes on whatever error that gives. -/
  | passed (site : Site) (t : Term) (below : State) : site.depth = depth + 1 → callee t below →
      t.IsLegible → below.IsLegible → (∃ e, (E₀ site t below).1 = .error e) →
      (∀ E : E₀.Extension, ∀ e, (E.1 site t below).1 = .error e → (act E s).1 = .error e) →
      Outcome E₀ callee depth term act s

namespace Act

variable {E₀ : Evaluator} {callee : Term → State → Prop} {depth : Nat} {term : Term} {α β : Type}

namespace Outcome

/-- An act that evaluates nothing below. -/
theorem const {act : Act α} {s : State}
    (legible : ∀ a s', act s = (.ok a, s') → s'.IsLegible)
    (own : ∀ e s', act s = (.error e, s') → e.IsLocal ∨ e.RaisedFor term) :
    Outcome E₀ callee depth term (fun _ => act) s := by
  rcases h : act s with ⟨_ | _, s'⟩
  · exact .raised _ (own _ s' h) fun _ => by rw [h]
  · exact .ok _ s' (legible _ s' h) fun _ => h

/-- How an act ends depends on nothing but what it does in this state. -/
theorem of_eq {act act' : E₀.Extension → Act α} {s s' : State}
    (outcome : Outcome E₀ callee depth term act' s') (same : ∀ E, act E s = act' E s') :
    Outcome E₀ callee depth term act s := by
  cases outcome with
  | ok a s₁ legible same' => exact .ok a s₁ legible fun E => by rw [same, same']
  | raised e own same' => exact .raised e own fun E => by rw [same, same']
  | passed site t below deeper called legible legible' failed passes =>
      refine .passed site t below deeper called legible legible' failed fun E e failed => ?_
      rw [same]
      exact passes E e failed

theorem bind {act : E₀.Extension → Act α} {f : E₀.Extension → α → Act β} {s : State}
    (first : Outcome E₀ callee depth term act s)
    (next : ∀ a s', s'.IsLegible → Outcome E₀ callee depth term (fun E => f E a) s') :
    Outcome E₀ callee depth term (fun E => act E >>= f E) s := by
  cases first with
  | ok a s₁ legible same => exact (next a s₁ legible).of_eq fun E => bind_ok (same E) _
  | raised e own same => exact .raised e own fun E => bind_fst_error (same E)
  | passed site t below deeper called legible legible' failed passes =>
      exact .passed site t below deeper called legible legible' failed
        fun E e failed => bind_fst_error (passes E e failed)

/-- The fact does not matter to whether a state is legible. -/
theorem withFact {act : E₀.Extension → Act α} {s : State} (fact : Fact)
    (inner : Outcome E₀ callee depth term act { s with world := { s.world with fact } }) :
    Outcome E₀ callee depth term (fun E => Act.withFact fact (act E)) s := by
  cases inner with
  | ok a s' legible same =>
      refine .ok a { s' with world := { s'.world with fact := s.world.fact } }
        ⟨legible.memory, legible.registry⟩ fun E => ?_
      rw [withFact_apply, same]
  | raised e own same => exact .raised e own same
  | passed site t below deeper called legible legible' failed passes =>
      exact .passed site t below deeper called legible legible' failed passes

/-- The evaluation of an operand, on its own memory. -/
theorem atChild (keeps : E₀.KeepsLegible) {s : State} (legible : s.IsLegible) (p : Nat)
    {site : Site} {t : Term} (deeper : site.depth = depth + 1)
    (called : ∀ below, callee t below) (legible' : t.IsLegible) :
    Outcome E₀ callee depth term (fun E => Act.atChild p (E.1 site t)) s := by
  have below : State.IsLegible { s with memory := s.memory.child p } :=
    ⟨legible.memory.child p, legible.registry⟩
  rcases h : E₀ site t { s with memory := s.memory.child p } with ⟨_ | v, s'⟩
  · exact .passed site t _ deeper (called _) legible' below ⟨_, by rw [h]⟩ fun E e failed => failed
  · have after := keeps site t _ v s' legible' below h
    refine .ok v { s' with memory := s.memory.setChild p s'.memory }
      ⟨legible.memory.setChild after.memory p, after.registry⟩ fun E => ?_
    rw [atChild_apply, E.2 _ _ _ _ _ h]

theorem closed : Closed fun α act => ∀ s : State, s.IsLegible →
    @Outcome E₀ callee depth term α act s where
  pure a := fun s legible => .ok a s legible fun _ => rfl
  bind first next := fun s legible => (first s legible).bind next
  fail own := fun _ _ => .raised _ (.inl own) fun _ => rfl
  overlay {_} row {_} inner := fun s legible =>
    have fact : Outcome E₀ callee depth term (fun _ => Act.fact) s :=
      .ok s.world.fact s legible fun _ => rfl
    fact.bind fun outer _ legible' =>
      .withFact (.overlay row outer) (inner _ ⟨legible'.memory, legible'.registry⟩)
  vacant {_ _} inner := fun _ legible =>
    .withFact .empty (inner _ ⟨legible.memory, legible.registry⟩)

theorem looks (field : String) : Looks (fun α act => ∀ s : State, s.IsLegible →
    @Outcome E₀ callee depth term α act s) field where
  read s legible := .ok _ s legible fun _ => rfl
  holds s legible := .ok _ s legible fun _ => rfl

end Outcome

end Act

/-! ## Built-in operators -/

section

variable {E₀ : Evaluator} {callee : Term → State → Prop} {depth : Nat} {term : Term}

theorem Builtin.permitted_outcome (legible : term.IsLegible) (level : Level) (b : Builtin) :
    b.Permitted (fun α act => ∀ s : State, s.IsLegible →
      @Act.Outcome E₀ callee depth term α act s) level fun _ => term where
  exchange _ v := fun s before =>
    .ok (Operators.previousOf s.memory.block)
      { s with memory := s.memory.setBlock (some (.previous v)) }
      ⟨before.memory.setBlock fun _ _ _ => nofun, before.registry⟩ fun _ => rfl
  collect _ keys := fun s before =>
    .ok (keys.all fun key => !(Operators.seenOf s.memory.block).contains key)
      ⟨s.memory.setBlock (some (.seen (keys.foldl Operators.insertKey
        (Operators.seenOf s.memory.block)))), s.world⟩
      ⟨before.memory.setBlock fun _ _ _ => nofun, before.registry⟩ fun _ => rfl
  pattern _ source := by
    intro s before
    refine .const (fun p s' done => ?_) fun e s' failed => ?_
    · rw [Operators.patternOf_apply] at done
      split at done
      · cases done
        exact before
      · split at done
        · cases done
          exact ⟨before.memory.setBlock fun _ _ _ => nofun, before.registry⟩
        · cases done
    · rw [Operators.patternOf_apply] at failed
      split at failed
      · cases failed
      · split at failed
        · cases failed
        · cases failed
          exact .inl trivial
  append _ field _ a := by
    intro s before
    refine .const (fun p s' done => ?_) fun e s' failed => ?_
    · unfold Act.append at done
      split at done
      · cases done
        exact ⟨before.memory, before.registry⟩
      · cases done
    · unfold Act.append at failed
      split at failed
      · cases failed
      · cases failed
        exact .inl trivial
  define _ := by
    intro s before
    rcases Operators.define_cases term with ⟨e, nothing, run⟩ | ⟨name, body, defines, run⟩
    · exact .raised e nothing.origin fun _ => by rw [run]
    · have legibleBody : body.IsLegible := by
        obtain ⟨o, found, carried⟩ := Option.bind_eq_some_iff.1 defines.carried
        have legibleOperand := legible.operands o (List.mem_of_getElem? found)
        rw [legibleOperand.eq_nested carried] at legibleOperand
        exact legibleOperand
      refine .const (fun v s' done => ?_) fun e s' failed => ?_
      · rw [run] at done
        split at done
        · rename_i made
          cases done
          exact ⟨before.memory, World.isLegible_define before.registry rfl legibleBody made⟩
        · cases done
      · rw [run] at failed
        split at failed
        · cases failed
        · rename_i refused
          cases failed
          exact .inl (World.define_error_isLocal refused)
  undefine _ name := by
    intro s before
    refine .const (fun v s' done => ?_) fun e s' failed => ?_
    · cases h : s.world.undefine name with
      | ok r =>
          rw [Act.undefine_ok h] at done
          cases done
          exact ⟨before.memory, World.isLegible_undefine before.registry h⟩
      | error e =>
          rw [Act.undefine_error h] at done
          cases done
    · cases h : s.world.undefine name with
      | ok r =>
          rw [Act.undefine_ok h] at failed
          cases failed
      | error e =>
          rw [Act.undefine_error h] at failed
          cases failed
          exact .inl (World.undefine_error_isLocal h)
  kept _ k n := fun s before =>
    .ok () { s with world := s.world.note (.kept k n) } ⟨before.memory, before.registry⟩
      fun _ => rfl
  traced _ v := fun s before =>
    .ok () { s with world := s.world.note (.traced level term v) }
      ⟨before.memory, before.registry⟩ fun _ => rfl

/-- **A built-in operator fails by itself or through one operand.** -/
theorem Builtin.outcome (keeps : E₀.KeepsLegible) (legible : term.IsLegible)
    (nested : ∀ t, .nested t ∈ term.operands → ∀ below, callee t below) (settings : Settings)
    (b : Builtin) (rows : List Row) {s : State} (before : s.IsLegible) :
    Act.Outcome E₀ callee depth term
      (fun E => b.run settings E.1 ⟨rows, depth⟩ term) s := by
  have L := @Act.Outcome.closed E₀ callee depth term
  have C : Counterparts (fun α act => ∀ s : State, s.IsLegible →
      @Act.Outcome E₀ callee depth term α act s) (fun E => E.1) (fun _ => depth)
      fun _ => term := by
    refine .ofTerm (fun p t carried rows s before => ?_) (fun _ name _ => Act.Outcome.looks name)
      (fun expected s _ => .raised _ (.inr (.arity expected)) fun _ => rfl)
      fun p expected s _ => .raised _ (.inr (.operand p expected)) fun _ => rfl
    obtain ⟨o, found, carried⟩ := Option.bind_eq_some_iff.1 carried
    have member : o ∈ term.operands := List.mem_of_getElem? found
    have legibleOperand := legible.operands o member
    rw [legibleOperand.eq_nested carried] at member legibleOperand
    exact .atChild keeps before p rfl (nested t member) legibleOperand
  exact Builtin.run_closed L C settings b (Builtin.permitted_outcome legible _ b) s before

/-- **A custom operator that a term defines** refuses its operands or evaluates its
expansion. -/
theorem Definition.outcome (keeps : E₀.KeepsLegible) (legible : term.IsLegible)
    {d : Definition} (legibleDefinition : d.IsLegible) (rows : List Row) {s : State}
    (before : s.IsLegible)
    (expansion : ∀ body, d.body = .expression body → d.arity.admits term.arity = true →
      callee (d.expansionFor body term s.memory).term
        ⟨(d.expansionFor body term s.memory).memory, d.worldFor term s.memory s.world⟩) :
    Act.Outcome E₀ callee depth term (fun E => d.run E.1 ⟨rows, depth⟩ term) s := by
  obtain ⟨body, isTerm, legibleBody⟩ := legibleDefinition.body
  cases admitted : d.arity.admits term.arity with
  | false =>
      refine .raised _ (.inr (.arity d.arity)) fun E => ?_
      rw [Definition.run_refused admitted]
  | true =>
      have ⟨legibleTerm, legibleMemory⟩ :=
        d.isLegible_expansionFor legibleBody legible before.memory
      have inner : State.IsLegible
          ⟨(d.expansionFor body term s.memory).memory, d.worldFor term s.memory s.world⟩ := by
        refine ⟨legibleMemory, ?_⟩
        rw [d.registry_worldFor]
        exact before.registry
      rcases h : E₀ ⟨rows, depth + 1⟩ (d.expansionFor body term s.memory).term
        ⟨(d.expansionFor body term s.memory).memory, d.worldFor term s.memory s.world⟩ with
        ⟨e | v, s'⟩
      · refine .passed _ _ _ rfl (expansion body isTerm admitted) legibleTerm inner
          ⟨e, by rw [h]⟩ ?_
        intro E e failed
        rw [Definition.run_expression isTerm admitted]
        exact failed
      · have after := keeps _ _ _ v s' legibleTerm inner h
        refine .ok v ⟨s.memory.setBlock
            (some (.expansion d.generation (d.expansionFor body term s.memory).term s'.memory)),
          s'.world⟩
          ⟨before.memory.setExpansion legibleTerm after.memory d.generation, after.registry⟩ ?_
        intro E
        rw [Definition.run_expression isTerm admitted, Act.inExpansion_apply]
        show (_, State.mk _ _) = _
        rw [show E.1 (Site.deeper ⟨rows, depth⟩) _ _ = _ from E.2 _ _ _ _ _ h]

end

end FactScan
