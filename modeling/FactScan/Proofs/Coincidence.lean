/-
# FactScan.Proofs.Coincidence — what an evaluator is asked

An operator asks the evaluator it is given about terms, each in a state that comes from that
of the operator's own term.  So take a property of states that a term's state hands on to the
states of the terms below it, and keeps while these are evaluated (`State.Inherited`).  In a
state that has it, nothing is asked but about states that have it, and an evaluator that gives
the same on those can take the place of the other one: `operate_congr`.
-/
import FactScan.Proofs.Breadcrumb.Trail
import FactScan.Proofs.Facts.Reading

namespace FactScan

set_option autoImplicit false

/-- Two evaluators that give the same wherever the state of the term has the property. -/
def Evaluator.Coincide (P : Term → State → Prop) (E E' : Evaluator) : Prop :=
  ∀ site t s, P t s → E site t s = E' site t s

/-- An operand evaluated against another fact. -/
theorem Evaluator.Coincide.withFact {P : Term → State → Prop} {E E' : Evaluator}
    (coincide : E.Coincide P E') {fact : Fact} {p : Nat} {site : Site} {t : Term} {s : State}
    (holds : P t ⟨s.memory.child p, { s.world with fact }⟩) :
    Act.withFact fact (Act.atChild p (E site t)) s =
      Act.withFact fact (Act.atChild p (E' site t)) s := by
  rw [Act.withFact_apply, Act.withFact_apply, Act.atChild_apply, Act.atChild_apply,
    coincide _ _ _ holds]

/-- A property of states that scopes cannot take away: those that `agg` opens have facts that
cannot be written, and when a scope is left the fact is the one from before. -/
structure State.Scoped (P : State → Prop) : Prop where
  enter {s : State} {fact : Fact} : P s → fact.isReadOnly = true →
    P { s with world := { s.world with fact } }
  leave {s s' : State} : P s → P s' →
    P { s' with world := { s'.world with fact := s.world.fact } }

namespace Act

/-- In states that have the property two acts are the same, and leave states that have it. -/
def Coincide (P : State → Prop) (α : Type) (act : Bool → Act α) : Prop :=
  ∀ s, P s → act true s = act false s ∧ P (act false s).2

namespace Coincide

variable {P : State → Prop} {α : Type}

theorem of_keeps {act : Act α} (keeps : ∀ s, P s → P (act s).2) : Coincide P α fun _ => act :=
  fun s holds => ⟨rfl, keeps s holds⟩

theorem withFact (lasts : State.Scoped P) {act : Bool → Act α} (inside : Coincide P α act)
    {s : State} (holds : P s) {fact : Fact} (readOnly : fact.isReadOnly = true) :
    Act.withFact fact (act true) s = Act.withFact fact (act false) s ∧
      P (Act.withFact fact (act false) s).2 := by
  obtain ⟨same, after⟩ := inside _ (lasts.enter holds readOnly)
  rw [withFact_apply, withFact_apply, same]
  exact ⟨rfl, lasts.leave holds after⟩

theorem closed (lasts : State.Scoped P) : Closed (Coincide P) where
  pure _ := .of_keeps fun _ => id
  fail _ := .of_keeps fun _ => id
  bind {_ _ act f} first next := by
    intro s holds
    obtain ⟨same, still⟩ := first s holds
    dsimp only
    rcases bind_cases (act false) (f false) s with ⟨a, s₁, ran, whole⟩ | ⟨e, s₁, ran, whole⟩
    · rw [ran] at same still
      rw [bind_ok same, whole]
      exact next a s₁ still
    · rw [ran] at same still
      rw [bind_error same, whole]
      exact ⟨rfl, still⟩
  overlay row _ inside _ holds := withFact lasts inside holds rfl
  vacant inside _ holds := withFact lasts inside holds rfl

theorem looks (field : String) : Looks (Coincide P) field where
  read := .of_keeps fun _ => id
  holds := .of_keeps fun _ => id

end Coincide

end Act

/-- A property that the state of a term hands on to those of the terms it evaluates, and that
it keeps while the evaluator is at work on them. -/
structure State.Inherited (P : Term → State → Prop) (settings : Settings) (E : Evaluator) :
    Prop where
  scopes (t : Term) : Scoped (P t)
  note {t : Term} {s : State} (r : Record) : P t s → P t { s with world := s.world.note r }
  child {t c : Term} {p : Nat} {s : State} : (t.operand? p).bind Operand.carried? = some c →
    P t s → P c { s with memory := s.memory.child p }
  back {t c : Term} {p : Nat} {site : Site} {s : State} :
    (t.operand? p).bind Operand.carried? = some c → P t s →
    P t (Act.atChild p (E site c) s).2
  permitted {t : Term} {b : Builtin} : t.operator = .builtin b →
    b.Permitted (Act.Coincide (P t)) settings.traceLevel fun _ => t
  expansion {t : Term} {name : String} {d : Definition} {body : Instance} {s : State} :
    t.operator = .custom name → s.world.registry.lookup? name = some d →
    d.body = .expression body → P t s →
    P (d.expansionFor body t s.memory).term
      ⟨(d.expansionFor body t s.memory).memory, d.worldFor t s.memory s.world⟩

section

variable {P : Term → State → Prop} {settings : Settings} {E E' : Evaluator}
  (inherited : State.Inherited P settings E') (coincide : E.Coincide P E')
include inherited coincide

theorem Act.Coincide.counterparts (depth : Nat) (t : Term) :
    Counterparts (Coincide (P t)) (fun first => cond first E E') (fun _ => depth) fun _ => t := by
  refine .ofTerm (fun p c carried rows s holds => ⟨?_, ?_⟩) (fun _ name _ => looks name)
    (fun _ => .of_keeps fun _ => id) fun _ _ => .of_keeps fun _ => id
  · show atChild p (E ⟨rows, depth + 1⟩ c) s = atChild p (E' ⟨rows, depth + 1⟩ c) s
    rw [atChild_apply, atChild_apply, coincide _ c _ (inherited.child carried holds)]
  · exact inherited.back carried holds

/-- **In a state with a property that is inherited, an operator makes no difference between
evaluators that coincide where the property holds.** -/
theorem operate_congr (site : Site) {t : Term} {s : State} (holds : P t s) :
    operate settings E site t s = operate settings E' site t s := by
  have L := Act.Coincide.closed (inherited.scopes t)
  have C := Act.Coincide.counterparts inherited coincide site.depth t
  have noted := inherited.note (.dispatched site.depth t) holds
  cases operator : t.operator with
  | builtin b =>
      rw [operate_builtin operator, operate_builtin operator]
      split
      · have run : Act.Coincide (P t) Value fun first => b.run settings (cond first E E') site t :=
          Builtin.run_closed L C settings b (inherited.permitted operator)
        exact (run _ noted).1
      · rfl
  | custom name =>
      rw [operate_custom operator, operate_custom operator]
      cases found : s.world.registry.lookup? name with
      | none => rfl
      | some d =>
          dsimp only
          cases admitted : d.arity.admits t.arity with
          | false => rw [Definition.run_refused admitted, Definition.run_refused admitted]
          | true =>
              cases isBody : d.body with
              | expression body =>
                  have entered := inherited.expansion operator
                    (s := ⟨s.memory, s.world.note (.dispatched site.depth t)⟩) found isBody noted
                  rw [Definition.run_expression isBody admitted,
                    Definition.run_expression isBody admitted, Act.inExpansion_apply,
                    Act.inExpansion_apply, coincide _ _ _ entered]
              | native run =>
                  have call (args : List Value) : Act.Coincide (P t) Value fun _ =>
                      Act.fact >>= fun fact => Act.ofExcept (run args fact site.rows) := by
                    refine .of_keeps fun s holds => ?_
                    show P t (Act.ofExcept (run args s.world.fact site.rows) s).2
                    cases run args s.world.fact site.rows <;> exact holds
                  have args : Act.Coincide (P t) (List Value) fun first =>
                      resolveAll (cond first E E') site t t.positions :=
                    resolveAll_closed L.toComposes C t.positions
                  have whole := L.bind args call
                  rw [Definition.run_native isBody admitted, Definition.run_native isBody admitted]
                  exact (whole _ noted).1

end

end FactScan
