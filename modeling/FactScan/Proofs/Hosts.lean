/-
# FactScan.Proofs.Hosts — what a host keeps

Registries and facts are kept under numbers.  What is done to one of them leaves the others as
they are, so what holds of all goes on holding if it holds of the new one.
-/
import FactScan.Host

namespace FactScan.Host

set_option autoImplicit false

section

variable {α : Type} {P : α → Prop} {l : List α} {d a : α}

theorem forall_set (all : ∀ k : Nat, P (l[k]?.getD d)) (new : P a) (n k : Nat) :
    P ((l.set n a)[k]?.getD d) := by
  rw [List.getElem?_set]
  split
  · split
    · exact new
    · rename_i outside
      have last := all n
      rw [List.getElem?_eq_none (Nat.le_of_not_lt outside)] at last
      exact last
  · exact all k

theorem forall_append (all : ∀ k : Nat, P (l[k]?.getD d)) (new : P a) (k : Nat) :
    P ((l ++ [a])[k]?.getD d) := by
  rw [List.getElem?_append]
  split
  · exact all k
  · have last := all l.length
    rw [List.getElem?_eq_none (Nat.le_refl _)] at last
    rw [List.getElem?_singleton]
    split
    · exact new
    · exact last

end

variable {h : Host}

theorem forall_registry_absorb {P : Registry → Prop} (all : ∀ id, P (h.registry id)) {w : World}
    (new : P w.registry) (registry id : Nat) : P ((h.absorb registry w).registry id) :=
  forall_set all new registry id

theorem forall_registry_addRegistry {P : Registry → Prop} (all : ∀ id, P (h.registry id))
    {r : Registry} (new : P r) (id : Nat) : P ((h.addRegistry r).2.registry id) :=
  forall_append all new id

theorem forall_fact_addFact {P : Fact → Prop} (all : ∀ id, P (h.fact id)) {x : Fact} (new : P x)
    (id : Nat) : P ((h.addFact x).2.fact id) :=
  forall_append all new id

theorem forall_fact_setFact {P : Fact → Prop} (all : ∀ id, P (h.fact id)) {x : Fact} (new : P x)
    (k id : Nat) : P ((h.setFact k x).fact id) :=
  forall_set all new k id

/-- Facts are the ones they were, but for the one evaluated against. -/
theorem fact_evaluate (h : Host) (engine : Engine) (rows : List Row) (i : Instance)
    (id other : Nat) :
    (h.evaluate engine rows i id).2.2.fact other = h.fact other ∨ other = id ∧
      (h.evaluate engine rows i id).2.2.fact other =
        (i.evaluate engine.settings rows (h.world engine.registry (h.fact id))).2.2.fact := by
  show (h.facts.set id _)[other]?.getD .empty = h.facts[other]?.getD .empty ∨
    other = id ∧ (h.facts.set id _)[other]?.getD .empty = _
  rw [List.getElem?_set]
  by_cases here : id = other
  · subst here
    by_cases inside : id < h.facts.length
    · rw [if_pos rfl, if_pos inside]
      exact .inr ⟨rfl, rfl⟩
    · rw [if_pos rfl, if_neg inside, List.getElem?_eq_none (Nat.le_of_not_lt inside)]
      exact .inl rfl
  · rw [if_neg here]
    exact .inl rfl

section

variable {α : Type} {registry : Nat} {f : World → Except EvalError (World × α)} {w : World}
  {a : α} {e : EvalError}

theorem change_made (made : f (h.world registry .empty) = .ok (w, a)) :
    h.change registry f = (.ok a, h.absorb registry w) := by
  rw [change, made]

theorem change_refused (refused : f (h.world registry .empty) = .error e) :
    h.change registry f = (.error e, h) := by
  rw [change, refused]

end

/-- A change of a registry is taken over, or refused without a trace. -/
theorem change_cases {α : Type} {registry : Nat} {f : World → Except EvalError (World × α)}
    {result : Except EvalError α} {after : Host} (done : h.change registry f = (result, after)) :
    (∃ w a, f (h.world registry .empty) = .ok (w, a) ∧ after = h.absorb registry w) ∨
      after = h := by
  unfold change at done
  split at done
  · rename_i w a changed
    cases done
    exact .inl ⟨w, a, changed, rfl⟩
  · cases done
    exact .inr rfl

end FactScan.Host
