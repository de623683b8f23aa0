/-
# FactScan.Proofs.Registration — defining and removing operators

The changes of a registry as equations: when they succeed and what they leave.  A look-up
after a change finds the new definition under its own name (`lookup?_define`), and under
every other name what was there before.
-/
import FactScan.Proofs.Parametricity

namespace FactScan

set_option autoImplicit false

/-! ## Names -/

theorem Builtin.ofName?_name (b : Builtin) : ofName? b.name = some b := by
  cases b with
  | compare c => cases c <;> rfl
  | arithmetic a => cases a <;> rfl
  | _ => rfl

theorem Builtin.name_of_ofName? {name : String} {b : Builtin} (found : ofName? name = some b) :
    b.name = name := by
  have named := List.find?_some found
  simpa using named

namespace Registry

/-- A name that a custom operator can have. -/
structure IsFree (name : String) : Prop where
  nonempty : name ≠ ""
  letters : ∀ c ∈ name.toList, 'a' ≤ c ∧ c ≤ 'z' ∨ c = '_'
  unreserved : ∀ b : Builtin, b.name ≠ name

theorem ofName?_eq_none {name : String} :
    Builtin.ofName? name = none ↔ ∀ b : Builtin, b.name ≠ name := by
  unfold Builtin.ofName?
  rw [List.find?_eq_none]
  simp only [beq_iff_eq]
  exact ⟨fun all b => all b b.mem_all, fun all b _ => all b⟩

theorem checkName_eq_ok {name : String} : checkName name = .ok () ↔ IsFree name := by
  have wellFormed : isWellFormed name = true ↔
      name ≠ "" ∧ ∀ c ∈ name.toList, 'a' ≤ c ∧ c ≤ 'z' ∨ c = '_' := by
    have lower (c : Char) : c.isLower = true ↔ 'a' ≤ c ∧ c ≤ 'z' := by
      rw [Char.le_def, Char.le_def]
      exact (Bool.and_eq_true _ _).to_iff.trans (and_congr decide_eq_true_iff decide_eq_true_iff)
    unfold isWellFormed
    rw [Bool.and_eq_true, Bool.not_eq_true', List.all_eq_true]
    simp [lower]
  constructor
  · intro named
    unfold checkName at named
    split at named
    · cases named
    · rename_i formed
      rw [Bool.not_eq_true, Bool.not_eq_false'] at formed
      split at named
      · cases named
      · rename_i unreserved
        rw [Bool.not_eq_true, Option.isSome_eq_false_iff, Option.isNone_iff_eq_none] at unreserved
        exact ⟨(wellFormed.1 formed).1, (wellFormed.1 formed).2, ofName?_eq_none.1 unreserved⟩
  · intro free
    unfold checkName
    rw [wellFormed.2 ⟨free.nonempty, free.letters⟩, ofName?_eq_none.2 free.unreserved]
    rfl

/-- Why a name is refused to a custom operator. -/
inductive Refusal (name : String) : EvalError → Prop
  | invalid : isWellFormed name = false → Refusal name (.invalidOperatorName name)
  | reserved (b : Builtin) : b.name = name → Refusal name (.reservedOperator name)

/-- A name is refused, or custom operators can have it. -/
theorem checkName_cases (name : String) :
    (∃ e, checkName name = .error e ∧ Refusal name e) ∨
      checkName name = .ok () ∧ IsFree name := by
  cases named : checkName name with
  | ok _ => exact .inr ⟨rfl, checkName_eq_ok.1 named⟩
  | error e =>
      refine .inl ⟨e, rfl, ?_⟩
      unfold checkName at named
      split at named
      · rename_i invalid
        cases named
        exact .invalid (by simpa using invalid)
      · split at named
        · rename_i reserved
          cases named
          obtain ⟨b, found⟩ := Option.isSome_iff_exists.1 reserved
          exact .reserved b (Builtin.name_of_ofName? found)
        · cases named

end Registry

/-- A name that no built-in operator has is that of a custom one. -/
theorem Operator.eq_custom {op : Operator} {name : String} (named : op.name = name)
    (free : Builtin.ofName? name = none) : op = .custom name := by
  cases op with
  | builtin b => exact absurd named (Registry.ofName?_eq_none.1 free b)
  | custom other => exact congrArg custom named

/-! ## Changes of a registry -/

namespace Registry

theorem checkName_error_isLocal {name : String} {e : EvalError}
    (h : checkName name = .error e) : e.IsLocal := by
  rcases checkName_cases name with ⟨e', named, refusal⟩ | ⟨named, -⟩
  · cases named.symm.trans h
    cases refusal <;> trivial
  · cases named.symm.trans h

theorem define_eq_ok {r r' : Registry} {d : Definition} :
    r.define d = .ok r' ↔
      checkName d.name = .ok () ∧ r.lookup? d.name = none ∧
        r' = { r with custom := put d r.custom } := by
  unfold define
  rcases checkName d.name with e | ⟨⟩
  · simp [bind, Except.bind]
  · cases h : r.lookup? d.name with
    | none =>
        simp only [bind, Except.bind, Option.isSome_none, Bool.false_eq_true, if_false, pure,
          Except.pure, Except.ok.injEq, true_and]
        exact eq_comm
    | some e => simp [bind, Except.bind]

theorem define_error_isLocal {r : Registry} {d : Definition} {e : EvalError}
    (h : r.define d = .error e) : e.IsLocal := by
  unfold define at h
  cases hc : checkName d.name with
  | error e' =>
      simp only [hc, bind, Except.bind, Except.error.injEq] at h
      exact h ▸ checkName_error_isLocal hc
  | ok _ =>
      simp only [hc, bind, Except.bind] at h
      split at h
      · cases h
        trivial
      · cases h

theorem lookup?_put (d : Definition) (defs : List Definition) (name : String) :
    (put d defs).find? (·.name == name) =
      if d.name = name then some d else defs.find? (·.name == name) := by
  induction defs with
  | nil => by_cases h : d.name = name <;> simp [put, h]
  | cons e rest ih =>
      by_cases same : e.name = d.name
      · by_cases h : d.name = name
        · simp [put, same, h]
        · simp [put, same, h]
      · have step : put d (e :: rest) = e :: put d rest := by simp [put, same]
        rw [step]
        by_cases he : e.name = name
        · have other : d.name ≠ name := fun h => same (he.trans h.symm)
          simp [he, other]
        · simpa [he] using ih

theorem mem_put {d e : Definition} {defs : List Definition} (h : e ∈ put d defs) :
    e = d ∨ e ∈ defs := by
  induction defs with
  | nil =>
      simp only [put, List.mem_singleton] at h
      exact .inl h
  | cons f rest ih =>
      simp only [put] at h
      split at h
      · rcases List.mem_cons.1 h with h | h
        · exact .inl h
        · exact .inr (List.mem_cons_of_mem f h)
      · rcases List.mem_cons.1 h with rfl | h
        · exact .inr List.mem_cons_self
        · exact (ih h).imp_right (List.mem_cons_of_mem f)

theorem mem_of_lookup? {r : Registry} {name : String} {d : Definition}
    (h : r.lookup? name = some d) : d ∈ r.custom :=
  List.mem_of_find?_eq_some h

theorem name_of_lookup? {r : Registry} {name : String} {d : Definition}
    (h : r.lookup? name = some d) : d.name = name := by
  have := List.find?_some h
  simpa using this

theorem lookup?_filter (r : Registry) (removed name : String) :
    (r.custom.filter (·.name != removed)).find? (·.name == name) =
      if name = removed then none else r.lookup? name := by
  rw [List.find?_filter]
  split
  · rename_i h
    subst h
    rw [List.find?_eq_none]
    simp
  · rename_i h
    unfold lookup?
    congr 1
    funext d
    by_cases hd : d.name = name
    · simp [hd, h]
    · simp [hd]

end Registry

namespace World

theorem define_eq_ok {w w' : World} {d : Definition} :
    w.define d = .ok w' ↔
      Registry.checkName d.name = .ok () ∧ w.registry.lookup? d.name = none ∧
        w' = w.withDefinition d
          { w.registry with custom := Registry.put (w.numbered d) w.registry.custom } := by
  unfold define
  cases h : w.registry.define (w.numbered d) with
  | ok r =>
      obtain ⟨named, free, rfl⟩ := Registry.define_eq_ok.1 h
      simp only [bind, Except.bind, pure, Except.pure, Except.ok.injEq]
      exact ⟨fun e => ⟨named, free, e.symm⟩, fun e => e.2.2.symm⟩
  | error e =>
      simp only [bind, Except.bind, reduceCtorEq, false_iff, not_and]
      intro named free
      have ok := Registry.define_eq_ok (d := w.numbered d).2 ⟨named, free, rfl⟩
      rw [h] at ok
      cases ok

/-- The world with a definition under the next number, in the place of the one of its name or
last. -/
def adding (w : World) (d : Definition) : World :=
  w.withDefinition d { w.registry with custom := Registry.put (w.numbered d) w.registry.custom }

theorem lookup?_adding (w : World) (d : Definition) (name : String) :
    (w.adding d).registry.lookup? name =
      if d.name = name then some (w.numbered d) else w.registry.lookup? name :=
  Registry.lookup?_put (w.numbered d) w.registry.custom name

/-- The world without an operator. -/
def removing (w : World) (name : String) : World :=
  let rest : World := { w with
    registry := { w.registry with custom := w.registry.custom.filter (·.name != name) } }
  if (w.registry.lookup? name).isSome then rest.note (.undefined name) else rest

@[simp] theorem fact_removing (w : World) (name : String) : (w.removing name).fact = w.fact := by
  unfold removing
  dsimp only
  split <;> rfl

@[simp] theorem nextGeneration_removing (w : World) (name : String) :
    (w.removing name).nextGeneration = w.nextGeneration := by
  unfold removing
  dsimp only
  split <;> rfl

@[simp] theorem registry_removing (w : World) (name : String) :
    (w.removing name).registry =
      { w.registry with custom := w.registry.custom.filter (·.name != name) } := by
  unfold removing
  dsimp only
  split <;> rfl

/-- Defining an operator fails for its name, or because there is one of that name. -/
theorem define_apply (w : World) (d : Definition) :
    w.define d =
      match Registry.checkName d.name, w.registry.lookup? d.name with
      | .error e, _ => .error e
      | .ok (), some _ => .error (.duplicateOperator d.name)
      | .ok (), none => .ok (w.adding d) := by
  have name : (w.numbered d).name = d.name := rfl
  unfold define Registry.define
  rw [name]
  rcases Registry.checkName d.name with e | ⟨⟩
  · rfl
  · cases w.registry.lookup? d.name <;> rfl

/-- Removing an operator fails only for the names of built-in ones. -/
theorem undefine_apply (w : World) (name : String) :
    w.undefine name =
      match Builtin.ofName? name with
      | some _ => .error (.reservedOperator name)
      | none => .ok (w.removing name, (w.registry.lookup? name).isSome) := by
  unfold undefine Registry.undefine
  cases Builtin.ofName? name <;> rfl

theorem define_error_isLocal {w : World} {d : Definition} {e : EvalError}
    (h : w.define d = .error e) : e.IsLocal := by
  unfold define at h
  cases hr : w.registry.define (w.numbered d) with
  | ok r => simp [hr, bind, Except.bind, pure, Except.pure] at h
  | error e' =>
      simp only [hr, bind, Except.bind, Except.error.injEq] at h
      exact h ▸ Registry.define_error_isLocal hr

theorem redefine_eq_ok {w w' : World} {d : Definition} {replaced : Option Definition} :
    w.redefine d = .ok (w', replaced) ↔
      Registry.checkName d.name = .ok () ∧ replaced = w.registry.lookup? d.name ∧
        w' = w.withDefinition d
          { w.registry with custom := Registry.put (w.numbered d) w.registry.custom } := by
  unfold redefine Registry.redefine
  have name : (w.numbered d).name = d.name := rfl
  rw [name]
  rcases Registry.checkName d.name with e | ⟨⟩
  · simp [bind, Except.bind]
  · simp only [bind, Except.bind, pure, Except.pure, Except.ok.injEq, Prod.mk.injEq, true_and]
    exact ⟨fun ⟨hw, hr⟩ => ⟨hr.symm, hw.symm⟩, fun ⟨hr, hw⟩ => ⟨hw.symm, hr.symm⟩⟩

theorem undefine_eq_ok {w w' : World} {name : String} {removed : Bool} :
    w.undefine name = .ok (w', removed) ↔
      Builtin.ofName? name = none ∧ removed = (w.registry.lookup? name).isSome ∧
        w' =
          (let rest : World := { w with
            registry := { w.registry with
              custom := w.registry.custom.filter (·.name != name) } }
          if (w.registry.lookup? name).isSome then rest.note (.undefined name) else rest) := by
  unfold undefine Registry.undefine
  cases Builtin.ofName? name with
  | some b => simp [bind, Except.bind]
  | none =>
      simp only [Option.isSome_none, Bool.false_eq_true, if_false, bind, Except.bind, pure,
        Except.pure, Except.ok.injEq, Prod.mk.injEq, true_and]
      exact ⟨fun ⟨hw, hr⟩ => ⟨hr.symm, hw.symm⟩, fun ⟨hr, hw⟩ => ⟨hw.symm, hr.symm⟩⟩

theorem undefine_error_isLocal {w : World} {name : String} {e : EvalError}
    (h : w.undefine name = .error e) : e.IsLocal := by
  unfold undefine Registry.undefine at h
  split at h
  · simp only [bind, Except.bind, Except.error.injEq] at h
    exact h ▸ trivial
  · simp [bind, Except.bind, pure, Except.pure] at h

theorem fact_of_define {w w' : World} {d : Definition} (made : w.define d = .ok w') :
    w'.fact = w.fact := by
  obtain ⟨-, -, rfl⟩ := define_eq_ok.1 made
  rfl

theorem fact_of_undefine {w w' : World} {name : String} {removed : Bool}
    (done : w.undefine name = .ok (w', removed)) : w'.fact = w.fact := by
  rw [undefine_apply] at done
  split at done
  · cases done
  · cases done
    exact fact_removing w name

section

variable {w w' : World} {P : Definition → Prop} (all : ∀ e ∈ w.registry.custom, P e)
include all

/-- What holds of all definitions goes on holding if it holds of the new one. -/
theorem forall_adding {d : Definition} (new : P (w.numbered d)) :
    ∀ e ∈ (w.adding d).registry.custom, P e := by
  intro e member
  rcases Registry.mem_put member with rfl | member
  · exact new
  · exact all e member

theorem forall_define {d : Definition} (made : w.define d = .ok w') (new : P (w.numbered d)) :
    ∀ e ∈ w'.registry.custom, P e := by
  obtain ⟨-, -, rfl⟩ := define_eq_ok.1 made
  exact forall_adding all new

theorem forall_redefine {d : Definition} {replaced : Option Definition}
    (made : w.redefine d = .ok (w', replaced)) (new : P (w.numbered d)) :
    ∀ e ∈ w'.registry.custom, P e := by
  obtain ⟨-, -, rfl⟩ := redefine_eq_ok.1 made
  exact forall_adding all new

theorem forall_undefine {name : String} {removed : Bool}
    (done : w.undefine name = .ok (w', removed)) : ∀ e ∈ w'.registry.custom, P e := by
  rw [undefine_apply] at done
  split at done
  · cases done
  · cases done
    rw [registry_removing]
    exact fun e member => all e (List.mem_filter.1 member).1

end

end World

end FactScan
