/-
# FactScan.Proofs.Terms — terms position by position

Terms are trees over lists of operands, and the functions on them recur along both.  Here
they are read off one operand at a time, by its position, and `Term.nested_induction`
proves what holds of a term from its nested terms, `Term.carried_induction` from all terms its
operands hold.
-/
import FactScan.Term.Memory

namespace FactScan

set_option autoImplicit false

/-- Induction along nested terms, terms carried as data aside. -/
theorem Term.nested_induction {P : Term → Prop}
    (step : ∀ op operands, (∀ t, .nested t ∈ operands → P t) → P (.mk op operands)) :
    ∀ t, P t
  | .mk op operands => by
      refine step op operands fun t member => ?_
      have smaller : sizeOf t < 1 + sizeOf op + sizeOf operands := by
        have inside := List.sizeOf_lt_of_mem member
        simp only [Operand.nested.sizeOf_spec] at inside
        omega
      exact Term.nested_induction step t

/-- What holds of nested terms and of every other operand holds of all. -/
theorem Operand.nested_or_flat (o : Operand) : (∃ t, o = .nested t) ∨ ∀ t, o ≠ .nested t := by
  by_cases nested : ∃ t, o = .nested t
  · exact .inl nested
  · exact .inr fun t same => nested ⟨t, same⟩

/-! ## Terms inside terms -/

theorem Operand.mem_listWalk {u : Term} {operands : List Operand} :
    u ∈ Operand.listWalk operands ↔ ∃ t, .nested t ∈ operands ∧ u ∈ t.walk := by
  induction operands with
  | nil => simp [Operand.listWalk]
  | cons o rest ih =>
      rw [Operand.listWalk, List.mem_append, ih]
      cases o <;> simp [Operand.walk, or_and_right, exists_or]

theorem Term.mem_walk {u : Term} {op : Operator} {operands : List Operand} :
    u ∈ (Term.mk op operands).walk ↔
      u = .mk op operands ∨ ∃ t, .nested t ∈ operands ∧ u ∈ t.walk := by
  rw [Term.walk, List.mem_cons, Operand.mem_listWalk]

theorem Term.self_mem_walk (t : Term) : t ∈ t.walk := by
  cases t
  exact Term.mem_walk.2 (.inl rfl)

/-- No operand is a literal that is itself a term. -/
def Term.IsPlain (t : Term) : Prop := ∀ u ∈ t.walk, ∀ c, .literal (.term c) ∉ u.operands

/-- Neither a literal that is a term nor a nested term with such a literal. -/
def Operand.IsPlain : Operand → Prop
  | .nested t => t.IsPlain
  | .literal (.term _) => False
  | _ => True

theorem Term.isPlain_mk {op : Operator} {operands : List Operand} :
    (Term.mk op operands).IsPlain ↔ ∀ o ∈ operands, o.IsPlain := by
  constructor
  · intro plain o member
    unfold Operand.IsPlain
    split
    · rename_i t
      intro u inside
      exact plain u (Term.mem_walk.2 (.inr ⟨t, member, inside⟩))
    · rename_i c
      exact plain _ (Term.self_mem_walk _) c member
    · trivial
  · intro plain u inside
    rcases Term.mem_walk.1 inside with rfl | ⟨t, member, inside⟩
    · intro c member
      exact plain _ member
    · exact plain _ member u inside

/-- A constant is nothing but its scalar. -/
theorem Term.constant?_eq {t : Term} {a : Scalar} (h : t.constant? = some a) :
    t = .constantOf a := by
  unfold Term.constant? at h
  split at h
  · cases h
    rfl
  · cases h

/-- A constant operand is a literal, or a constant. -/
theorem Operand.constant?_cases {o : Operand} {a : Scalar} (h : o.constant? = some a) :
    o = .literal a ∨ o = .nested (.constantOf a) := by
  cases o with
  | literal b =>
      cases h
      exact .inl rfl
  | nested t => exact .inr (congrArg Operand.nested (Term.constant?_eq h))
  | field name => cases h
  | placeholder n => cases h

/-! ## Terms carried as data -/

theorem Operand.carried?_cases {o : Operand} {t : Term} (h : o.carried? = some t) :
    o = .nested t ∨ o = .literal (.term t) := by
  unfold Operand.carried? at h
  split at h
  · cases h
    exact .inl rfl
  · cases h
    exact .inr rfl
  · cases h

mutual

/-- A term and all terms inside it, nested or carried as data, in reading order. -/
def Term.walkAll : Term → List Term
  | .mk op operands => .mk op operands :: Operand.listWalkAll operands

def Operand.walkAll : Operand → List Term
  | .nested t => t.walkAll
  | .literal (.term t) => t.walkAll
  | _ => []

def Operand.listWalkAll : List Operand → List Term
  | [] => []
  | o :: rest => o.walkAll ++ Operand.listWalkAll rest

end

/-- Induction along the terms that operands hold, nested or carried as data. -/
theorem Term.carried_induction {P : Term → Prop}
    (step : ∀ op operands, (∀ o ∈ operands, ∀ t, o.carried? = some t → P t) →
      P (.mk op operands)) : ∀ t, P t
  | .mk op operands => by
      refine step op operands fun o member t carried => ?_
      have smaller : sizeOf t < 1 + sizeOf op + sizeOf operands := by
        have inside := List.sizeOf_lt_of_mem member
        rcases Operand.carried?_cases carried with rfl | rfl
        · simp only [Operand.nested.sizeOf_spec] at inside
          omega
        · simp only [Operand.literal.sizeOf_spec, Scalar.term.sizeOf_spec] at inside
          omega
      exact Term.carried_induction step t

theorem Operand.mem_walkAll {u : Term} {o : Operand} :
    u ∈ o.walkAll ↔ ∃ t, o.carried? = some t ∧ u ∈ t.walkAll := by
  unfold Operand.walkAll Operand.carried?
  split <;> simp

theorem Operand.mem_listWalkAll {u : Term} {operands : List Operand} :
    u ∈ Operand.listWalkAll operands ↔ ∃ o ∈ operands, u ∈ o.walkAll := by
  induction operands with
  | nil => simp [Operand.listWalkAll]
  | cons o rest ih => simp [Operand.listWalkAll, ih]

theorem Term.mem_walkAll {u : Term} {op : Operator} {operands : List Operand} :
    u ∈ (Term.mk op operands).walkAll ↔
      u = .mk op operands ∨ ∃ o ∈ operands, ∃ t, o.carried? = some t ∧ u ∈ t.walkAll := by
  rw [Term.walkAll, List.mem_cons, Operand.mem_listWalkAll]
  simp only [Operand.mem_walkAll]

theorem Term.self_mem_walkAll (t : Term) : t ∈ t.walkAll := by
  cases t
  exact Term.mem_walkAll.2 (.inl rfl)

theorem Term.forall_walkAll_mk {P : Term → Prop} {op : Operator} {operands : List Operand} :
    (∀ u ∈ (Term.mk op operands).walkAll, P u) ↔
      P (.mk op operands) ∧
        ∀ o ∈ operands, ∀ t, o.carried? = some t → ∀ u ∈ t.walkAll, P u := by
  constructor
  · intro all
    refine ⟨all _ (Term.self_mem_walkAll _), fun o member t carried u inside => ?_⟩
    exact all u (Term.mem_walkAll.2 (.inr ⟨o, member, t, carried, inside⟩))
  · rintro ⟨own, below⟩ u inside
    rcases Term.mem_walkAll.1 inside with rfl | ⟨o, member, t, carried, inside⟩
    · exact own
    · exact below o member t carried u inside

/-- Something holds of the operators of a term and all terms inside it. -/
def Term.Throughout (P : Operator → Prop) (t : Term) : Prop := ∀ u ∈ t.walkAll, P u.operator

theorem Term.throughout_mk {P : Operator → Prop} {op : Operator} {operands : List Operand} :
    (Term.mk op operands).Throughout P ↔
      P op ∧ ∀ o ∈ operands, ∀ t, o.carried? = some t → t.Throughout P :=
  Term.forall_walkAll_mk

theorem Term.Throughout.operator {P : Operator → Prop} {t : Term} (all : t.Throughout P) :
    P t.operator := all t (Term.self_mem_walkAll t)

theorem Term.Throughout.carried {P : Operator → Prop} {t c : Term} (all : t.Throughout P)
    {p : Nat} (at_ : (t.operand? p).bind Operand.carried? = some c) : c.Throughout P := by
  obtain ⟨o, found, carried⟩ := Option.bind_eq_some_iff.1 at_
  cases t
  exact (Term.throughout_mk.1 all).2 o (List.mem_of_getElem? found) c carried

/-! ## Memories -/

@[simp] theorem Memory.child_blank (p : Nat) : blank.child p = blank := by
  simp [child, blank, children]

/-- The memories of all operands after one was replaced. -/
theorem Memory.child_setChild (m k : Memory) (p q : Nat) :
    (m.setChild p k).child q = if q = p then k else m.child q := by
  split
  · rename_i same
    subst same
    exact Memory.child_setChild_self m q k
  · rename_i different
    exact Memory.child_setChild_ne m (Ne.symm different) k

theorem Operand.getD_listFreshMemory (operands : List Operand) (ms : List Memory) (p : Nat) :
    (Operand.listFreshMemory operands ms).getD p .blank =
      (operands[p]?.map fun o => o.freshMemory (ms.getD p .blank)).getD .blank := by
  induction operands generalizing ms p with
  | nil => rfl
  | cons o rest ih =>
      cases p with
      | zero => cases ms <;> rfl
      | succ p =>
          have step := ih ms.tail p
          cases ms <;> exact step

theorem Term.child_freshMemory (op : Operator) (operands : List Operand) (m : Memory) (p : Nat) :
    ((Term.mk op operands).freshMemory m).child p =
      (operands[p]?.map fun o => o.freshMemory (m.child p)).getD .blank :=
  Operand.getD_listFreshMemory operands m.children p

theorem Operand.getD_listInstantiateMemory (args : List Operand) (given : List Memory)
    (operands : List Operand) (ms : List Memory) (p : Nat) :
    (Operand.listInstantiateMemory args given operands ms).getD p .blank =
      (operands[p]?.map fun o => o.instantiateMemory args given (ms.getD p .blank)).getD
        .blank := by
  induction operands generalizing ms p with
  | nil => rfl
  | cons o rest ih =>
      cases p with
      | zero => cases ms <;> rfl
      | succ p =>
          have step := ih ms.tail p
          cases ms <;> exact step

theorem Term.child_instantiateMemory (args : List Operand) (given : List Memory)
    (op : Operator) (operands : List Operand) (m : Memory) (p : Nat) :
    ((Term.mk op operands).instantiateMemory args given m).child p =
      (operands[p]?.map fun o => o.instantiateMemory args given (m.child p)).getD .blank :=
  Operand.getD_listInstantiateMemory args given operands m.children p

theorem Operand.listInstantiate_eq_map (args operands : List Operand) :
    Operand.listInstantiate args operands = operands.map (Operand.instantiate args) := by
  induction operands with
  | nil => rfl
  | cons o rest ih => rw [Operand.listInstantiate, ih, List.map_cons]

/-- The term that an operand holds after filling in is its own, filled in if it is nested, or
that of the operand given for a placeholder. -/
theorem Operand.carried?_instantiate {args : List Operand} {o : Operand} {c : Term}
    (carried : (o.instantiate args).carried? = some c) :
    (∃ t, o = .nested t ∧ t.instantiate args = c) ∨ o = .literal (.term c) ∨
      ∃ i arg, o = .placeholder i ∧ args[i.toNat]? = some arg ∧ arg.carried? = some c := by
  cases o with
  | nested t =>
      cases carried
      exact .inl ⟨t, rfl, rfl⟩
  | literal s =>
      have unchanged : (Operand.literal s).instantiate args = .literal s := by
        cases s <;> rfl
      rw [unchanged] at carried
      rcases Operand.carried?_cases carried with is | is
      · cases is
      · exact .inr (.inl is)
  | field name => cases carried
  | placeholder i =>
      unfold Operand.instantiate at carried
      cases given : args[i.toNat]? with
      | none =>
          rw [given] at carried
          cases carried
      | some arg =>
          rw [given] at carried
          exact .inr (.inr ⟨i, arg, rfl, given, carried⟩)

/-- What holds throughout a body and the operands filled in holds throughout the outcome. -/
theorem Term.Throughout.instantiate {P : Operator → Prop} {args : List Operand}
    (given : ∀ o ∈ args, ∀ c, o.carried? = some c → c.Throughout P) {t : Term}
    (all : t.Throughout P) : (t.instantiate args).Throughout P := by
  induction t using Term.nested_induction with
  | step op operands ih =>
      obtain ⟨own, below⟩ := Term.throughout_mk.1 all
      rw [Term.instantiate, Operand.listInstantiate_eq_map]
      refine Term.throughout_mk.2 ⟨own, fun o member c carried => ?_⟩
      obtain ⟨o, inside, rfl⟩ := List.mem_map.1 member
      rcases Operand.carried?_instantiate carried with
        ⟨t, rfl, rfl⟩ | rfl | ⟨i, arg, rfl, found, carried⟩
      · exact ih t inside (below _ inside t rfl)
      · exact below _ inside c rfl
      · exact given arg (List.mem_of_getElem? found) c carried

theorem Operand.listFreshMemory_congr {operands : List Operand}
    (same : ∀ o ∈ operands, ∀ m m', o.freshMemory m = o.freshMemory m') (ms ms' : List Memory) :
    Operand.listFreshMemory operands ms = Operand.listFreshMemory operands ms' := by
  induction operands generalizing ms ms' with
  | nil => rfl
  | cons o rest ih =>
      rw [Operand.listFreshMemory, Operand.listFreshMemory, same o List.mem_cons_self,
        ih fun o member => same o (List.mem_cons_of_mem _ member)]

/-- A fresh copy of a plain term depends on nothing the original remembers. -/
theorem Term.freshMemory_of_isPlain {t : Term} (plain : t.IsPlain) (m m' : Memory) :
    t.freshMemory m = t.freshMemory m' := by
  induction t using Term.nested_induction generalizing m m' with
  | step op operands ih =>
      have same : ∀ o ∈ operands, ∀ m m' : Memory, o.freshMemory m = o.freshMemory m' := by
        intro o member m m'
        have plainOperand := Term.isPlain_mk.1 plain o member
        match o with
        | .nested t => exact ih t member plainOperand m m'
        | .literal (.term c) => exact plainOperand.elim
        | .literal (.integer _) | .literal (.float _) | .literal (.string _)
        | .literal (.boolean _) | .literal (.timestamp _) | .literal (.regex _) | .field _
        | .placeholder _ => rfl
      exact congrArg (Memory.mk none) (Operand.listFreshMemory_congr same _ _)

end FactScan
