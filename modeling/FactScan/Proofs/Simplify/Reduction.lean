/-
# FactScan.Proofs.Simplify.Reduction — simplification adds nothing

No rule copies an operand or moves one before another: a term keeps its operator and loses
operands, or makes way for a constant.  So the terms in a simplified term stand for some of
those in the original, in the same order and at the same depths (`Term.standsFor_simplifyAt`),
and what is written at its operands is some of what was written there, constants aside that were
worked out on the way (`Term.collect_simplifyAt`).  A term that is kept as it is, for it is a
definition or lies too deep, stands for itself.

* `Instance.simplify_adds_nothing`: the whole, for engines whose hooks have no say in it.
-/
import Mathlib.Data.List.Flatten
import Mathlib.Data.List.Forall2
import FactScan.Proofs.Reading.Spelling
import FactScan.Proofs.Simplify.Outcome

namespace FactScan

set_option autoImplicit false

/-! ## Lists that stand for some of another -/

section

open List (SublistForall₂ Forall₂)

variable {α β γ δ : Type} {R : α → β → Prop} {S : γ → δ → Prop} {l₁ m₁ : List α} {l₂ m₂ : List β}

theorem sublistForall₂_append (first : SublistForall₂ R l₁ l₂) (second : SublistForall₂ R m₁ m₂) :
    SublistForall₂ R (l₁ ++ m₁) (l₂ ++ m₂) := by
  obtain ⟨l, related, sub⟩ := List.sublistForall₂_iff.1 first
  obtain ⟨m, related', sub'⟩ := List.sublistForall₂_iff.1 second
  exact List.sublistForall₂_iff.2 ⟨l ++ m, List.rel_append related related', sub.append sub'⟩

theorem sublistForall₂_flatMap {f : α → List γ} {g : β → List δ}
    (each : ∀ a b, R a b → SublistForall₂ S (f a) (g b)) (all : SublistForall₂ R l₁ l₂) :
    SublistForall₂ S (l₁.flatMap f) (l₂.flatMap g) := by
  induction all with
  | nil => exact .nil
  | cons related _ ih => exact sublistForall₂_append (each _ _ related) ih
  | cons_right _ ih => exact sublistForall₂_append .nil ih

theorem sublistForall₂_eq_iff {l l' : List α} :
    SublistForall₂ (fun a b => a = b) l l' ↔ l.Sublist l' := by
  rw [List.sublistForall₂_iff, List.forall₂_eq_eq_eq]
  simp

theorem sublist_flatMap {f : α → List γ} {g : β → List γ}
    (each : ∀ a b, R a b → (f a).Sublist (g b)) (all : SublistForall₂ R l₁ l₂) :
    (l₁.flatMap f).Sublist (l₂.flatMap g) :=
  sublistForall₂_eq_iff.1
    (sublistForall₂_flatMap (fun a b related => sublistForall₂_eq_iff.2 (each a b related)) all)

/-- What is picked out of the one list is picked out of the other. -/
theorem sublist_filterMap {f : α → Option γ} {g : β → Option γ}
    (each : ∀ a b, R a b → f a = none ∨ f a = g b) (all : SublistForall₂ R l₁ l₂) :
    (l₁.filterMap f).Sublist (l₂.filterMap g) := by
  rw [List.filterMap_eq_flatMap_toList, List.filterMap_eq_flatMap_toList]
  refine sublist_flatMap (fun a b related => ?_) all
  rcases each a b related with nothing | same
  · rw [nothing]
    exact List.nil_sublist _
  · rw [same]

theorem total_le_of_sublistForall₂ {f : α → Nat} {g : β → Nat} (each : ∀ a b, R a b → f a ≤ g b)
    (all : SublistForall₂ R l₁ l₂) :
    l₁.foldr (fun a n => f a + n) 0 ≤ l₂.foldr (fun b n => g b + n) 0 := by
  induction all with
  | nil => exact Nat.zero_le _
  | cons related _ ih => exact Nat.add_le_add (each _ _ related) ih
  | cons_right _ ih => exact Nat.le_trans ih (Nat.le_add_left _ _)

theorem length_le_of_sublistForall₂ (all : SublistForall₂ R l₁ l₂) : l₁.length ≤ l₂.length := by
  obtain ⟨l, related, sub⟩ := List.sublistForall₂_iff.1 all
  exact related.length_eq ▸ sub.length_le

theorem sublistForall₂_of_sublist {l : List β} (sub : l₁.Sublist m₁)
    (related : Forall₂ (fun b a => R a b) l m₁) : SublistForall₂ R l₁ l := by
  induction sub generalizing l with
  | slnil => exact .nil
  | cons a _ ih =>
      cases related with
      | cons _ others => exact .cons_right (ih others)
  | cons_cons a _ ih =>
      cases related with
      | cons first others => exact .cons first (ih others)

end

/-! ## What there is in a term -/

/-- The name of a custom operator. -/
def Operator.custom? : Operator → Option String
  | .builtin _ => none
  | .custom name => some name

/-- A built-in operator that is stateful or has side effects. -/
def Operator.active? (op : Operator) : Option Builtin :=
  op.builtin?.filter fun b => b.isStateful || b.hasSideEffects

namespace Operand

def field? : Operand → Option String
  | .field name => some name
  | _ => none

def index? : Operand → Option UInt64
  | .placeholder i => some i
  | _ => none

/-- The term that an operand carries as data. -/
def data? : Operand → Option Term
  | .literal (.term t) => some t
  | _ => none

end Operand

mutual

/-- A term and the terms nested in it, in reading order, each with its depth, where the term itself
is at `depth`. -/
def Term.walkAt (depth : Nat) : Term → List (Nat × Term)
  | .mk op operands => (depth, .mk op operands) :: Operand.listWalkAt (depth + 1) operands

def Operand.walkAt (depth : Nat) : Operand → List (Nat × Term)
  | .nested t => t.walkAt depth
  | _ => []

def Operand.listWalkAt (depth : Nat) : List Operand → List (Nat × Term)
  | [] => []
  | o :: rest => o.walkAt depth ++ Operand.listWalkAt depth rest

end

namespace Term

/-- The terms in a term and their operands, counted. -/
def nodes (t : Term) : Nat := t.walk.foldr (fun u n => 1 + u.arity + n) 0

/-- What is picked out of the operators of a term and the terms nested in it, in reading order. -/
def operators {β : Type} (f : Operator → Option β) (t : Term) : List β :=
  t.walk.filterMap fun u => f u.operator

/-- What is picked out of the operands of a term and the terms nested in it. -/
def collect {β : Type} (f : Operand → Option β) (t : Term) : List β :=
  t.walk.flatMap fun u => u.operands.filterMap f

/-- The terms in a term that simplification passes over: with their depths, definitions and what
is nested deeper than the settings allow. -/
def exempt (settings : Settings) (t : Term) : List (Nat × Term) :=
  (t.walkAt 0).filter fun p => settings.maxDepth < p.1 || p.2.operator == .builtin .define

end Term

theorem Operand.listWalkAt_eq_flatMap (depth : Nat) (operands : List Operand) :
    Operand.listWalkAt depth operands = operands.flatMap (Operand.walkAt depth) := by
  induction operands with
  | nil => rfl
  | cons o rest ih => rw [Operand.listWalkAt, ih, List.flatMap_cons]

theorem Operand.listWalk_eq_flatMap (operands : List Operand) :
    Operand.listWalk operands = operands.flatMap Operand.walk := by
  induction operands with
  | nil => rfl
  | cons o rest ih => rw [Operand.listWalk, ih, List.flatMap_cons]

theorem Term.map_walkAt (t : Term) (depth : Nat) : (t.walkAt depth).map (·.2) = t.walk := by
  induction t using Term.nested_induction generalizing depth with
  | step op operands ih =>
      rw [walkAt, walk, Operand.listWalkAt_eq_flatMap, Operand.listWalk_eq_flatMap, List.map_cons,
        List.map_flatMap]
      refine congrArg _ (List.flatMap_congr fun o member => ?_)
      cases o with
      | nested t => exact ih t member (depth + 1)
      | _ => rfl

theorem Term.collect_mk {β : Type} (f : Operand → Option β) (op : Operator)
    (operands : List Operand) :
    (mk op operands).collect f = operands.filterMap f ++
      operands.flatMap fun o => o.walk.flatMap fun u => u.operands.filterMap f := by
  rw [collect, walk, Operand.listWalk_eq_flatMap, List.flatMap_cons, List.flatMap_assoc]
  rfl

theorem Term.collect_constantOf {β : Type} (f : Operand → Option β) (a : Scalar) :
    (constantOf a).collect f = [Operand.literal a].filterMap f := by
  have none_ : (Operand.literal a).walk = [] := by cases a <;> rfl
  rw [constantOf, collect_mk, List.flatMap_singleton, none_, List.flatMap_nil, List.append_nil]

/-! ## What is left of it -/

section

open List (SublistForall₂)

variable (settings : Settings) {registry : Registry}

/-- How a term at a depth, in what simplification leaves, stands for one at that depth in what was
simplified. -/
inductive Term.StandsFor : Nat × Term → Nat × Term → Prop
  | self (p : Nat × Term) : StandsFor p p
  | fewer {depth : Nat} {op : Operator} {left operands : List Operand} :
      Simplify.isKept settings depth op = false → left.length ≤ operands.length →
      StandsFor (depth, .mk op left) (depth, .mk op operands)
  | constant {depth : Nat} {op : Operator} {operands : List Operand} {a : Scalar} :
      Simplify.isKept settings depth op = false → operands ≠ [] →
      StandsFor (depth, .constantOf a) (depth, .mk op operands)

variable {settings}

/-- What a rule keeps of simplified operands are some of the original ones, in order, but for
nested terms, which were simplified. -/
theorem Simplify.left_nesting {P : Term → Term → Prop} {operands : List Operand}
    {parts kept : List Part} (sub : kept.Sublist parts)
    (below : List.Forall₂ (fun o part => o.Nesting P part.operand) operands parts) :
    SublistForall₂ (fun o' o => Operand.Nesting P o o') (kept.map (·.operand)) operands :=
  List.sublistForall₂_map_left_iff.2
    (sublistForall₂_of_sublist (R := fun (part : Part) o => Operand.Nesting P o part.operand)
      sub below)

/-- **Terms in a simplified term stand for terms in the original**, in order and each for its
own, at the same depth. -/
theorem Term.standsFor_simplifyAt (hookless : ∀ d ∈ registry.custom, d.hook = none) (t : Term)
    (depth : Nat) (m : Memory) :
    SublistForall₂ (StandsFor settings)
      ((t.simplifyAt settings registry depth m).term.walkAt depth) (t.walkAt depth) := by
  refine Term.simplifyAt_rec settings registry
    (P := fun depth t t' => SublistForall₂ (StandsFor settings) (t'.walkAt depth) (t.walkAt depth))
    (fun depth op operands _ => List.sublistForall₂_iff.2
      ⟨_, List.forall₂_same.2 fun p _ => .self p, .refl _⟩) ?_ t depth m
  intro depth op operands parts i simplified below outcome
  cases outcome with
  | @constant a some_ _ =>
      have nonempty : operands ≠ [] := by
        rintro rfl
        cases below
        exact some_ rfl
      exact .cons (.constant simplified nonempty) .nil
  | kept sub _ =>
      have left := Simplify.left_nesting sub below
      refine .cons (.fewer simplified (length_le_of_sublistForall₂ left)) ?_
      rw [Operand.listWalkAt_eq_flatMap, Operand.listWalkAt_eq_flatMap]
      refine sublistForall₂_flatMap (fun o' o nesting => ?_) left
      cases nesting with
      | nested passes => exact passes
      | flat flat =>
          have nothing : o'.walkAt (depth + 1) = [] := by
            rw [Operand.walkAt]
            exact flat
          rw [nothing]
          exact .nil
  | hooked member hooked _ => exact absurd hooked (Simplify.not_hooked hookless member _)

/-- **What is written at the operands of a simplified term was written in the original**, in that
order and at least as often, but for constants that were made. -/
theorem Term.collect_simplifyAt {β : Type} {f : Operand → Option β}
    (nested : ∀ t, f (.nested t) = none) (made : ∀ a, a.isMade = true → f (.literal a) = none)
    (hookless : ∀ d ∈ registry.custom, d.hook = none) (t : Term) (depth : Nat) (m : Memory) :
    ((t.simplifyAt settings registry depth m).term.collect f).Sublist (t.collect f) := by
  refine Term.simplifyAt_rec settings registry
    (P := fun _ t t' => (t'.collect f).Sublist (t.collect f))
    (fun _ _ _ _ => .refl _) ?_ t depth m
  intro depth op operands parts i _ below outcome
  cases outcome with
  | @constant a _ origin =>
      rw [Simplify.constant, collect_mk]
      rcases origin with isMade | ⟨part, within, known⟩
      · rw [collect_constantOf, List.filterMap_cons_none (made a isMade)]
        exact List.nil_sublist _
      · -- The constant is that of an operand, which is written there or left of a nested term.
        obtain ⟨o, inside, nesting⟩ := Operand.exists_nesting below within
        have single : [o].Sublist operands := List.singleton_sublist.2 inside
        rcases Operand.constant?_cases known with isLiteral | isNested
        · rw [isLiteral] at nesting
          cases nesting
          rw [collect_constantOf]
          exact (single.filterMap f).trans (List.sublist_append_left _ _)
        · rw [isNested] at nesting
          cases nesting with
          | nested passes =>
              have held := single.flatMap fun o =>
                o.walk.flatMap fun u => u.operands.filterMap f
              rw [List.flatMap_singleton] at held
              exact passes.trans (held.trans (List.sublist_append_right _ _))
          | flat flat => exact absurd rfl (flat _)
  | kept sub _ =>
      have left := Simplify.left_nesting sub below
      show ((mk op _).collect f).Sublist _
      rw [collect_mk, collect_mk]
      refine (sublist_filterMap (fun o' o nesting => ?_) left).append
        (sublist_flatMap (fun o' o nesting => ?_) left)
      · cases nesting with
        | nested _ => exact .inl (nested _)
        | flat _ => exact .inr rfl
      · cases nesting with
        | nested passes => exact passes
        | flat _ => exact .refl _
  | hooked member hooked _ => exact absurd hooked (Simplify.not_hooked hookless member _)

theorem Term.depth_simplifyAt_le (hookless : ∀ d ∈ registry.custom, d.hook = none) (t : Term)
    (depth : Nat) (m : Memory) :
    (t.simplifyAt settings registry depth m).term.depth ≤ t.depth := by
  refine Term.simplifyAt_rec settings registry (P := fun _ t t' => t'.depth ≤ t.depth)
    (fun _ _ _ _ => Nat.le_refl _) ?_ t depth m
  intro depth op operands parts i _ below outcome
  cases outcome with
  | constant _ _ => exact Nat.le_add_left 1 _
  | kept sub _ =>
      refine Nat.add_le_add_right (Operand.listDepth_le fun o' member => ?_) 1
      obtain ⟨part, within, rfl⟩ := List.mem_map.1 member
      obtain ⟨o, inside, nesting⟩ := Operand.exists_nesting below (sub.subset within)
      generalize part.operand = o' at nesting
      refine Nat.le_trans ?_ (Operand.depth_le_listDepth inside)
      cases nesting with
      | nested less => exact less
      | flat _ => exact Nat.le_refl _
  | hooked member hooked _ => exact absurd hooked (Simplify.not_hooked hookless member _)

theorem Term.nodes_simplifyAt_le (hookless : ∀ d ∈ registry.custom, d.hook = none) (t : Term)
    (depth : Nat) (m : Memory) :
    (t.simplifyAt settings registry depth m).term.nodes ≤ t.nodes := by
  have stand := @standsFor_simplifyAt settings registry hookless t depth m
  unfold nodes
  rw [← map_walkAt _ depth, ← map_walkAt t depth, List.foldr_map, List.foldr_map]
  refine total_le_of_sublistForall₂ (fun p' p standsFor => ?_) stand
  cases standsFor with
  | self => exact Nat.le_refl _
  | fewer _ fewer => exact Nat.add_le_add_left fewer 1
  | constant _ nonempty => exact Nat.add_le_add_left (List.length_pos_iff.2 nonempty) 1

/-- Operators that are no `const` are those of the original, in that order and as often. -/
theorem Term.operators_simplifyAt {β : Type} {f : Operator → Option β}
    (const : f (.builtin .const) = none) (hookless : ∀ d ∈ registry.custom, d.hook = none)
    (t : Term) (depth : Nat) (m : Memory) :
    ((t.simplifyAt settings registry depth m).term.operators f).Sublist (t.operators f) := by
  have stand := @standsFor_simplifyAt settings registry hookless t depth m
  unfold operators
  rw [← map_walkAt _ depth, ← map_walkAt t depth, List.filterMap_map, List.filterMap_map]
  refine sublist_filterMap (fun p' p standsFor => ?_) stand
  cases standsFor with
  | self => exact .inr rfl
  | fewer _ _ => exact .inr rfl
  | constant _ _ => exact .inl const

/-- What is exempt stands for itself, and comes from nothing that was not exempt. -/
theorem Term.exempt_simplify (hookless : ∀ d ∈ registry.custom, d.hook = none) (t : Term)
    (m : Memory) :
    ((t.simplifyAt settings registry 0 m).term.exempt settings).Sublist (t.exempt settings) := by
  have stand := @standsFor_simplifyAt settings registry hookless t 0 m
  unfold exempt
  rw [← List.filterMap_eq_filter]
  refine sublist_filterMap (fun p' p standsFor => ?_) stand
  cases standsFor with
  | self => exact .inr rfl
  | fewer simplified _ => exact .inl (if_neg (ne_true_of_eq_false simplified))
  | constant simplified _ =>
      obtain ⟨shallow, -⟩ := Bool.or_eq_false_iff.1 simplified
      exact .inl (if_neg (ne_true_of_eq_false (Bool.or_eq_false_iff.2 ⟨shallow, rfl⟩)))

end

/-- **Simplification adds nothing.**  For all settings, in every registry without hooks, whatever it
hosts and defines, and for every term: a simplified term has no more terms and operands than the
original, and they are nested no deeper.  The fields, placeholders and custom operators in it
are those of the original, and so are the terms that it carries as data, with all that is in
them: in the same order, and none of them more often.  So are the built-in operators that are
stateful or have side effects, of which a second or an earlier one would be felt.  And what
is left of the definitions, and of the terms nested too deep, is what it was, at the same depth
and in the same order. -/
theorem Instance.simplify_adds_nothing (settings : Settings) (registry : Registry)
    (hookless : ∀ d ∈ registry.custom, d.hook = none) (i : Instance) :
    let simplified := (i.simplify settings registry).term
    simplified.nodes ≤ i.term.nodes ∧ simplified.depth ≤ i.term.depth ∧
    (simplified.collect Operand.field?).Sublist (i.term.collect Operand.field?) ∧
    (simplified.collect Operand.index?).Sublist (i.term.collect Operand.index?) ∧
    (simplified.operators Operator.custom?).Sublist (i.term.operators Operator.custom?) ∧
    (simplified.collect Operand.data?).Sublist (i.term.collect Operand.data?) ∧
    (simplified.operators Operator.active?).Sublist (i.term.operators Operator.active?) ∧
    (simplified.exempt settings).Sublist (i.term.exempt settings) := by
  intro simplified
  have noData : ∀ a : Scalar, a.isMade = true → (Operand.literal a).data? = none := by
    intro a isMade
    cases a with
    | term t => cases isMade
    | _ => rfl
  exact ⟨i.term.nodes_simplifyAt_le hookless 0 i.memory,
    i.term.depth_simplifyAt_le hookless 0 i.memory,
    i.term.collect_simplifyAt (fun _ => rfl) (fun _ _ => rfl) hookless 0 i.memory,
    i.term.collect_simplifyAt (fun _ => rfl) (fun _ _ => rfl) hookless 0 i.memory,
    i.term.operators_simplifyAt rfl hookless 0 i.memory,
    i.term.collect_simplifyAt (fun _ => rfl) noData hookless 0 i.memory,
    i.term.operators_simplifyAt rfl hookless 0 i.memory,
    i.term.exempt_simplify hookless i.memory⟩

/-- Where terms are evaluated no deeper than one level,
`(and (unique a) (either 7 b) (foo $0 (lt 2 1)) (defn foo (not true)) (lt 2 1) (as c 1))`
becomes `(and (unique a) (foo $0 (lt 2 1)) (defn foo (not true)) (const false))`. -/
theorem Instance.simplify_adds_nothing_shallow :
    let settings : Settings := { maxDepth := 1 }
    let registry : Registry := { Registry.standard with
      custom := [.ofNative "foo" (.exactly 2) fun _ _ _ => .ok .nil] }
    let false_ : Term := .mk (.builtin (.compare .lt))
      [.literal (.integer 2), .literal (.integer 1)]
    let unique : Term := .mk (.builtin .unique) [.field "a"]
    let call : Term := .mk (.custom "foo") [.placeholder 0, .nested false_]
    let definition : Term := .mk (.builtin .define)
      [.field "foo", .nested (.mk (.builtin .not) [.literal (.boolean true)])]
    let i : Instance := ⟨.mk (.builtin .and) [.nested unique,
      .nested (.mk (.builtin .either) [.literal (.integer 7), .field "b"]), .nested call,
      .nested definition, .nested false_,
      .nested (.mk (.builtin .assign) [.field "c", .literal (.integer 1)])], .blank⟩
    let simplified := (i.simplify settings registry).term
    (∀ d ∈ registry.custom, d.hook = none) ∧
    simplified = .mk (.builtin .and) [.nested unique, .nested call, .nested definition,
      .nested (.constantOf (.boolean false))] ∧
    simplified.nodes ≤ i.term.nodes ∧ simplified.depth ≤ i.term.depth ∧
    (simplified.collect Operand.field?).Sublist (i.term.collect Operand.field?) ∧
    (simplified.collect Operand.index?).Sublist (i.term.collect Operand.index?) ∧
    (simplified.operators Operator.custom?).Sublist (i.term.operators Operator.custom?) ∧
    (simplified.collect Operand.data?).Sublist (i.term.collect Operand.data?) ∧
    (simplified.operators Operator.active?).Sublist (i.term.operators Operator.active?) ∧
    (simplified.exempt settings).Sublist (i.term.exempt settings) := by
  intro settings registry false_ unique call definition i simplified
  have hookless : ∀ d ∈ registry.custom, d.hook = none := by
    intro d member
    rw [List.mem_singleton.1 member]
    rfl
  exact ⟨hookless, rfl, Instance.simplify_adds_nothing settings registry hookless i⟩

end FactScan
