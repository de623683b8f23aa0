/-
# FactScan.Proofs.Composition — filling in twice is filling in once

A body whose call stands inside another body is filled in twice, first with the operands of the
call and then with those of the outer one.  As long as the call has an operand for each
placeholder of the body, every placeholder that is left came with an operand, and so the second
filling in could as well be done on the operands first.  A placeholder that the call left in its
place would be filled by the second list, and not by its own.

Copies forget what nested terms remember and keep what terms carried as data do, in either order
(`Operand.instantiateMemory_freshMemory`), so the equation is one of bodies with all that they
remember.
-/
import FactScan.Proofs.Placeholders

namespace FactScan

set_option autoImplicit false

/-! ## Placeholders that are left -/

/-- The greatest of several lists of indices is the greatest of their greatest. -/
theorem IsHighest.flatMap {α : Type} {items : List α} {indices : α → List UInt64}
    {greatest : α → Option UInt64} (each : ∀ a ∈ items, IsHighest (indices a) (greatest a))
    {n : Option UInt64} (highest : IsHighest (items.flatMap indices) n) :
    IsHighest (items.flatMap fun a => (greatest a).toList) n := by
  cases n with
  | none =>
      have empty : items.flatMap indices = [] := highest
      refine List.flatMap_eq_nil_iff.2 fun a member => ?_
      rw [(each a member).eq_none_iff.2 (List.flatMap_eq_nil_iff.1 empty a member)]
      rfl
  | some n =>
      obtain ⟨member, above⟩ := highest
      obtain ⟨a, own, inside⟩ := List.mem_flatMap.1 member
      have among {a : α} (own : a ∈ items) {m : UInt64} (found : greatest a = some m) : m ≤ n := by
        have most := each a own
        rw [found] at most
        exact above m (List.mem_flatMap.2 ⟨a, own, most.1⟩)
      constructor
      · have most := each a own
        cases found : greatest a with
        | none =>
            rw [most.eq_none_iff.1 found] at inside
            cases inside
        | some m =>
            rw [found] at most
            obtain rfl : m = n := UInt64.le_antisymm (among own found) (most.2 n inside)
            exact List.mem_flatMap.2 ⟨a, own, by rw [found]; exact List.mem_singleton_self m⟩
      · intro i left
        obtain ⟨b, own', held⟩ := List.mem_flatMap.1 left
        exact among own' (Option.mem_toList.1 held)

section

variable {args args' : List Operand}

/-- With an operand for each placeholder, the highest that is left is the highest of the operands
that are used. -/
theorem Term.maxPlaceholder_instantiate {t : Term}
    (covered : ∀ i ∈ t.placeholders, i.toNat < args.length) :
    IsHighest (t.placeholders.flatMap fun i =>
        (args[i.toNat]?.bind Operand.maxPlaceholder).toList)
      (t.instantiate args).maxPlaceholder := by
  have highest := (t.instantiate args).maxPlaceholder_isHighest
  rw [Term.placeholders_instantiate] at highest
  refine highest.flatMap fun i own => ?_
  rw [List.getElem?_eq_getElem (covered i own)]
  exact Operand.maxPlaceholder_isHighest _

/-! ## Terms -/

/-- A placeholder that has an operand is filled in as that operand is. -/
theorem Operand.instantiate_covered {o : Operand}
    (covered : ∀ i ∈ o.placeholders, i.toNat < args.length)
    (nested : ∀ t, o = .nested t →
      (t.instantiate args).instantiate args' = t.instantiate (args.map (instantiate args'))) :
    (o.instantiate args).instantiate args' = o.instantiate (args.map (instantiate args')) := by
  cases o with
  | literal s => rfl
  | field name => rfl
  | nested t => exact congrArg Operand.nested (nested t rfl)
  | placeholder i =>
      have given := List.getElem?_eq_getElem (covered i (List.mem_singleton_self i))
      rw [Operand.instantiate, Operand.instantiate, List.getElem?_map, given]
      rfl

theorem Operand.covered_of_mk {op : Operator} {operands : List Operand}
    (covered : ∀ i ∈ (Term.mk op operands).placeholders, i.toNat < args.length) :
    ∀ o ∈ operands, ∀ i ∈ o.placeholders, i.toNat < args.length := by
  intro o member i own
  rw [Term.placeholders_mk] at covered
  exact covered i (List.mem_flatMap.2 ⟨o, member, own⟩)

theorem Term.instantiate_covered {t : Term}
    (covered : ∀ i ∈ t.placeholders, i.toNat < args.length) :
    (t.instantiate args).instantiate args' =
      t.instantiate (args.map (Operand.instantiate args')) := by
  induction t using Term.nested_induction with
  | step op operands ih =>
      have inside := Operand.covered_of_mk covered
      simp only [Term.instantiate, Operand.listInstantiate_eq_map, List.map_map]
      refine congrArg (Term.mk op) (List.map_congr_left fun o member => ?_)
      refine Operand.instantiate_covered (inside o member) fun t same => ?_
      subst same
      exact ih t member (inside _ member)

end

/-! ## Memories -/

theorem Operand.listFreshMemory_listFreshMemory {operands : List Operand}
    (each : ∀ o ∈ operands, ∀ m, o.freshMemory (o.freshMemory m) = o.freshMemory m)
    (ms : List Memory) :
    listFreshMemory operands (listFreshMemory operands ms) = listFreshMemory operands ms := by
  induction operands generalizing ms with
  | nil => rfl
  | cons o rest ih =>
      simp only [listFreshMemory, List.headD_cons, List.tail_cons]
      rw [each o List.mem_cons_self, ih fun o member => each o (List.mem_cons_of_mem _ member)]

theorem Operand.freshMemory_freshMemory_of {o : Operand}
    (nested : ∀ t, o = .nested t → ∀ m, t.freshMemory (t.freshMemory m) = t.freshMemory m)
    (m : Memory) : o.freshMemory (o.freshMemory m) = o.freshMemory m := by
  match o with
  | .nested t => exact nested t rfl m
  | .literal (.term _) | .literal (.integer _) | .literal (.float _) | .literal (.string _)
  | .literal (.boolean _) | .literal (.timestamp _) | .literal (.regex _) | .field _
  | .placeholder _ => rfl

/-- A copy of a copy remembers what the copy does. -/
theorem Term.freshMemory_freshMemory (t : Term) (m : Memory) :
    t.freshMemory (t.freshMemory m) = t.freshMemory m := by
  induction t using Term.nested_induction generalizing m with
  | step op operands ih =>
      refine congrArg (Memory.mk none) (Operand.listFreshMemory_listFreshMemory ?_ _)
      intro o member m
      refine Operand.freshMemory_freshMemory_of (fun t same => ?_) m
      subst same
      exact ih t member

theorem Operand.freshMemory_freshMemory (o : Operand) (m : Memory) :
    o.freshMemory (o.freshMemory m) = o.freshMemory m :=
  Operand.freshMemory_freshMemory_of (fun t _ => t.freshMemory_freshMemory) m

section

variable {args args' : List Operand} {given given' : List Memory}

theorem Operand.listInstantiateMemory_listFreshMemory {operands : List Operand}
    (each : ∀ o ∈ operands, ∀ m,
      o.instantiateMemory args given (o.freshMemory m) =
        (o.instantiate args).freshMemory (o.instantiateMemory args given m)) (ms : List Memory) :
    listInstantiateMemory args given operands (listFreshMemory operands ms) =
      listFreshMemory (listInstantiate args operands)
        (listInstantiateMemory args given operands ms) := by
  induction operands generalizing ms with
  | nil => rfl
  | cons o rest ih =>
      simp only [listInstantiateMemory, listFreshMemory, listInstantiate, List.headD_cons,
        List.tail_cons]
      rw [each o List.mem_cons_self, ih fun o member => each o (List.mem_cons_of_mem _ member)]

theorem Operand.instantiateMemory_freshMemory_of {o : Operand}
    (nested : ∀ t, o = .nested t → ∀ m,
      t.instantiateMemory args given (t.freshMemory m) =
        (t.instantiate args).freshMemory (t.instantiateMemory args given m)) (m : Memory) :
    o.instantiateMemory args given (o.freshMemory m) =
      (o.instantiate args).freshMemory (o.instantiateMemory args given m) := by
  match o with
  | .nested t => exact nested t rfl m
  | .placeholder i =>
    rw [Operand.instantiateMemory, Operand.instantiateMemory, Operand.instantiate]
    cases args[i.toNat]? with
    | none => rfl
    | some arg => exact (arg.freshMemory_freshMemory _).symm
  | .literal (.term _) | .literal (.integer _) | .literal (.float _) | .literal (.string _)
  | .literal (.boolean _) | .literal (.timestamp _) | .literal (.regex _) | .field _ => rfl

/-- Copying before filling in is copying after it. -/
theorem Term.instantiateMemory_freshMemory (t : Term) (m : Memory) :
    t.instantiateMemory args given (t.freshMemory m) =
      (t.instantiate args).freshMemory (t.instantiateMemory args given m) := by
  induction t using Term.nested_induction generalizing m with
  | step op operands ih =>
      refine congrArg (Memory.mk none) (Operand.listInstantiateMemory_listFreshMemory ?_ _)
      intro o member m
      refine Operand.instantiateMemory_freshMemory_of (fun t same => ?_) m
      subst same
      exact ih t member

theorem Operand.instantiateMemory_freshMemory (o : Operand) (m : Memory) :
    o.instantiateMemory args given (o.freshMemory m) =
      (o.instantiate args).freshMemory (o.instantiateMemory args given m) :=
  Operand.instantiateMemory_freshMemory_of (fun t _ => t.instantiateMemory_freshMemory) m

theorem Operand.listInstantiateMemory_covered {operands : List Operand}
    (each : ∀ o ∈ operands, ∀ m,
      (o.instantiate args).instantiateMemory args' given' (o.instantiateMemory args given m) =
        o.instantiateMemory (args.map (instantiate args'))
          (listInstantiateMemory args' given' args given) m) (ms : List Memory) :
    listInstantiateMemory args' given' (listInstantiate args operands)
        (listInstantiateMemory args given operands ms) =
      listInstantiateMemory (args.map (instantiate args'))
        (listInstantiateMemory args' given' args given) operands ms := by
  induction operands generalizing ms with
  | nil => rfl
  | cons o rest ih =>
      simp only [listInstantiateMemory, listInstantiate, List.headD_cons, List.tail_cons]
      rw [each o List.mem_cons_self, ih fun o member => each o (List.mem_cons_of_mem _ member)]

theorem Term.instantiateMemory_covered {t : Term}
    (covered : ∀ i ∈ t.placeholders, i.toNat < args.length) (m : Memory) :
    (t.instantiate args).instantiateMemory args' given' (t.instantiateMemory args given m) =
      t.instantiateMemory (args.map (Operand.instantiate args'))
        (Operand.listInstantiateMemory args' given' args given) m := by
  induction t using Term.nested_induction generalizing m with
  | step op operands ih =>
      have inside := Operand.covered_of_mk covered
      refine congrArg (Memory.mk none) (Operand.listInstantiateMemory_covered ?_ _)
      intro o member m
      match o with
      | .nested t => exact ih t member (inside _ member) m
      | .placeholder i =>
        have found := List.getElem?_eq_getElem (inside _ member i (List.mem_singleton_self i))
        simp only [Operand.instantiate, Operand.instantiateMemory, List.getElem?_map, found,
          Option.map_some, Option.getD_some, Operand.getD_listInstantiateMemory]
        exact Operand.instantiateMemory_freshMemory _ _
      | .literal (.term _) | .literal (.integer _) | .literal (.float _) | .literal (.string _)
      | .literal (.boolean _) | .literal (.timestamp _) | .literal (.regex _) | .field _ => rfl

end

/-! ## Bodies -/

/-- **Filling in composes.**  Let a call have an operand for each placeholder of a body.  Filling
in the body with the operands of the call, and the outcome with further ones, is filling it in
once, with the operands of the call filled in themselves: placeholders among them replaced where
there is an operand for them, and nested terms filled in.  The highest placeholder after the first
step is the highest of the operands that the body uses.  So a call inside another body may be
expanded before that body or after it, and what is remembered is the same as well. -/
theorem Term.instantiate_instantiate {body : Term} {args : List Operand}
    (covered : ∀ i ∈ body.placeholders, i.toNat < args.length) :
    (∀ args', (body.instantiate args).instantiate args' =
      body.instantiate (args.map (Operand.instantiate args'))) ∧
    IsHighest
      (body.placeholders.flatMap fun i => (args[i.toNat]?.bind Operand.maxPlaceholder).toList)
      (body.instantiate args).maxPlaceholder ∧
    ∀ (op : Operator) (m m' : Memory) (caller : Instance),
      (Instance.instantiate ⟨body, m⟩ ⟨.mk op args, m'⟩).instantiate caller =
        Instance.instantiate ⟨body, m⟩ (Instance.instantiate ⟨.mk op args, m'⟩ caller) := by
  refine ⟨fun args' => Term.instantiate_covered covered,
    Term.maxPlaceholder_instantiate covered, fun op m m' caller => ?_⟩
  simp only [Instance.instantiate, Term.instantiate, Term.instantiateMemory, Term.operands,
    Operand.listInstantiate_eq_map, Memory.children]
  rw [Term.instantiate_covered covered, Term.instantiateMemory_covered covered]

/-- The body `(and $1 (not $0))` in the call `(foo $2 (exists $0))` inside a body that is called
with two operands: `$2` stays, and `$0` gives way to the field. -/
theorem Term.instantiate_instantiate_nested :
    let body : Term := .mk (.builtin .and) [.placeholder 1,
      .nested (.mk (.builtin .not) [.placeholder 0])]
    let args : List Operand := [.placeholder 2,
      .nested (.mk (.builtin .present) [.placeholder 0])]
    let args' : List Operand := [.field "a", .field "b"]
    (∀ i ∈ body.placeholders, i.toNat < args.length) ∧
      (body.instantiate args).instantiate args' =
        body.instantiate [.placeholder 2, .nested (.mk (.builtin .present) [.field "a"])] ∧
      IsHighest [0, 2] (body.instantiate args).maxPlaceholder := by
  intro body args args'
  have covered : ∀ i ∈ body.placeholders, i.toNat < args.length := by
    simp [body, args, Term.placeholders_mk, Operand.placeholders]
  obtain ⟨composes, highest, -⟩ := Term.instantiate_instantiate covered
  exact ⟨covered, composes args', highest⟩

end FactScan
