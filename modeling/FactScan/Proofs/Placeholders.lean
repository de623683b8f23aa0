/-
# FactScan.Proofs.Placeholders — a call fills its body

The arity of a definition comes from one recursion over its body, the highest placeholder, and a
call is filled in by another.  Both agree with the list of the body's placeholders: the arity is
one more than the greatest of them, so a term with that many operands has one for each.

The sum is one of 64 bits.  The greatest index there is has no successor, and the program ends
when an operator is made of a body that uses it.  All other bodies are given their arity.

* `Term.maxPlaceholder_isHighest`, `Term.placeholders_instantiate`: the two recursions.
* `Definition.countOf_lt_size_iff`: the sum fits unless the last index is used.
* `Definition.make_fills`: operators made, and the calls that their arity admits.
-/
import Mathlib.Data.List.Basic
import FactScan.Engine.Evaluate
import FactScan.Proofs.Terms
import FactScan.Term.Reader

namespace FactScan

set_option autoImplicit false

mutual

/-- The placeholders of a term in reading order, outside terms carried as data. -/
def Term.placeholders : Term → List UInt64
  | .mk _ operands => Operand.listPlaceholders operands

def Operand.placeholders : Operand → List UInt64
  | .placeholder i => [i]
  | .nested t => t.placeholders
  | _ => []

def Operand.listPlaceholders : List Operand → List UInt64
  | [] => []
  | o :: rest => o.placeholders ++ Operand.listPlaceholders rest

end

theorem Term.placeholders_mk (op : Operator) (operands : List Operand) :
    (Term.mk op operands).placeholders = operands.flatMap Operand.placeholders := by
  rw [Term.placeholders]
  induction operands with
  | nil => rfl
  | cons o rest ih => rw [Operand.listPlaceholders, ih, List.flatMap_cons]

/-! ## The highest placeholder -/

/-- The greatest of some indices, if there are any. -/
def IsHighest (indices : List UInt64) : Option UInt64 → Prop
  | none => indices = []
  | some n => n ∈ indices ∧ ∀ i ∈ indices, i ≤ n

theorem IsHighest.append {is js : List UInt64} {a b : Option UInt64} (first : IsHighest is a)
    (second : IsHighest js b) : IsHighest (is ++ js) (maxIndex a b) := by
  cases a with
  | none =>
      obtain rfl : is = [] := first
      exact second
  | some n =>
      obtain ⟨member, above⟩ := first
      cases b with
      | none =>
          obtain rfl : js = [] := second
          rw [List.append_nil]
          exact ⟨member, above⟩
      | some m =>
          obtain ⟨member', above'⟩ := second
          by_cases less : n < m
          · rw [maxIndex, if_pos less]
            refine ⟨List.mem_append_right _ member', List.forall_mem_append.2 ⟨?_, above'⟩⟩
            exact fun i inside => UInt64.le_trans (above i inside) (UInt64.le_of_lt less)
          · rw [maxIndex, if_neg less]
            refine ⟨List.mem_append_left _ member, List.forall_mem_append.2 ⟨above, ?_⟩⟩
            exact fun i inside => UInt64.le_trans (above' i inside) (UInt64.not_lt.1 less)

theorem IsHighest.eq_none_iff {is : List UInt64} {a : Option UInt64} (highest : IsHighest is a) :
    a = none ↔ is = [] := by
  cases a with
  | none => exact iff_of_true rfl highest
  | some n => exact iff_of_false nofun (List.ne_nil_of_mem highest.1)

theorem Operand.listMaxPlaceholder_isHighest {operands : List Operand}
    (each : ∀ o ∈ operands, IsHighest o.placeholders o.maxPlaceholder) :
    IsHighest (listPlaceholders operands) (listMaxPlaceholder operands) := by
  induction operands with
  | nil => rfl
  | cons o rest ih =>
      obtain ⟨own, later⟩ := List.forall_mem_cons.1 each
      exact own.append (ih later)

theorem Operand.maxPlaceholder_isHighest_of {o : Operand}
    (inside : ∀ t, o = .nested t → IsHighest t.placeholders t.maxPlaceholder) :
    IsHighest o.placeholders o.maxPlaceholder := by
  cases o with
  | literal s => cases s <;> rfl
  | field name => rfl
  | nested t => exact inside t rfl
  | placeholder i => exact ⟨List.mem_singleton_self i, by simp [Operand.placeholders]⟩

/-- **The highest placeholder is the greatest of the term's placeholders.** -/
theorem Term.maxPlaceholder_isHighest (t : Term) : IsHighest t.placeholders t.maxPlaceholder := by
  induction t using Term.nested_induction with
  | step op operands ih =>
      refine Operand.listMaxPlaceholder_isHighest fun o member => ?_
      refine Operand.maxPlaceholder_isHighest_of fun t same => ?_
      exact ih t (same ▸ member)

theorem Operand.maxPlaceholder_isHighest (o : Operand) :
    IsHighest o.placeholders o.maxPlaceholder :=
  Operand.maxPlaceholder_isHighest_of fun t _ => t.maxPlaceholder_isHighest

/-! ## Filling in -/

/-- **Filling in** puts, for each placeholder, those of the operand at its index, or leaves the
placeholder where there is none. -/
theorem Term.placeholders_instantiate (args : List Operand) (t : Term) :
    (t.instantiate args).placeholders =
      t.placeholders.flatMap fun i => (args[i.toNat]?.getD (.placeholder i)).placeholders := by
  induction t using Term.nested_induction with
  | step op operands ih =>
      rw [Term.instantiate, Operand.listInstantiate_eq_map, Term.placeholders_mk,
        Term.placeholders_mk, List.flatMap_map, List.flatMap_assoc]
      refine List.flatMap_congr fun o member => ?_
      cases o with
      | literal s => cases s <;> rfl
      | field name => rfl
      | nested t => exact ih t member
      | placeholder i => exact (List.flatMap_singleton ..).symm

/-- With an operand for each of its placeholders, a term has only placeholders of the operands. -/
theorem Term.mem_placeholders_instantiate {args : List Operand} {t : Term} {i : UInt64}
    (enough : ∀ j ∈ t.placeholders, j.toNat < args.length)
    (member : i ∈ (t.instantiate args).placeholders) :
    ∃ j ∈ t.placeholders, ∃ o, args[j.toNat]? = some o ∧ i ∈ o.placeholders := by
  rw [Term.placeholders_instantiate] at member
  obtain ⟨j, own, inside⟩ := List.mem_flatMap.1 member
  have given := List.getElem?_eq_getElem (enough j own)
  rw [given] at inside
  exact ⟨j, own, _, given, inside⟩

/-! ## Counts -/

/-- The index that has no successor in 64 bits. -/
def lastIndex : UInt64 := 18446744073709551615

namespace Definition

/-- **The number of operands is above every placeholder**, and by one above the greatest. -/
theorem countOf_spec (t : Term) :
    (∀ i ∈ t.placeholders, i.toNat < countOf t) ∧
      (countOf t ≠ 0 → ∃ i ∈ t.placeholders, countOf t = i.toNat + 1) := by
  have highest := t.maxPlaceholder_isHighest
  unfold countOf
  cases found : t.maxPlaceholder with
  | none =>
      rw [found] at highest
      have none_ : t.placeholders = [] := highest
      exact ⟨by rw [none_]; nofun, fun some_ => absurd rfl some_⟩
  | some m =>
      rw [found] at highest
      obtain ⟨member, above⟩ := highest
      refine ⟨fun i inside => ?_, fun _ => ⟨m, member, rfl⟩⟩
      exact Nat.lt_succ_of_le (UInt64.le_iff_toNat_le.1 (above i inside))

/-- **The sum fits** into 64 bits unless the last index is used. -/
theorem countOf_lt_size_iff (t : Term) :
    countOf t < UInt64.size ↔ lastIndex ∉ t.placeholders := by
  obtain ⟨above, least⟩ := countOf_spec t
  have last : lastIndex.toNat + 1 = UInt64.size := rfl
  constructor
  · intro fits used
    have below := above lastIndex used
    omega
  · intro unused
    by_contra full
    have some_ : countOf t ≠ 0 := fun zero => full (zero ▸ Nat.zero_lt_succ _)
    obtain ⟨i, used, count⟩ := least some_
    have bounded := i.toNat_lt_size
    have same : i = lastIndex := UInt64.toNat_inj.1 (by omega)
    exact unused (same ▸ used)

/-! ## Calls -/

/-- In a call by as many operands as a body asks for, each placeholder gives way to one of
them. -/
theorem placeholders_call {body caller : Instance}
    (count : caller.term.operands.length = countOf body.term) :
    let filled := (body.fresh.instantiate caller).term
    (∀ i ∈ filled.placeholders, ∃ j ∈ body.term.placeholders, ∃ o,
        caller.term.operand? j.toNat = some o ∧ i ∈ o.placeholders) ∧
      ((∀ o ∈ caller.term.operands, o.maxPlaceholder = none) →
        filled.maxPlaceholder = none) := by
  intro filled
  have above := (countOf_spec body.term).1
  have came (i : UInt64) (member : i ∈ filled.placeholders) : ∃ j ∈ body.term.placeholders,
      ∃ o, caller.term.operand? j.toNat = some o ∧ i ∈ o.placeholders :=
    Term.mem_placeholders_instantiate (fun j own => count ▸ above j own) member
  refine ⟨came, fun closed => ?_⟩
  refine filled.maxPlaceholder_isHighest.eq_none_iff.2 (List.eq_nil_iff_forall_not_mem.2 ?_)
  intro i member
  obtain ⟨j, -, o, given, inside⟩ := came i member
  have none_ := closed o (List.mem_of_getElem? given)
  rw [o.maxPlaceholder_isHighest.eq_none_iff.1 none_] at inside
  exact nomatch inside

/-- **A call that the arity admits fills its body.**  Making an operator ends the program if its
body uses the last index.  Otherwise the arity is one above the greatest placeholder, or nothing
where there is none, and in every call that it admits each placeholder gives way to the operand
at its index. -/
theorem make_fills (name : String) (body : Instance) :
    lastIndex ∈ body.term.placeholders ∧
        make name body = .error (.abort "attempt to add with overflow") ∨
      lastIndex ∉ body.term.placeholders ∧ ∃ d n, make name body = .ok d ∧
        d.body = .expression body.fresh ∧ d.arity = .exactly n ∧ n < UInt64.size ∧
        (∀ i ∈ body.term.placeholders, i.toNat < n) ∧
        (n ≠ 0 → ∃ i ∈ body.term.placeholders, n = i.toNat + 1) ∧
        ∀ caller : Instance, d.arity.admits caller.term.arity = true →
          let filled := (body.fresh.instantiate caller).term
          (∀ i ∈ filled.placeholders, ∃ j ∈ body.term.placeholders, ∃ o,
            caller.term.operand? j.toNat = some o ∧ i ∈ o.placeholders) ∧
          ((∀ o ∈ caller.term.operands, o.maxPlaceholder = none) →
            filled.maxPlaceholder = none) := by
  have fits := countOf_lt_size_iff body.term
  by_cases used : lastIndex ∈ body.term.placeholders
  · exact .inl ⟨used, if_neg fun small => fits.1 small used⟩
  · obtain ⟨above, least⟩ := countOf_spec body.term
    refine .inr ⟨used, ofTerm name body, countOf body.term, if_pos (fits.2 used), rfl, rfl,
      fits.2 used, above, least, fun caller admitted => ?_⟩
    exact placeholders_call (beq_iff_eq.1 admitted)

/-- Placeholders in a body and in a term nested in it, in a call by operands one of which is a
placeholder itself, and in one by operands without any. -/
theorem make_fills_nested :
    let body : Instance := ⟨.mk (.builtin .and) [.placeholder 1,
      .nested (.mk (.builtin .not) [.placeholder 0])], .blank⟩
    let call (o : Operand) : Instance := ⟨.mk (.custom "foo") [.field "a", o], .blank⟩
    let filled (o : Operand) := (body.fresh.instantiate (call o)).term
    ∃ d, make "foo" body = .ok d ∧ d.arity.admits 2 = true ∧
      (∀ i ∈ (filled (.placeholder 7)).placeholders, ∃ j ∈ body.term.placeholders, ∃ o,
        (call (.placeholder 7)).term.operand? j.toNat = some o ∧ i ∈ o.placeholders) ∧
      (filled (.field "b")).maxPlaceholder = none := by
  intro body call filled
  have closed : ∀ o ∈ (call (.field "b")).term.operands, o.maxPlaceholder = none := by decide
  rcases make_fills "foo" body with ⟨used, -⟩ | ⟨-, d, n, made, -, -, -, -, -, fills⟩
  · exact absurd used (by decide)
  · have same : d = ofTerm "foo" body := (Except.ok.inj made).symm
    subst same
    exact ⟨_, made, rfl, (fills (call (.placeholder 7)) rfl).1,
      (fills (call (.field "b")) rfl).2 closed⟩

/-- A body that uses the last index can be read, and neither the host nor a `defn` lives to make
an operator of it. -/
theorem make_aborts :
    let body : Term := .mk (.builtin .present) [.placeholder 18446744073709551615]
    let defining : Term := .mk (.builtin .define) [.field "foo", .nested body]
    Term.ofText "(exists $18446744073709551615)" = .ok body ∧
      make "foo" ⟨body, .blank⟩ = .error (.abort "attempt to add with overflow") ∧
      ¬ (∃ d n, make "foo" ⟨body, .blank⟩ = .ok d ∧ d.arity = .exactly n ∧
        ∀ i ∈ body.placeholders, i.toNat < n) ∧
      (evaluate {} [] defining ⟨.blank, {}⟩).1 =
        .error (.evaluation "(defn foo (exists $18446744073709551615))" ⟨0, "defn", 0⟩
          (.abort "attempt to add with overflow")) := by
  intro body defining
  have aborts : make "foo" ⟨body, .blank⟩ = .error (.abort "attempt to add with overflow") := rfl
  refine ⟨rfl, aborts, ?_, rfl⟩
  rintro ⟨d, n, made, -⟩
  cases aborts.symm.trans made

end Definition

end FactScan
