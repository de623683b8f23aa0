/-
# FactScan.Proofs.Copies — copies that start over

`fresh`, `instantiate` and `simplify` give copies that are meant to remember nothing.  They
drop the blocks of nested terms, but a term carried as data is copied with what it
remembers, and `agg` may have evaluated it.

* `Instance.copies_start_over`: as long as nothing was recorded in the terms that an instance
  carries as data (`Memory.DataVacant`), nothing is recorded in its copies at any depth, and
  they scan as newly built terms do.
* `Instance.copies_remember`: copies that go on where the original stopped.

Two memories that hold the same may still differ as trees, by blank memories at the end of a
list.  `Memory.Alike` compares them at the positions of a term.
-/
import FactScan.Proofs.Interchange
import FactScan.Proofs.Simplify.Rules

namespace FactScan

set_option autoImplicit false

/-! ## Memories that hold the same -/

namespace Memory

/-- The same blocks at all positions of a term, nested or carried, and below expansions. -/
inductive Alike : Term → Memory → Memory → Prop
  | same {t : Term} {m m' : Memory} : m.block = m'.block →
      (∀ p c, (t.operand? p).bind Operand.carried? = some c → Alike c (m.child p) (m'.child p)) →
      Alike t m m'
  | expansion {t e : Term} {m m' u u' : Memory} {generation : Nat} :
      m.block = some (.expansion generation e u) → m'.block = some (.expansion generation e u') →
      Alike e u u' →
      (∀ p c, (t.operand? p).bind Operand.carried? = some c → Alike c (m.child p) (m'.child p)) →
      Alike t m m'

namespace Alike

variable {t c : Term} {m m' k k' : Memory}

theorem refl (t : Term) (m : Memory) : Alike t m m := by
  induction t using Term.carried_induction generalizing m with
  | step op operands ih =>
      refine .same rfl fun p c carried => ?_
      obtain ⟨o, at_, carried⟩ := Option.bind_eq_some_iff.1 carried
      exact ih o (List.mem_of_getElem? at_) c carried (m.child p)

theorem child (alike : Alike t m m') {p : Nat}
    (carried : (t.operand? p).bind Operand.carried? = some c) :
    Alike c (m.child p) (m'.child p) := by
  cases alike with
  | same _ children => exact children p c carried
  | expansion _ _ _ children => exact children p c carried

/-- Replacing the memory of one operand. -/
theorem setChild (alike : Alike t m m') {p : Nat}
    (carried : (t.operand? p).bind Operand.carried? = some c) (inside : Alike c k k') :
    Alike t (m.setChild p k) (m'.setChild p k') := by
  have children : ∀ q c', (t.operand? q).bind Operand.carried? = some c' →
      Alike c' ((m.setChild p k).child q) ((m'.setChild p k').child q) := by
    intro q c' carried'
    rw [child_setChild, child_setChild]
    by_cases here : q = p
    · subst here
      rw [if_pos rfl, if_pos rfl]
      cases carried.symm.trans carried'
      exact inside
    · rw [if_neg here, if_neg here]
      exact alike.child carried'
  cases alike with
  | same block _ => exact .same block children
  | expansion block block' body _ => exact .expansion block block' body children

/-- Putting the same in place of what the terms remember for themselves. -/
theorem setBlock (alike : Alike t m m') (b : Option Block) :
    Alike t (m.setBlock b) (m'.setBlock b) :=
  .same rfl fun _ _ carried => alike.child carried

theorem copying : Copying Alike Alike where
  vacant block block' children := .same (block.trans block'.symm) children
  nested alike at_ := alike.child (by rw [at_]; rfl)
  data alike at_ := alike.child (by rw [at_]; rfl)

/-- Operators see no difference between two expansions. -/
theorem insensitive (alike : Alike t m m') :
    Operators.previousOf m.block = Operators.previousOf m'.block ∧
      Operators.seenOf m.block = Operators.seenOf m'.block := by
  cases alike with
  | same block _ => exact ⟨by rw [block], by rw [block]⟩
  | expansion block block' _ _ => exact ⟨by rw [block, block']; rfl, by rw [block, block']; rfl⟩

/-- An expansion is kept for both terms or for neither. -/
theorem expansionFor (alike : Alike t m m') {d d' : Definition} {body body' : Instance}
    (generation : d'.generation = d.generation) (sameTerm : body'.term = body.term)
    (bodies : Alike body.term body.memory body'.memory) :
    (d'.expansionFor body' t m').term = (d.expansionFor body t m).term ∧
      Alike (d.expansionFor body t m).term (d.expansionFor body t m).memory
        (d'.expansionFor body' t m').memory := by
  have new : (body'.instantiate ⟨t, m'⟩).term = (body.instantiate ⟨t, m⟩).term ∧
      Alike (body.instantiate ⟨t, m⟩).term (body.instantiate ⟨t, m⟩).memory
        (body'.instantiate ⟨t, m'⟩).memory := by
    refine ⟨congrArg (Term.instantiate t.operands) sameTerm, ?_⟩
    have filled := copying.instantiate alike body.term body.memory body'.memory bodies
    unfold Instance.instantiate
    rw [sameTerm]
    exact filled
  have kept : d'.isKept m' = d.isKept m := by
    unfold Definition.isKept
    cases alike with
    | same block _ => rw [block, generation]
    | expansion block block' _ _ => rw [block, block', generation]
  cases isKept : d.isKept m with
  | false =>
      rw [d.expansionFor_of_not_isKept body t isKept,
        d'.expansionFor_of_not_isKept body' t (kept.trans isKept)]
      exact new
  | true =>
      have held := d.expansionFor_of_isKept body t isKept
      have held' := d'.expansionFor_of_isKept body' t (kept.trans isKept)
      cases alike with
      | same block _ =>
          rw [← block, held] at held'
          simp only [Option.some.injEq, Block.expansion.injEq] at held'
          rw [held'.2.1, held'.2.2]
          exact ⟨rfl, refl _ _⟩
      | expansion block block' inside _ =>
          rw [block, Option.some.injEq, Block.expansion.injEq] at held
          rw [block', Option.some.injEq, Block.expansion.injEq] at held'
          rw [← held.2.1, ← held.2.2, ← held'.2.1, ← held'.2.2]
          exact ⟨rfl, inside⟩

theorem interchange : Interchange fun _ => Alike where
  elsewhere _ _ alike := alike
  later _ alike := alike
  child alike carried := alike.child carried
  setChild alike carried inside := alike.setChild carried inside
  fresh alike := copying.fresh _ _ _ alike
  previous alike _ := ⟨alike.insensitive.1, fun v => alike.setBlock _⟩
  seen alike _ := ⟨alike.insensitive.2, fun keys => alike.setBlock _⟩
  pattern alike _ q := alike.setBlock _
  call alike _ _ _ generation sameTerm bodies := by
    obtain ⟨same, inside⟩ := alike.expansionFor generation sameTerm bodies
    exact ⟨same, inside, fun v k k' _ below =>
      .expansion rfl rfl below fun p c carried => alike.child carried⟩

end Alike

/-! ## Memories that hold nothing -/

/-- Nothing is recorded at any position of a term, nested or carried. -/
inductive Vacant : Term → Memory → Prop
  | intro {t : Term} {m : Memory} : m.block = none →
      (∀ p c, (t.operand? p).bind Operand.carried? = some c → Vacant c (m.child p)) → Vacant t m

/-- Nothing is recorded in the terms that a term, or one nested in it, carries as data. -/
inductive DataVacant : Term → Memory → Prop
  | intro {t : Term} {m : Memory} :
      (∀ p c, t.operand? p = some (.literal (.term c)) → Vacant c (m.child p)) →
      (∀ p c, t.operand? p = some (.nested c) → DataVacant c (m.child p)) → DataVacant t m

theorem vacant_blank (t : Term) : Vacant t .blank := by
  induction t using Term.carried_induction with
  | step op operands ih =>
      refine .intro rfl fun p c carried => ?_
      obtain ⟨o, at_, carried⟩ := Option.bind_eq_some_iff.1 carried
      rw [child_blank]
      exact ih o (List.mem_of_getElem? at_) c carried

/-- A memory that holds nothing is as good as a blank one. -/
theorem Vacant.alike {t : Term} {m : Memory} (vacant : Vacant t m) : Alike t m .blank := by
  induction vacant with
  | intro block _ ih =>
      refine .same block fun p c carried => ?_
      rw [child_blank]
      exact ih p c carried

/-- Terms that carry none as data have nothing recorded there. -/
theorem dataVacant_of_isPlain {t : Term} (plain : t.IsPlain) (m : Memory) : DataVacant t m := by
  induction t using Term.nested_induction generalizing m with
  | step op operands ih =>
      have plainOperands := Term.isPlain_mk.1 plain
      refine .intro (fun p c at_ => ?_) fun p c at_ => ?_
      · exact (plainOperands _ (List.mem_of_getElem? at_)).elim
      · have member : .nested c ∈ operands := List.mem_of_getElem? at_
        exact ih c member (plainOperands _ member) (m.child p)

theorem DataVacant.copying : Copying (fun t m _ => DataVacant t m) fun t m _ => Vacant t m where
  vacant block _ children := .intro block children
  nested untouched at_ := by
    cases untouched with
    | intro _ nested => exact nested _ _ at_
  data untouched at_ := by
    cases untouched with
    | intro data _ => exact data _ _ at_

end Memory

/-! ## Simplified copies -/

/-- Nothing is recorded in the term that a part holds. -/
def Part.IsVacant (part : Part) : Prop :=
  ∀ c, part.operand.carried? = some c → part.memory.Vacant c

/-- Nothing is recorded in an instance. -/
def Instance.IsVacant (i : Instance) : Prop := i.memory.Vacant i.term

namespace Simplify

theorem isVacant_constant (a : Scalar) : (constant a).IsVacant := Memory.vacant_blank _

theorem isVacant_ofParts (op : Operator) {parts : List Part}
    (vacant : ∀ part ∈ parts, part.IsVacant) : (Instance.ofParts op parts).IsVacant := by
  refine .intro rfl fun p c carried => ?_
  obtain ⟨o, at_, carried⟩ := Option.bind_eq_some_iff.1 carried
  have found : (parts.map (·.operand))[p]? = some o := at_
  rw [List.getElem?_map, Option.map_eq_some_iff] at found
  obtain ⟨part, found, rfl⟩ := found
  rw [Refines.child_ofParts op parts found]
  exact vacant part (List.mem_of_getElem? found) c carried

/-- Whatever a rule leaves of parts in which nothing is recorded. -/
theorem Outcome.isVacant {settings : Settings} {registry : Registry}
    (hookless : ∀ d ∈ registry.custom, d.hook = none) {op : Operator} {parts : List Part}
    (vacant : ∀ part ∈ parts, part.IsVacant) {i : Instance}
    (outcome : Outcome settings registry op parts i) : i.IsVacant := by
  cases outcome with
  | constant _ _ => exact isVacant_constant _
  | kept inside _ =>
      exact isVacant_ofParts op fun part member => vacant part (inside.subset member)
  | hooked member hooked _ => exact absurd hooked (not_hooked hookless member _)

end Simplify

/-- The term that a simplified operand holds is its own, simplified if it is nested. -/
theorem Operand.carried?_simplifyAt {settings : Settings} {registry : Registry} {depth : Nat}
    {o : Operand} {m : Memory} {c : Term}
    (carried : (o.simplifyAt settings registry depth m).operand.carried? = some c) :
    (∃ t, o = .nested t ∧ (t.simplifyAt settings registry depth m).term = c) ∨
      o = .literal (.term c) := by
  cases o with
  | nested t =>
      cases carried
      exact .inl ⟨t, rfl, rfl⟩
  | literal s =>
      have unchanged : ((Operand.literal s).simplifyAt settings registry depth m).operand =
          .literal s := by
        cases s <;> rfl
      rw [unchanged] at carried
      rcases Operand.carried?_cases carried with is | is
      · cases is
      · exact .inr is
  | field name => cases carried
  | placeholder i => cases carried

/-- Simplifying leaves nothing recorded, if nothing was in terms carried as data. -/
theorem Term.isVacant_simplifyAt {settings : Settings} {registry : Registry}
    (hookless : ∀ d ∈ registry.custom, d.hook = none) (t : Term) (depth : Nat) {m : Memory}
    (untouched : m.DataVacant t) : (t.simplifyAt settings registry depth m).IsVacant := by
  induction t using Term.nested_induction generalizing depth m with
  | step op operands ih =>
      rw [Term.simplifyAt]
      split
      · exact Memory.DataVacant.copying.fresh (.mk op operands) m m untouched
      · refine (Simplify.apply_outcome op _).isVacant hookless fun part member => ?_
        obtain ⟨p, found⟩ := List.mem_iff_getElem?.1 member
        rw [Operand.getElem?_listSimplifyAt, Option.map_eq_some_iff] at found
        obtain ⟨o, found, rfl⟩ := found
        have at_ : (Term.mk op operands).operand? p = some o := found
        intro c carried
        rcases Operand.carried?_simplifyAt carried with ⟨t, rfl, rfl⟩ | rfl
        · exact ih t (List.mem_of_getElem? found) (depth + 1)
            (Memory.DataVacant.copying.nested (n := m) untouched at_)
        · exact Memory.DataVacant.copying.data (n := m) untouched at_

/-! ## Scans of copies -/

/-- An instance in which nothing is recorded scans as a newly built one. -/
theorem Instance.IsVacant.scan {i : Instance} (vacant : i.IsVacant) (settings : Settings)
    (rows : List Row) (facts : List Fact) (w : World) :
    let copied := i.scan settings rows facts w
    let built := Instance.scan settings rows facts ⟨i.term, .blank⟩ w
    copied.values = built.values ∧ copied.facts = built.facts ∧
      copied.world.registry.bare = built.world.registry.bare := by
  have paired : State.Paired (fun _ => Memory.Alike) i.term ⟨i.memory, w⟩ ⟨.blank, w⟩ :=
    ⟨.self fun _ _ body _ _ => .refl body.term body.memory, vacant.alike⟩
  obtain ⟨values, sameFacts, worlds⟩ :=
    Instance.scan_respects Memory.Alike.interchange settings rows i.term facts paired
  exact ⟨values, sameFacts, worlds.registry⟩

/-- **Copies start over**, as long as nothing was recorded in terms carried as data.  Then a
fresh copy, a body filled in with the operands of a calling term, and a copy simplified
without hooks have nothing recorded at any depth, nested or carried, whatever the originals
remember elsewhere; and any scan of them gives the values, facts and operators that a newly
built term of the same shape gives. -/
theorem Instance.copies_start_over {i caller : Instance} (untouched : i.memory.DataVacant i.term)
    (untouched' : caller.memory.DataVacant caller.term) (simplifying : Settings)
    {registry : Registry} (hookless : ∀ d ∈ registry.custom, d.hook = none) :
    ∀ copy ∈ [i.fresh, i.instantiate caller, i.simplify simplifying registry],
      copy.IsVacant ∧ ∀ settings rows facts w,
        let copied := copy.scan settings rows facts w
        let built := Instance.scan settings rows facts ⟨copy.term, .blank⟩ w
        copied.values = built.values ∧ copied.facts = built.facts ∧
          copied.world.registry.bare = built.world.registry.bare := by
  have copying := Memory.DataVacant.copying
  have fresh : i.fresh.IsVacant := copying.fresh i.term i.memory i.memory untouched
  have filled : (i.instantiate caller).IsVacant :=
    copying.instantiate (l := caller.memory) untouched' i.term i.memory i.memory untouched
  have simplified : (i.simplify simplifying registry).IsVacant :=
    Term.isVacant_simplifyAt hookless i.term 0 untouched
  intro copy member
  have vacant : copy.IsVacant := by
    simp only [List.mem_cons, List.not_mem_nil, or_false] at member
    rcases member with rfl | rfl | rfl
    · exact fresh
    · exact filled
    · exact simplified
  exact ⟨vacant, vacant.scan⟩

/-- The hypotheses hold of `(not (unique k))` after an evaluation, which leaves something
recorded in it. -/
theorem Instance.copies_start_over_unique :
    let t : Term := .mk (.builtin .not) [.nested (.mk (.builtin .unique) [.field "k"])]
    let i : Instance := (Instance.evaluate {} [] ⟨t, .blank⟩ {}).2.1
    (i.memory.child 0).block.isSome = true ∧
    ∀ copy ∈ [i.fresh, i.instantiate i, i.simplify {} .standard],
      copy.IsVacant ∧ ∀ settings rows facts w,
        let copied := copy.scan settings rows facts w
        let built := Instance.scan settings rows facts ⟨copy.term, .blank⟩ w
        copied.values = built.values ∧ copied.facts = built.facts ∧
          copied.world.registry.bare = built.world.registry.bare := by
  intro t i
  have plain : i.term.IsPlain := by
    refine Term.isPlain_mk.2 fun o member => ?_
    rw [List.mem_singleton.1 member]
    refine Term.isPlain_mk.2 fun o member => ?_
    rw [List.mem_singleton.1 member]
    trivial
  have untouched := Memory.dataVacant_of_isPlain plain i.memory
  exact ⟨rfl, Instance.copies_start_over untouched untouched {}
    fun d member => absurd member List.not_mem_nil⟩

/-- Copies do not start over where a term carried as data has been evaluated: `agg` did so
with `(unique k)` here, which is true at first. -/
theorem Instance.copies_remember :
    let t : Term := .mk (.builtin .aggregate) [.nested (.mk (.builtin .present) [.field "k"]),
      .literal (.term (.mk (.builtin .unique) [.field "k"]))]
    let built : Instance := ⟨t, .blank⟩
    let used : Instance := (built.evaluate {} [] {}).2.1
    (built.evaluate {} [] {}).1 = .ok (.boolean true) ∧
    ∀ copy ∈ [used.fresh, used.instantiate ⟨.mk (.custom "call") [], .blank⟩,
      used.simplify {} .standard],
        copy.term = t ∧ (copy.evaluate {} [] {}).1 = .ok (.boolean false) := by
  intro t built used
  refine ⟨rfl, fun copy member => ?_⟩
  simp only [List.mem_cons, List.not_mem_nil, or_false] at member
  rcases member with rfl | rfl | rfl <;> exact ⟨rfl, rfl⟩

end FactScan
