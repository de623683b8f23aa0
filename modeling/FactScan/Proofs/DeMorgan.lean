/-
# FactScan.Proofs.DeMorgan — negation and the two junctions

`and` looks for a false operand and `or` for a true one; neither looks further than the first it
finds.  So `(not (and a b ...))` and `(or (not a) (not b) ...)` ask the same operands in the same
order, both two levels down, and stop at the same one.  That they have the same value is the
least of it: whatever the operands do to the fact, to the registry and to their own memory is
done alike, and if one of them fails the cause is the same.

Only the log and the trail of an error tell the two apart.  So the evaluations are followed side
by side in states that agree up to the log (`Sides`), where an operand resolves alike wherever it
stands (`resolve_alike`).

* `anyIs_denied`: the search for an operand, and the search among the denied operands.
* `deMorgan`: the two terms.
-/
import FactScan.Proofs.Inlining.Depth
import FactScan.Proofs.Registry.History
import FactScan.Proofs.Simplify.Worth

namespace FactScan

set_option autoImplicit false

namespace EvalError

theorem mapError_leaving_rootCause {α : Type} (site : Site) (t : Term) (r : Except EvalError α) :
    (r.mapError (·.leaving site t)).mapError rootCause = r.mapError rootCause := by
  cases r with
  | ok a => rfl
  | error e => exact congrArg Except.error (rootCause_leaving site t e)

/-- Results that are the same up to what an error passed through stay so. -/
theorem map_sameCause {α β : Type} (f : α → β) {r r' : Except EvalError α}
    (same : r.mapError rootCause = r'.mapError rootCause) :
    (r.map f).mapError rootCause = (r'.map f).mapError rootCause := by
  cases r with
  | error e =>
      cases r' with
      | error e' => exact congrArg Except.error (Except.error.inj same)
      | ok a => cases same
  | ok a =>
      cases r' with
      | error e => cases same
      | ok a' => exact congrArg (fun a => Except.ok (f a)) (Except.ok.inj same)

end EvalError

/-! ## Operands -/

/-- An operand resolves alike wherever it stands, by what it remembers, and nothing else is
touched there. -/
theorem resolve_alike (settings : Settings) (levels : Nat) (site : Site) {t t' : Term} {p p' : Nat}
    {o : Operand} (operand : t.operand? p = some o) (operand' : t'.operand? p' = some o)
    (filled : ∀ i, o ≠ .placeholder i) {s s' : State}
    (memory : s.memory.child p = s'.memory.child p') (worlds : s.world.Alike s'.world) :
    ∃ r m m' w w',
      resolve (evalAt settings levels) site t p s = (r, ⟨m, w⟩) ∧
      resolve (evalAt settings levels) site t' p' s' = (r, ⟨m', w'⟩) ∧
      w.Alike w' ∧ w.registry.hosted = s.world.registry.hosted ∧ m.child p = m'.child p' ∧
      (∀ q, q ≠ p → m.child q = s.memory.child q) ∧
      ∀ q, q ≠ p' → m'.child q = s'.memory.child q := by
  obtain ⟨m, w⟩ := s
  obtain ⟨m', w'⟩ := s'
  obtain ⟨log, same⟩ := worlds
  obtain rfl : w' = w.withLog log := same
  cases o with
  | placeholder i => exact absurd rfl (filled i)
  | literal a =>
      unfold resolve
      rw [operand, operand']
      exact ⟨_, m, m', w, _, rfl, rfl, ⟨log, rfl⟩, rfl, memory, fun _ _ => rfl, fun _ _ => rfl⟩
  | field name =>
      unfold resolve
      rw [operand, operand']
      exact ⟨_, m, m', w, _, rfl, rfl, ⟨log, rfl⟩, rfl, memory, fun _ _ => rfl, fun _ _ => rfl⟩
  | nested c =>
      obtain ⟨result, memory', worlds⟩ :=
        evalAt_of_alike settings levels site.deeper c (m.child p) ⟨log, rfl⟩
      obtain ⟨new, recorded⟩ := evalAt_recorded settings levels site.deeper c ⟨m.child p, w⟩
      rw [resolve_nested operand, resolve_nested operand']
      dsimp only at memory ⊢
      rw [← memory, result]
      refine ⟨_, _, _, _, _, rfl, rfl, worlds, recorded.hosted, ?_, fun q other => ?_,
        fun q other => ?_⟩
      · rw [Memory.child_setChild_self, Memory.child_setChild_self, memory']
      · exact Memory.child_setChild_ne _ (Ne.symm other) _
      · exact Memory.child_setChild_ne _ (Ne.symm other) _

/-! ## One operand and its denial -/

/-- `(not o)`. -/
def Operand.denied (o : Operand) : Term := .mk (.builtin .not) [o]

theorem Operand.evalAt_denied (settings : Settings) (levels : Nat) (site : Site) (o : Operand)
    {s : State} (hosted : s.world.registry.hosts .not = true) :
    evalAt settings (levels + 1) site o.denied s =
      let ran := resolve (evalAt settings levels) site o.denied 0
        ⟨s.memory, s.world.note (.dispatched site.depth o.denied)⟩
      ((ran.1.map fun v => .boolean !v.isTruthy).mapError (·.leaving site o.denied), ran.2) := by
  have dispatched : dispatch settings (evalAt settings levels) site o.denied s =
      Act.mapError (·.leaving site o.denied)
        (Operators.not (evalAt settings levels) site o.denied)
        ⟨s.memory, s.world.note (.dispatched site.depth o.denied)⟩ := dispatch_builtin rfl hosted
  have arity : checkArity o.denied (.exactly 1) = pure () := rfl
  rw [evalAt_succ, dispatched, Act.mapError_apply]
  unfold Operators.not
  rw [arity]
  dsimp only
  rcases ran : resolve (evalAt settings levels) site o.denied 0
    ⟨s.memory, s.world.note (.dispatched site.depth o.denied)⟩ with ⟨e | v, s'⟩
  · exact congrArg (fun r : Except EvalError Value × State => (r.1.mapError _, r.2))
      (Act.bind_error ran _)
  · exact congrArg (fun r : Except EvalError Value × State => (r.1.mapError _, r.2))
      (Act.bind_ok ran _)

/-- A denied operand is evaluated two levels down, to the opposite. -/
theorem resolve_denied (settings : Settings) (levels : Nat) (site : Site) {t u : Term} {p : Nat}
    {o : Operand} (operand : t.operand? p = some o)
    (operand' : u.operand? p = some (.nested o.denied)) (filled : ∀ i, o ≠ .placeholder i)
    {s s' : State} (hosted : s.world.registry.hosts .not = true)
    (memory : s.memory.child p = (s'.memory.child p).child 0) (worlds : s.world.Alike s'.world) :
    ∃ r m m' w w',
      resolve (evalAt settings levels) site.deeper t p s = (r, ⟨m, w⟩) ∧
      resolve (evalAt settings (levels + 1)) site u p s' =
        ((r.map fun v => .sequence [.boolean !v.isTruthy]).mapError
          (·.leaving site.deeper o.denied), ⟨m', w'⟩) ∧
      w.Alike w' ∧ w.registry.hosted = s.world.registry.hosted ∧
      m.child p = (m'.child p).child 0 ∧
      (∀ q, q ≠ p → m.child q = s.memory.child q) ∧
      ∀ q, q ≠ p → m'.child q = s'.memory.child q := by
  let entered : State :=
    ⟨s'.memory.child p, s'.world.note (.dispatched site.deeper.depth o.denied)⟩
  have here : o.denied.operand? 0 = some o := rfl
  have memory_ : s.memory.child p = entered.memory.child 0 := memory
  obtain ⟨r, m, k, w, v, ran, ran', alike, kept, memory', others, -⟩ :=
    resolve_alike settings levels site.deeper operand here filled memory_ (worlds.note _)
  have denied := o.evalAt_denied settings levels site.deeper (s := ⟨s'.memory.child p, s'.world⟩)
    (worlds.parts.2.1 ▸ hosted)
  dsimp only at denied
  rw [ran'] at denied
  refine ⟨r, m, s'.memory.setChild p k, w, v, ran, ?_, alike, kept, ?_, others, fun q other =>
    Memory.child_setChild_ne _ (Ne.symm other) _⟩
  · rw [resolve_nested operand', denied]
    cases r <;> rfl
  · rw [memory', Memory.child_setChild_self]

/-! ## The search for an operand -/

/-- A denied term is evaluated one level deeper, on its own memory. -/
theorem evalAt_denied_nested (settings : Settings) (levels : Nat) (site : Site) (t : Term)
    {s : State} (hosted : s.world.registry.hosts .not = true) :
    let denied := (Operand.nested t).denied
    let ran := evalAt settings levels site.deeper t
      ⟨s.memory.child 0, s.world.note (.dispatched site.depth denied)⟩
    evalAt settings (levels + 1) site denied s =
      (((ran.1.map Value.normalized).map fun v => .boolean !v.isTruthy).mapError
          (·.leaving site denied), ⟨s.memory.setChild 0 ran.2.memory, ran.2.world⟩) := by
  intro denied ran
  rw [Operand.evalAt_denied settings levels site (.nested t) hosted, resolve_nested rfl]

/-- Two states side by side, one with the memories of some operands, the other with those of the
operands denied. -/
structure State.Sides (operands : List Operand) (s s' : State) : Prop where
  worlds : s.world.Alike s'.world
  hosted : s.world.registry.hosts .not = true
  memory : ∀ p < operands.length, s.memory.child p = (s'.memory.child p).child 0

/-- **The search among denied operands** for what is not wanted looks where the search among the
operands looks for what is, and comes to the same end. -/
theorem anyIs_denied (settings : Settings) (levels : Nat) (site : Site) (wanted : Bool)
    {operands : List Operand} {t u : Term} (own : t.operands = operands)
    (denied : u.operands = operands.map fun o => .nested o.denied)
    (filled : ∀ i, .placeholder i ∉ operands) {ps : List Nat}
    (inside : ∀ p ∈ ps, p < operands.length) {s s' : State} (sides : s.Sides operands s') :
    let one := Operators.anyIs (evalAt settings levels) site.deeper t wanted ps s
    let other := Operators.anyIs (evalAt settings (levels + 1)) site u (!wanted) ps s'
    one.1.mapError EvalError.rootCause = other.1.mapError EvalError.rootCause ∧
      one.2.Sides operands other.2 := by
  induction ps generalizing s s' with
  | nil => exact ⟨rfl, sides⟩
  | cons p ps ih =>
      obtain ⟨here, later⟩ := List.forall_mem_cons.1 inside
      have operand : t.operand? p = some operands[p] := by
        unfold Term.operand?
        rw [own, List.getElem?_eq_getElem here]
      have operand' : u.operand? p = some (.nested operands[p].denied) := by
        unfold Term.operand?
        rw [denied, List.getElem?_map, List.getElem?_eq_getElem here]
        rfl
      have whole (i : UInt64) : operands[p] ≠ .placeholder i := fun same =>
        filled i (same ▸ List.getElem_mem here)
      obtain ⟨r, m, m', w, w', ran, ran', alike, kept, memory, others, others'⟩ :=
        resolve_denied settings levels site operand operand' whole sides.hosted
          (sides.memory p here) sides.worlds
      have after : State.Sides operands ⟨m, w⟩ ⟨m', w'⟩ := by
        refine ⟨alike, ?_, fun q bound => ?_⟩
        · unfold Registry.hosts
          rw [kept]
          exact sides.hosted
        · by_cases same : q = p
          · rw [same]
            exact memory
          · rw [others q same, others' q same]
            exact sides.memory q bound
      cases r with
      | error e =>
          dsimp only [Operators.anyIs]
          rw [Act.bind_error ran, Act.bind_error ran']
          exact ⟨congrArg Except.error (EvalError.rootCause_leaving _ _ e).symm, after⟩
      | ok v =>
          have opposite : (Value.sequence [.boolean !v.isTruthy]).isTruthy = (!wanted) ↔
              v.isTruthy = wanted := Bool.not_inj_iff
          dsimp only [Operators.anyIs]
          rw [Act.bind_ok ran, Act.bind_ok ran']
          by_cases found : v.isTruthy = wanted
          · rw [if_pos found, if_pos (opposite.2 found)]
            exact ⟨rfl, after⟩
          · rw [if_neg found, if_neg fun found' => found (opposite.1 found')]
            exact ih later after

/-! ## The two terms -/

theorem evalAt_junction (settings : Settings) (levels : Nat) (site : Site) (wanted : Bool)
    {operands : List Operand} (some_ : operands ≠ []) {s : State}
    (hosted : s.world.registry.hosts (.junction wanted) = true) :
    let t : Term := .mk (.builtin (.junction wanted)) operands
    let ran := Operators.anyIs (evalAt settings levels) site t wanted t.positions
      ⟨s.memory, s.world.note (.dispatched site.depth t)⟩
    evalAt settings (levels + 1) site t s =
      ((ran.1.map fun found => .boolean (found == wanted)).mapError (·.leaving site t), ran.2) := by
  intro t ran
  have dispatched : dispatch settings (evalAt settings levels) site t s =
      Act.mapError (·.leaving site t)
        ((Builtin.junction wanted).run settings (evalAt settings levels) site t)
        ⟨s.memory, s.world.note (.dispatched site.depth t)⟩ := dispatch_builtin rfl hosted
  have arity : checkArity t (.atLeast 1) = pure () :=
    checkArity_of_admits (decide_eq_true (List.length_pos_iff.2 some_))
  have run : (Builtin.junction wanted).run settings (evalAt settings levels) site t =
      Operators.anyIs (evalAt settings levels) site t wanted t.positions >>= fun found =>
        pure (.boolean (found == wanted)) := by
    rw [Builtin.run_junction, arity]
    rfl
  rw [evalAt_succ, dispatched, Act.mapError_apply, run]
  rcases searched : ran with ⟨e | found, s'⟩
  · rw [Act.bind_error searched]
    rfl
  · rw [Act.bind_ok searched]
    rfl

/-- A junction one level down, and the search among the denied operands of the other one. -/
theorem junction_denied (settings : Settings) (levels : Nat) (site : Site) (wanted : Bool)
    {operands : List Operand} (some_ : operands ≠ []) (filled : ∀ i, .placeholder i ∉ operands)
    {u : Term} (denied : u.operands = operands.map fun o => .nested o.denied) {s s' : State}
    (hosted : s.world.registry.hosts (.junction wanted) = true) (sides : s.Sides operands s') :
    let one := evalAt settings levels site.deeper (.mk (.builtin (.junction wanted)) operands) s
    let other := Operators.anyIs (evalAt settings levels) site u (!wanted) u.positions s'
    one.1.mapError EvalError.rootCause =
        (other.1.map fun found => .boolean (found == wanted)).mapError EvalError.rootCause ∧
      one.2.Sides operands other.2 := by
  intro one other
  have count : u.arity = operands.length := by
    unfold Term.arity
    rw [denied, List.length_map]
  cases levels with
  | zero =>
      -- both come to the limit, the search at its first operand
      obtain ⟨o, rest, rfl⟩ := List.exists_cons_of_ne_nil some_
      have first : u.operand? 0 = some (.nested o.denied) := by
        unfold Term.operand?
        rw [denied]
        rfl
      have positions : u.positions = 0 :: (List.range rest.length).map Nat.succ := by
        unfold Term.positions
        rw [count]
        exact List.range_succ_eq_map
      have limited : resolve (evalAt settings 0) site u 0 s' =
          (.error (.recursionLimit settings.maxDepth),
            ⟨s'.memory.setChild 0 (s'.memory.child 0), s'.world⟩) := resolve_nested first s'
      have stopped : other = (.error (.recursionLimit settings.maxDepth),
          ⟨s'.memory.setChild 0 (s'.memory.child 0), s'.world⟩) := by
        show Operators.anyIs _ _ _ _ u.positions s' = _
        rw [positions]
        exact Act.bind_error limited _
      rw [stopped]
      refine ⟨rfl, sides.worlds, sides.hosted, fun p bound => ?_⟩
      rw [Memory.child_setChild]
      split
      · rename_i here
        exact here ▸ sides.memory p bound
      · exact sides.memory p bound
  | succ levels =>
      let t : Term := .mk (.builtin (.junction wanted)) operands
      let noted := s.world.note (.dispatched site.deeper.depth t)
      have entered : State.Sides operands ⟨s.memory, noted⟩ s' :=
        ⟨sides.worlds.of_noted _, sides.hosted, sides.memory⟩
      have searched : one = _ := evalAt_junction settings levels site.deeper wanted some_ hosted
      have searched' : other = Operators.anyIs (evalAt settings (levels + 1)) site u (!wanted)
          t.positions s' := by
        show Operators.anyIs _ _ _ _ u.positions s' = _
        rw [show u.positions = t.positions from congrArg List.range count]
      have inside (p : Nat) (member : p ∈ t.positions) : p < operands.length :=
        List.mem_range.1 member
      obtain ⟨ends, after⟩ :=
        anyIs_denied settings levels site wanted (t := t) rfl denied filled inside entered
      rw [searched, searched']
      refine ⟨?_, after⟩
      rw [EvalError.mapError_leaving_rootCause]
      exact EvalError.map_sameCause _ ends

/-- **De Morgan's law, with effects.**  A denied junction and the other junction of the denied
operands both have the same boolean or both fail by the same cause, and they leave the same fact,
the same registry, and in every operand the same memory.  This is so for operands that do anything
whatever, by any settings and at any depth, wherever the logical operators are hosted. -/
theorem deMorgan (wanted : Bool) {operands : List Operand} (some_ : operands ≠ [])
    (filled : ∀ i, .placeholder i ∉ operands) (settings : Settings) (levels : Nat) (site : Site)
    {w : World} (hosted : ∀ b ∈ [Builtin.and, .or, .not], w.registry.hosts b = true)
    {m m' : Memory}
    (same : ∀ p < operands.length, (m.child 0).child p = (m'.child p).child 0) :
    let denied : Term := .mk (.builtin .not)
      [.nested (.mk (.builtin (.junction wanted)) operands)]
    let spread : Term := .mk (.builtin (.junction !wanted))
      (operands.map fun o => .nested (.mk (.builtin .not) [o]))
    let one := evalAt settings levels site denied ⟨m, w⟩
    let other := evalAt settings levels site spread ⟨m', w⟩
    one.1.mapError EvalError.rootCause = other.1.mapError EvalError.rootCause ∧
      (∀ v, one.1 = .ok v → ∃ b, v = .boolean b) ∧
      one.2.world.fact = other.2.world.fact ∧
      one.2.world.registry = other.2.world.registry ∧
      one.2.world.nextGeneration = other.2.world.nextGeneration ∧
      ∀ p < operands.length, (one.2.memory.child 0).child p = (other.2.memory.child p).child 0 := by
  intro denied spread one other
  cases levels with
  | zero => exact ⟨rfl, nofun, rfl, rfl, rfl, same⟩
  | succ levels =>
      let junction : Term := .mk (.builtin (.junction wanted)) operands
      let entered : World := w.note (.dispatched site.depth denied)
      let entered' : World := w.note (.dispatched site.depth spread)
      have junctions (b : Bool) : w.registry.hosts (.junction b) = true := by
        cases b
        · exact hosted .and (by decide)
        · exact hosted .or (by decide)
      have sides : State.Sides operands ⟨m.child 0, entered⟩ ⟨m', entered'⟩ :=
        ⟨.of_note w _ _, hosted .not (by decide), same⟩
      let ran := evalAt settings levels site.deeper junction ⟨m.child 0, entered⟩
      let searched := Operators.anyIs (evalAt settings levels) site spread (!wanted)
        spread.positions ⟨m', entered'⟩
      have left : one = (((ran.1.map Value.normalized).map fun v => .boolean !v.isTruthy).mapError
          (·.leaving site denied), ⟨m.setChild 0 ran.2.memory, ran.2.world⟩) :=
        evalAt_denied_nested settings levels site junction (s := ⟨m, w⟩) (hosted .not (by decide))
      have right : other = ((searched.1.map fun found => .boolean (found == !wanted)).mapError
          (·.leaving site spread), searched.2) :=
        evalAt_junction settings levels site (!wanted) (s := ⟨m', w⟩)
          (fun none_ => some_ (List.map_eq_nil_iff.1 none_)) (junctions !wanted)
      obtain ⟨ends, after⟩ : ran.1.mapError EvalError.rootCause =
            (searched.1.map fun found => .boolean (found == wanted)).mapError
              EvalError.rootCause ∧
          ran.2.Sides operands searched.2 :=
        junction_denied settings levels site wanted some_ filled rfl (junctions wanted) sides
      rw [left, right]
      obtain ⟨fact, registry, next⟩ := after.worlds.parts
      refine ⟨?result, ?boolean, fact, registry, next, fun p bound => ?memory⟩
      case result =>
        have opposite (found : Bool) : (!(found == wanted)) = (found == !wanted) := by
          cases found <;> cases wanted <;> rfl
        rw [EvalError.mapError_leaving_rootCause, EvalError.mapError_leaving_rootCause,
          EvalError.map_sameCause _ (EvalError.map_sameCause Value.normalized ends)]
        cases searched.1 with
        | error e => rfl
        | ok found => exact congrArg (fun b => Except.ok (Value.boolean b)) (opposite found)
      case boolean =>
        intro v
        cases ran.1 with
        | error e => exact nofun
        | ok x => exact fun given => ⟨_, (Except.ok.inj given).symm⟩
      case memory =>
        rw [Memory.child_setChild_self]
        exact after.memory p bound

/-- Both assign to a field once: the second operand is false, so that neither gets to the
third. -/
theorem deMorgan_assigns :
    let assign (n : Int64) : Operand :=
      .nested (.mk (.builtin .assign) [.field "k", .literal (.integer n)])
    let operands : List Operand := [assign 1, .field "missing", assign 2]
    let w : World := { fact := .memory [] }
    let one := evalAt {} 3 ⟨[], 0⟩ (.mk (.builtin .not) [.nested (.mk (.builtin .and) operands)])
      ⟨.blank, w⟩
    let other := evalAt {} 3 ⟨[], 0⟩
      (.mk (.builtin .or) (operands.map fun o => .nested (.mk (.builtin .not) [o]))) ⟨.blank, w⟩
    operands ≠ [] ∧ (∀ i, .placeholder i ∉ operands) ∧
      (∀ b ∈ [Builtin.and, .or, .not], w.registry.hosts b = true) ∧
      (∀ p < operands.length, ((Memory.blank.child 0).child p) = (Memory.blank.child p).child 0) ∧
      other.1.mapError EvalError.rootCause = .ok (.boolean true) ∧
      other.2.world.fact = .memory [("k", [.integer 1])] ∧
      one.2.world.fact = other.2.world.fact := by
  intro assign operands w one other
  have filled (i : UInt64) : .placeholder i ∉ operands := by simp [operands, assign]
  have hosted : ∀ b ∈ [Builtin.and, .or, .not], w.registry.hosts b = true :=
    fun b _ => Registry.standard_hosts b
  have same : ∀ p < operands.length,
      (Memory.blank.child 0).child p = (Memory.blank.child p).child 0 := fun p _ => by simp
  obtain ⟨ends, -, fact, -, -, -⟩ :=
    deMorgan false (List.cons_ne_nil _ _) filled {} 3 ⟨[], 0⟩ hosted same
  have found : one.1.mapError EvalError.rootCause = .ok (.boolean true) := rfl
  have left : one.2.world.fact = .memory [("k", [.integer 1])] := rfl
  exact ⟨List.cons_ne_nil _ _, filled, hosted, same, ends.symm.trans found, fact.symm.trans left,
    fact⟩

end FactScan
