/-
# FactScan.Proofs.Tracing.Watching — watched operands

To say what `traced` shows one has to say which evaluations there were.  Here they are
observed: an evaluator that knows marked terms (`watch`) evaluates what a mark is put on, in its
place and on its memory, and notes the value.  Marks are put on any set of nested operands of a
term (`Spots`, `Term.wrapped`), and so is `traced`, which makes a term of its own around the
operand, one level up and with a memory of its own.  Bodies of `defn` are data and stay as they
are.

* `Memory.Mirrors`: what a term with `traced` put in remembers, against what the term itself
  remembers.
* `Record.Aligned`: the records that terms ask for, side by side, in a run without marks, in one
  with marks and in one with `traced` in their place.
-/
import FactScan.Proofs.Inlining.Depth
import FactScan.Proofs.Terms

namespace FactScan

set_option autoImplicit false

/-! ## Spots -/

/-- A set of nested operands of a term, each given by the positions on the way to it. -/
abbrev Spots := List Nat → Bool

namespace Spots

def nowhere : Spots := fun _ => false

/-- The spots inside the operand at a position. -/
def under (S : Spots) (p : Nat) : Spots := fun path => S (p :: path)

end Spots

/-- Whether the operand at a position is the body of a definition. -/
def Operator.keepsBody (op : Operator) (p : Nat) : Bool := op == .builtin .define && p == 1

/-- Whether an operand stands at its position as data: as anything but a nested term that is
evaluated there. -/
def Operand.IsData (op : Operator) (p : Nat) (o : Operand) : Prop :=
  op.keepsBody p = true ∨ ∀ u, o ≠ .nested u

section

variable (wrap : Term → Term)

mutual

/-- A term with the nested operands at the spots wrapped up. -/
def Term.wrapped (S : Spots) : Term → Term
  | .mk op operands => .mk op (Operand.listWrapped S op 0 operands)

def Operand.wrapped (S : Spots) (p : Nat) : Operand → Operand
  | .nested u =>
    .nested (if S [p] then wrap (u.wrapped (S.under p)) else u.wrapped (S.under p))
  | o => o

def Operand.listWrapped (S : Spots) (op : Operator) (p : Nat) : List Operand → List Operand
  | [] => []
  | o :: rest =>
    (if op.keepsBody p then o else o.wrapped S p) :: Operand.listWrapped S op (p + 1) rest

end

end

mutual

/-- How many nested operands are wrapped up. -/
def Term.spotCount (S : Spots) : Term → Nat
  | .mk op operands => Operand.listSpotCount S op 0 operands

def Operand.spotCount (S : Spots) (p : Nat) : Operand → Nat
  | .nested u => (if S [p] then 1 else 0) + u.spotCount (S.under p)
  | _ => 0

def Operand.listSpotCount (S : Spots) (op : Operator) (p : Nat) : List Operand → Nat
  | [] => 0
  | o :: rest =>
    (if op.keepsBody p then 0 else o.spotCount S p) + Operand.listSpotCount S op (p + 1) rest

end

/-- Nested terms outside bodies are terms of built-in operators, too. -/
inductive Term.IsBuiltin : Term → Prop
  | mk {b : Builtin} {operands : List Operand} :
      (∀ (p : Nat) (u : Term), operands[p]? = some (.nested u) →
        (Operator.builtin b).keepsBody p = false → IsBuiltin u) →
      IsBuiltin (.mk (.builtin b) operands)

section

variable {wrap : Term → Term} {S : Spots} {op : Operator} {operands : List Operand}

theorem Operand.data_or_entered (p : Nat) (o : Operand) :
    o.IsData op p ∨ ∃ u, o = .nested u ∧ op.keepsBody p = false := by
  rcases o.nested_or_flat with ⟨u, rfl⟩ | flat
  · cases body : op.keepsBody p with
    | true => exact .inl (.inl body)
    | false => exact .inr ⟨u, rfl, rfl⟩
  · exact .inl (.inr flat)

/-- A term that is evaluated stands elsewhere than data. -/
theorem Operand.IsData.ne {p q : Nat} {o : Operand} {u : Term} (data : o.IsData op p)
    (found : operands[p]? = some o) (nested : operands[q]? = some (.nested u))
    (entered : op.keepsBody q = false) : q ≠ p := by
  rintro rfl
  cases found.symm.trans nested
  rcases data with body | flat
  · rw [entered] at body
    cases body
  · exact flat u rfl

theorem Operand.getElem?_listWrapped (p q : Nat) :
    (Operand.listWrapped wrap S op p operands)[q]? = operands[q]?.map fun o =>
      if op.keepsBody (p + q) then o else o.wrapped wrap S (p + q) := by
  induction operands generalizing p q with
  | nil => simp [listWrapped]
  | cons o rest ih =>
      cases q with
      | zero => rfl
      | succ q =>
          rw [listWrapped, List.getElem?_cons_succ, List.getElem?_cons_succ, ih,
            Nat.add_right_comm p 1 q]
          rfl

@[simp] theorem Operand.length_listWrapped (p : Nat) :
    (Operand.listWrapped wrap S op p operands).length = operands.length := by
  induction operands generalizing p with
  | nil => rfl
  | cons o rest ih => rw [listWrapped, List.length_cons, List.length_cons, ih]

theorem Term.operator_wrapped (t : Term) : (t.wrapped wrap S).operator = t.operator := by
  cases t
  rfl

theorem Term.arity_wrapped (t : Term) : (t.wrapped wrap S).arity = t.arity := by
  cases t
  exact Operand.length_listWrapped 0

theorem Term.operand?_wrapped (p : Nat) :
    ((Term.mk op operands).wrapped wrap S).operand? p = operands[p]?.map fun o =>
      if op.keepsBody p then o else o.wrapped wrap S p := by
  show (Operand.listWrapped wrap S op 0 operands)[p]? = _
  rw [Operand.getElem?_listWrapped, Nat.zero_add]

theorem Term.operand?_wrapped_body {p : Nat} (body : op.keepsBody p = true) :
    ((Term.mk op operands).wrapped wrap S).operand? p = operands[p]? := by
  simp [operand?_wrapped, body]

/-- Data stays as it is. -/
theorem Term.operand?_wrapped_data {p : Nat} {o : Operand} (found : operands[p]? = some o)
    (data : o.IsData op p) :
    ((Term.mk op operands).wrapped wrap S).operand? p = some o := by
  rcases data with body | flat
  · rw [operand?_wrapped_body body, found]
  · have unwrapped : o.wrapped wrap S p = o := by
      cases o with
      | nested u => exact absurd rfl (flat u)
      | _ => rfl
    simp [operand?_wrapped, found, unwrapped]

theorem Term.operand?_wrapped_nested {p : Nat} {u : Term}
    (found : operands[p]? = some (.nested u)) (entered : op.keepsBody p = false) :
    ((Term.mk op operands).wrapped wrap S).operand? p = some (.nested
      (if S [p] then wrap (u.wrapped wrap (S.under p)) else u.wrapped wrap (S.under p))) := by
  rw [operand?_wrapped, found, Option.map_some, entered]
  rfl

theorem Term.operand?_wrapped_none {p : Nat} (missing : operands[p]? = none) :
    ((Term.mk op operands).wrapped wrap S).operand? p = none := by
  rw [operand?_wrapped, missing]
  rfl

theorem Operand.spotCount_le_list {q : Nat} {o : Operand} (found : operands[q]? = some o)
    (p : Nat) (entered : op.keepsBody (p + q) = false) :
    o.spotCount S (p + q) ≤ Operand.listSpotCount S op p operands := by
  induction operands generalizing p q with
  | nil => cases found
  | cons first rest ih =>
      rw [listSpotCount]
      cases q with
      | zero =>
          cases found
          rw [Nat.add_zero] at entered
          rw [entered]
          exact Nat.le_add_right _ _
      | succ q =>
          have shifted : p + (q + 1) = p + 1 + q := by omega
          rw [shifted] at entered ⊢
          exact Nat.le_trans (ih (by simpa using found) (p + 1) entered) (Nat.le_add_left _ _)

/-- The spots in and at a nested operand are among those of the term. -/
theorem Term.spotCount_nested_le {p : Nat} {u : Term} (found : operands[p]? = some (.nested u))
    (entered : op.keepsBody p = false) :
    (if S [p] then 1 else 0) + u.spotCount (S.under p) ≤ (Term.mk op operands).spotCount S := by
  have le := Operand.spotCount_le_list (S := S) found 0 (by rwa [Nat.zero_add])
  rw [Nat.zero_add] at le
  exact le

/-- Nothing is changed where nothing is wrapped up. -/
theorem Term.wrapped_eq_self {t : Term} {S : Spots} (still : ∀ path u, S path = true → wrap u = u) :
    t.wrapped wrap S = t := by
  induction t using Term.nested_induction generalizing S with
  | step op operands ih =>
      refine congrArg (Term.mk op) (List.ext_getElem? fun p => ?_)
      rw [Operand.getElem?_listWrapped, Nat.zero_add]
      cases found : operands[p]? with
      | none => rfl
      | some o =>
          rw [Option.map_some]
          split
          · rfl
          · cases o with
            | nested u =>
                have inside : u.wrapped wrap (S.under p) = u :=
                  ih u (List.mem_of_getElem? found) fun path => still (p :: path)
                rw [Operand.wrapped, inside]
                split
                · rename_i spot
                  rw [still [p] u spot]
                · rfl
            | _ => rfl

@[simp] theorem Term.wrapped_id (t : Term) (S : Spots) : t.wrapped id S = t :=
  wrapped_eq_self fun _ _ _ => rfl

@[simp] theorem Term.wrapped_nowhere (t : Term) : t.wrapped wrap .nowhere = t :=
  wrapped_eq_self fun _ _ spot => nomatch spot

end

/-! ## Memories -/

/-- Two memories of a term, the second of them with `traced` put in at the spots: every term
remembers the same, and what a wrapped operand remembers is one level further down. -/
inductive Memory.Mirrors : Spots → Term → Memory → Memory → Prop
  | mk {S : Spots} {op : Operator} {operands : List Operand} {m m' : Memory} :
      m.block = m'.block →
      (∀ (p : Nat) (o : Operand), operands[p]? = some o → o.IsData op p →
        m.child p = m'.child p) →
      (∀ (p : Nat) (u : Term), operands[p]? = some (.nested u) → op.keepsBody p = false →
        Mirrors (S.under p) u (m.child p)
          (if S [p] then (m'.child p).child 0 else m'.child p)) →
      Mirrors S (.mk op operands) m m'

/-- Memories of a term that are related in one way hold, for the operand at a position, memories
that are related in another way, and may take others that are so. -/
structure Memory.Carries (R R' : Memory → Memory → Prop) (p : Nat) : Prop where
  child {m m' : Memory} : R m m' → R' (m.child p) (m'.child p)
  setChild {m m' k k' : Memory} : R m m' → R' k k' → R (m.setChild p k) (m'.setChild p k')

/-- Memories of a term that are related have the same block, whatever block is put there. -/
structure Memory.Tied (R : Memory → Memory → Prop) : Prop where
  block {m m' : Memory} : R m m' → m.block = m'.block
  setBlock {m m' : Memory} (b : Option Block) : R m m' → R (m.setBlock b) (m'.setBlock b)

namespace Memory

theorem carries_eq (p : Nat) : Carries Eq Eq p where
  child same := congrArg (child · p) same
  setChild same same' := by rw [same, same']

theorem tied_eq : Tied Eq where
  block same := congrArg block same
  setBlock b same := congrArg (setBlock · b) same

namespace Mirrors

variable {S : Spots} {op : Operator} {operands : List Operand}

/-- Terms that remember nothing yet. -/
theorem blank (S : Spots) (t : Term) : Mirrors S t .blank .blank := by
  induction t using Term.nested_induction generalizing S with
  | step op operands ih =>
      refine .mk rfl (fun _ _ _ _ => rfl) fun p u found _ => ?_
      simpa using ih u (List.mem_of_getElem? found) (S.under p)

theorem tied : Tied (Mirrors S (.mk op operands)) where
  block mirrors := by
    cases mirrors with
    | mk block _ _ => exact block
  setBlock b mirrors := by
    cases mirrors with
    | mk _ data nested => exact .mk rfl data nested

theorem carries_data {p : Nat} {o : Operand} (found : operands[p]? = some o)
    (data : o.IsData op p) : Carries (Mirrors S (.mk op operands)) Eq p where
  child mirrors := by
    cases mirrors with
    | mk _ same _ => exact same p o found data
  setChild {m m' k k'} mirrors same := by
    subst same
    cases mirrors with
    | mk block others nested =>
        refine .mk block (fun q o' found' data' => ?_) fun q u found' entered => ?_
        · rw [child_setChild, child_setChild]
          split
          · rfl
          · exact others q o' found' data'
        · have other : q ≠ p := data.ne found found' entered
          rw [child_setChild, child_setChild, if_neg other, if_neg other]
          exact nested q u found' entered

theorem carries_nested {p : Nat} {u : Term} (found : operands[p]? = some (.nested u))
    (entered : op.keepsBody p = false) :
    Carries (Mirrors S (.mk op operands))
      (fun k k' => Mirrors (S.under p) u k (if S [p] then k'.child 0 else k')) p where
  child mirrors := by
    cases mirrors with
    | mk _ _ nested => exact nested p u found entered
  setChild {m m' k k'} mirrors inside := by
    cases mirrors with
    | mk block data nested =>
        refine .mk block (fun q o found' data' => ?_) fun q u' found' entered' => ?_
        · have other : q ≠ p := (data'.ne found' found entered).symm
          rw [child_setChild, child_setChild, if_neg other, if_neg other]
          exact data q o found' data'
        · by_cases here : q = p
          · subst here
            cases found.symm.trans found'
            rw [child_setChild_self, child_setChild_self]
            exact inside
          · rw [child_setChild_ne _ (Ne.symm here), child_setChild_ne _ (Ne.symm here)]
            exact nested q u' found' entered'

end Mirrors

end Memory

/-! ## Watching -/

namespace Term

/-- `(traced u)`. -/
def tracedOf (u : Term) : Term := .mk (.builtin .traced) [.nested u]

/-- A mark on a term, which reads as a `traced` with too many operands. -/
def watchedOf (u : Term) : Term := .mk (.builtin .traced) [.nested u, .field "watched"]

end Term

/-- Evaluate a term, marked or not: the value of what is marked is noted. -/
def watch (level : Level) (evaluate : Evaluator) (site : Site) : Term → Act Value
  | .mk (.builtin .traced) [.nested u, .field "watched"] => do
    let v ← watch level evaluate site u
    Act.note (.traced level u.watchedOf v)
    return v
  | t => evaluate site t

/-- Evaluate terms with so many levels left, under marks.  A mark takes no level. -/
def watchAt (settings : Settings) : Nat → Evaluator
  | 0 => fun _ _ => Act.fail (.recursionLimit settings.maxDepth)
  | levels + 1 => watch settings.traceLevel (dispatch settings (watchAt settings levels))

section

variable {level : Level} {evaluate : Evaluator} {site : Site}

theorem watch_watchedOf (u : Term) :
    watch level evaluate site u.watchedOf = (do
      let v ← watch level evaluate site u
      Act.note (.traced level u.watchedOf v)
      return v) := by
  unfold Term.watchedOf
  rw [watch]
  rfl

/-- A term that `traced` would not refuse is not marked. -/
theorem watch_unmarked {t : Term} (unmarked : t.operator = .builtin .traced → t.arity = 1) :
    watch level evaluate site t = evaluate site t := by
  rw [watch]
  rintro u rfl
  cases unmarked rfl

end

/-- A mark has the value of what it is put on, which it notes. -/
theorem watchAt_watchedOf {settings : Settings} {levels : Nat} {site : Site} {u : Term}
    {s s' : State} {v : Value} (ran : watchAt settings levels site u s = (.ok v, s')) :
    watchAt settings levels site u.watchedOf s =
      (.ok v, { s' with world := s'.world.note (.traced settings.traceLevel u.watchedOf v) }) := by
  cases levels with
  | zero => cases ran
  | succ levels =>
      rw [watchAt, watch_watchedOf]
      exact Act.bind_ok ran _

/-- `traced` has the value of its nested term, which it shows. -/
theorem evalAt_tracedOf {settings : Settings} {levels : Nat} {site : Site} {u : Term}
    {s s' : State} {v : Value} (hosted : s.world.registry.hosts .traced = true)
    (ran : evalAt settings levels site.deeper u
      ⟨s.memory.child 0, s.world.note (.dispatched site.depth u.tracedOf)⟩ = (.ok v, s')) :
    evalAt settings (levels + 1) site u.tracedOf s =
      (.ok v, ⟨s.memory.setChild 0 s'.memory,
        s'.world.note (.traced settings.traceLevel u.tracedOf v)⟩) := by
  let noted : State := { s with world := s.world.note (.dispatched site.depth u.tracedOf) }
  have child : Operators.tracedValue (evalAt settings levels) site u.tracedOf noted =
      (.ok v, ⟨s.memory.setChild 0 s'.memory, s'.world⟩) := by
    show Act.atChild 0 (evalAt settings levels site.deeper u) noted = _
    rw [Act.atChild_apply, ran]
  have arity : checkArity u.tracedOf (.exactly 1) = pure () := checkArity_of_admits rfl
  rw [evalAt_succ, dispatch_builtin rfl hosted, Act.mapError_ok]
  show Operators.traced _ site u.tracedOf settings.traceLevel noted = _
  unfold Operators.traced
  rw [arity]
  exact Act.bind_ok child _

/-- Only a `traced` with one operand has a value. -/
theorem dispatch_traced_arity {settings : Settings} {evaluate : Evaluator} {site : Site}
    {t : Term} {s s' : State} {v : Value} (isTraced : t.operator = .builtin .traced)
    (ran : dispatch settings evaluate site t s = (.ok v, s')) : t.arity = 1 := by
  rw [dispatch_builtin isTraced (hosts_of_dispatch isTraced ran)] at ran
  obtain ⟨⟨⟩, s₁, checked, -⟩ := Act.bind_eq_ok (Act.mapError_ok.1 ran)
  unfold checkArity at checked
  split at checked
  · rename_i admitted
    simpa [Arity.admits] using admitted
  · cases checked

/-! ## Records -/

/-- The records that terms ask for in three runs of one term: as it is, with marks at some spots
and with `traced` in their place.  A term's own record is made in all three; one more is made
for every mark, with the value noted there, if `traced` is in its place. -/
inductive Record.Aligned : List Record → List Record → List Record → Prop
  | none : Aligned [] [] []
  | own {plain watched traced : List Record} (level : Level) (S : Spots) (t : Term) (v : Value) :
      Aligned plain watched traced →
      Aligned (.traced level t v :: plain)
        (.traced level (t.wrapped .watchedOf S) v :: watched)
        (.traced level (t.wrapped .tracedOf S) v :: traced)
  | spot {plain watched traced : List Record} (level : Level) (S : Spots) (u : Term) (v : Value) :
      Aligned plain watched traced →
      Aligned plain
        (.traced level (u.wrapped .watchedOf S).watchedOf v :: watched)
        (.traced level (u.wrapped .tracedOf S).tracedOf v :: traced)

/-! ## Scans -/

/-- A scan by a given evaluator. -/
def Instance.scanWith (evaluate : Evaluator) (rows : List Row) : List Fact → Instance → World →
    ScanResult
  | [], i, w => ⟨.ok [], i, [], w⟩
  | fact :: facts, i, w =>
    match evaluate ⟨rows, 0⟩ i.term ⟨i.memory, { w with fact }⟩ with
    | (.error e, s) => ⟨.error e, ⟨i.term, s.memory⟩, s.world.fact :: facts, s.world⟩
    | (.ok v, s) =>
      (Instance.scanWith evaluate rows facts ⟨i.term, s.memory⟩ s.world).after v s.world.fact

section

variable {evaluate : Evaluator} {rows : List Row} {fact : Fact} {facts : List Fact}
variable {i : Instance} {w : World} {s : State}

/-- The values of a scan that succeeds, after the first. -/
theorem ScanResult.after_ok {v : Value} {rest : ScanResult} {values : List Value}
    (succeeded : (rest.after v fact).values = .ok values) :
    ∃ vs, rest.values = .ok vs ∧ v :: vs = values := by
  cases of_rest : rest.values with
  | error e =>
      rw [after, of_rest] at succeeded
      cases succeeded
  | ok vs =>
      rw [after, of_rest] at succeeded
      cases succeeded
      exact ⟨vs, rfl, rfl⟩

theorem Instance.scanWith_ok {v : Value}
    (ran : evaluate ⟨rows, 0⟩ i.term ⟨i.memory, { w with fact }⟩ = (.ok v, s)) :
    i.scanWith evaluate rows (fact :: facts) w =
      (Instance.scanWith evaluate rows facts ⟨i.term, s.memory⟩ s.world).after v s.world.fact := by
  rw [scanWith, ran]

theorem Instance.scanWith_error {e : EvalError}
    (ran : evaluate ⟨rows, 0⟩ i.term ⟨i.memory, { w with fact }⟩ = (.error e, s)) :
    i.scanWith evaluate rows (fact :: facts) w =
      ⟨.error e, ⟨i.term, s.memory⟩, s.world.fact :: facts, s.world⟩ := by
  rw [scanWith, ran]

end

/-- A scan is one by the evaluator of its settings. -/
theorem Instance.scan_eq_scanWith (settings : Settings) (rows : List Row) (facts : List Fact)
    (i : Instance) (w : World) :
    i.scan settings rows facts w =
      i.scanWith (evalAt settings (settings.maxDepth + 1)) rows facts w := by
  induction facts generalizing i w with
  | nil => rfl
  | cons fact facts ih =>
      rcases ran : FactScan.evaluate settings rows i.term ⟨i.memory, { w with fact }⟩ with
        ⟨e | v, s⟩
      · rw [scan_error ran, scanWith_error ran]
      · rw [scan_ok ran, scanWith_ok ran, ih]

/-- The records that terms asked for between two moments, the latest first. -/
def World.tracedSince (before after : World) : List Record :=
  (before.since after).filter (·.isTraced)

end FactScan
