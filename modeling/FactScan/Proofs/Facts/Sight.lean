/-
# FactScan.Proofs.Facts.Sight — facts and rows that an evaluation cannot tell apart

An evaluation looks only at the fields it can name, so it comes out the same against facts
that agree on those fields and over rows that do.  What it can tell apart is a `Sight`: the
fields that are named, and which rows count as alike, which functions of a host have to
respect.

* `Builtin.run_over`: the operators of rows see only the values of the fields they name;
* `evalAt_alike`: evaluations of one term in states that differ only in facts that agree, over
  rows that are alike, have one result and leave such states again.
-/
import FactScan.Proofs.Facts.Reading
import FactScan.Proofs.Facts.Vocabulary

namespace FactScan

set_option autoImplicit false

/-- The fields that are looked at, and the rows that look alike. -/
structure Sight where
  field : String → Prop
  row : Row → Row → Prop
  agree {r r' : Row} : row r r' → r.AgreeOn field r'

/-- Terms may name any operator and the fields that are looked at. -/
def Sight.vocabulary (S : Sight) : Vocabulary where
  field := S.field

/-- All fields are looked at, and no two rows look alike. -/
def Sight.whole : Sight where
  field _ := True
  row := Eq
  agree same _ _ := same ▸ rfl

variable {S : Sight}

/-- A function of the host that cannot tell more apart. -/
def Native.SeesOnly (S : Sight) (run : Native) : Prop :=
  ∀ {args x x' rows rows'}, Fact.AgreeOn S.field x x' → List.Forall₂ S.row rows rows' →
    run args x rows = run args x' rows'

def Registry.SeesOnly (S : Sight) (r : Registry) : Prop :=
  ∀ d ∈ r.custom, ∀ run, d.body = .native run → run.SeesOnly S

/-- An evaluation adds no functions of the host. -/
theorem World.seesOnly_lasting {appends : String → Prop} {operators : Builtin → Prop} :
    Lasting (fun w w' => w.registry.SeesOnly S → w'.registry.SeesOnly S) appends operators where
  refl _ := id
  trans first second := second ∘ first
  note _ _ _ := id
  append _ _ := id
  against sees := sees
  define _ made sees := forall_define sees made fun _ is => by cases is
  undefine _ done sees := forall_undefine sees done

/-! ## States that differ in the fact -/

/-- The world with another fact. -/
def World.facing (w : World) (x : Fact) : World := { w with fact := x }

def State.facing (s : State) (x : Fact) : State := { s with world := s.world.facing x }

@[simp] theorem State.memory_facing (s : State) (x : Fact) : (s.facing x).memory = s.memory := rfl

@[simp] theorem State.world_facing (s : State) (x : Fact) :
    (s.facing x).world = s.world.facing x := rfl

/-- States in which one term is evaluated and which differ at most in facts that agree. -/
structure State.Alike (S : Sight) (t : Term) (s s' : State) : Prop where
  uses : s.UsesOnly S.vocabulary t
  sees : s.world.registry.SeesOnly S
  facing : ∃ x', s' = s.facing x' ∧ s.world.fact.AgreeOn S.field x'

namespace World

/-- Definitions are made whatever the fact. -/
theorem define_facing (w : World) (x : Fact) (d : Definition) :
    (w.facing x).define d = (w.define d).map (·.facing x) := by
  have same : (w.facing x).registry = w.registry := rfl
  rw [define_apply, define_apply, same]
  rcases Registry.checkName d.name with e | ⟨⟩
  · rfl
  · cases w.registry.lookup? d.name <;> rfl

theorem undefine_facing (w : World) (x : Fact) (name : String) :
    (w.facing x).undefine name = (w.undefine name).map fun v => (v.1.facing x, v.2) := by
  have removing : (w.facing x).removing name = (w.removing name).facing x := by
    unfold World.removing facing
    dsimp only
    split <;> rfl
  rw [undefine_apply, undefine_apply]
  cases Builtin.ofName? name with
  | some b => rfl
  | none =>
      dsimp only
      rw [removing]
      rfl

end World

namespace Act.Respects

variable {t : Term} {α : Type}

/-- For an act that keeps to the vocabulary, only the states without their facts are left to
compare. -/
theorem of_keeps {act : Bool → Act α}
    (keeps : KeepsWithin S.vocabulary
      (fun w w' => w.registry.SeesOnly S → w'.registry.SeesOnly S) t α fun _ => act true)
    (alike : ∀ (s : State) (x' : Fact), s.world.fact.AgreeOn S.field x' →
      ∃ y', act false (s.facing x') = ((act true s).1, (act true s).2.facing y') ∧
        (act true s).2.world.fact.AgreeOn S.field y') :
    Respects (State.Alike S t) α act := by
  rintro s _ ⟨uses, sees, x', rfl, agree⟩
  obtain ⟨after, lasted⟩ := keeps s uses
  obtain ⟨y', same, agree'⟩ := alike s x' agree
  refine ⟨by rw [same], after, lasted sees, y', by rw [same], agree'⟩

/-- What the facts were before does not matter. -/
theorem against_alike {x x' : Fact} (agree : x.AgreeOn S.field x') (s s' : State)
    (alike : s.Alike S t s') : (s.facing x).Alike S t (s'.facing x') := by
  obtain ⟨uses, sees, y, rfl, -⟩ := alike
  exact ⟨⟨uses.memory, uses.registry⟩, sees, x', rfl, agree⟩

theorem closed_alike (t : Term) : Closed (Respects (State.Alike S t)) := by
  refine closed (F := Fact.AgreeOn S.field) ⟨fun row x x' => .overlay fun _ _ => rfl, .refl _⟩
    (fun s s' alike => ?_) against_alike
  obtain ⟨-, -, x', rfl, agree⟩ := alike
  exact agree

theorem looks_alike {name : String} (named : S.field name) (t : Term) :
    Looks (Respects (State.Alike S t)) name := by
  refine looks (fun s s' alike => ?_) fun s s' alike => ?_
  · obtain ⟨-, -, x', rfl, agree⟩ := alike
    exact agree.read named
  · obtain ⟨-, -, x', rfl, agree⟩ := alike
    exact agree.holds named

/-- The steps that only some operators take. -/
theorem permitted_alike (term : t.UsesOnly S.vocabulary) (level : Level) {b : Builtin}
    (operator : t.operator = .builtin b) :
    b.Permitted (Respects (State.Alike S t)) level fun _ => t := by
  have keeps := KeepsWithin.permitted (World.seesOnly_lasting (S := S)) term level operator
    fun _ _ => trivial
  refine ⟨fun is v => .of_keeps (keeps.exchange is v) fun s x' agree => ⟨x', rfl, agree⟩,
    fun is keys => .of_keeps (keeps.collect is keys) fun s x' agree => ⟨x', rfl, agree⟩,
    fun is source => .of_keeps (keeps.pattern is source) fun s x' agree => ?pattern,
    fun is field named a => .of_keeps (keeps.append is field (fun _ => named true) a)
      fun s x' agree => ?append,
    fun is => .of_keeps (keeps.define is) fun s x' agree => ?define,
    fun is name => .of_keeps (keeps.undefine is name) fun s x' agree => ?undefine,
    fun is k n => .of_keeps (keeps.kept is k n) fun s x' agree => ⟨x', rfl, agree⟩,
    fun is v => .of_keeps (keeps.traced is v) fun s x' agree => ⟨x', rfl, agree⟩⟩
  case pattern =>
    refine ⟨x', ?_⟩
    rw [Operators.patternOf_eq, Operators.patternOf_eq]
    cases Pattern.ofSource source with
    | ok p => exact ⟨rfl, agree⟩
    | error e => exact ⟨rfl, agree⟩
  case append =>
    have named : S.field field := term.field (named true)
    have facing : (s.facing x').world.fact = x' := rfl
    unfold Act.append
    rw [facing]
    cases appended : s.world.fact.append? field a with
    | some y =>
        obtain ⟨y', appended', agree'⟩ := agree.append named appended
        rw [appended']
        exact ⟨y', rfl, agree'⟩
    | none =>
        rw [agree.append_none appended]
        exact ⟨x', rfl, agree⟩
  case define =>
    refine ⟨x', ?_⟩
    rcases Operators.define_cases t with ⟨e, -, run⟩ | ⟨name, body, -, run⟩
    · rw [run, run]
      exact ⟨rfl, agree⟩
    · rw [run, run, State.world_facing, State.memory_facing, World.define_facing]
      cases made : s.world.define (.ofTerm name ⟨body, s.memory.child 1⟩) with
      | ok v =>
          refine ⟨rfl, ?_⟩
          show v.fact.AgreeOn S.field x'
          rw [World.fact_of_define made]
          exact agree
      | error e => exact ⟨rfl, agree⟩
  case undefine =>
    refine ⟨x', ?_⟩
    unfold Act.change
    dsimp only
    rw [State.world_facing, World.undefine_facing]
    cases done : s.world.undefine name with
    | ok r =>
        refine ⟨rfl, ?_⟩
        show r.1.fact.AgreeOn S.field x'
        rw [World.fact_of_undefine done]
        exact agree
    | error e => exact ⟨rfl, agree⟩

theorem note_alike (t : Term) (r : Record) :
    Respects (State.Alike S t) Unit fun _ => Act.note r := by
  rintro s _ ⟨uses, sees, x', rfl, agree⟩
  exact ⟨rfl, ⟨uses.memory, uses.registry⟩, sees, x', rfl, agree⟩

/-- A carried term, evaluated on its own memory. -/
theorem atChild_alike {p : Nat} {c : Term}
    (carried : (t.operand? p).bind Operand.carried? = some c) {act : Bool → Act α}
    (inside : Respects (State.Alike S c) α act) :
    Respects (State.Alike S t) α fun first => Act.atChild p (act first) := by
  rintro s _ ⟨uses, sees, x', rfl, agree⟩
  have entered : State.Alike S c { s with memory := s.memory.child p }
      { s.facing x' with memory := s.memory.child p } :=
    ⟨⟨uses.memory.child carried, uses.registry⟩, sees, x', rfl, agree⟩
  obtain ⟨result, uses', sees', y', same, agree'⟩ := inside _ _ entered
  dsimp only
  rw [atChild_apply, atChild_apply, State.memory_facing, same]
  exact ⟨result, ⟨uses.memory.setChild carried uses'.memory, uses'.registry⟩, sees', y', rfl,
    agree'⟩

theorem counterparts_alike {evaluate : Bool → Evaluator}
    (below : ∀ site c, c.UsesOnly S.vocabulary →
      Respects (State.Alike S c) Value fun first => evaluate first site c)
    (term : t.UsesOnly S.vocabulary) (depth : Nat) :
    Counterparts (Respects (State.Alike S t)) evaluate (fun _ => depth) fun _ => t :=
  .ofTerm (fun _ c carried _ => atChild_alike carried (below _ c (term.carried carried)))
    (fun _ _ at_ => looks_alike (term.field at_) t) (fun _ => .fail _) fun _ _ => .fail _

end Act.Respects

/-! ## Rows -/

/-- The values of a field over the rows. -/
def valuesOf (rows : List Row) (field : String) : List Value := rows.map (·.read field)

theorem column_eq (rows : List Row) (field : String) :
    column rows field = (valuesOf rows field).flatMap Value.items := by
  rw [column, valuesOf, List.flatMap_map]

theorem length_filter_holds (rows : List Row) (field : String) :
    (rows.filter (·.holds field)).length =
      ((valuesOf rows field).filter fun v => !v.isNil).length := by
  rw [valuesOf, List.filter_map, List.length_map]
  rfl

theorem elementAt?_valuesOf (rows : List Row) (field : String) (index : Int64) :
    elementAt? (valuesOf rows field) index = (elementAt? rows index).map (·.read field) := by
  unfold elementAt? valuesOf
  split
  · rfl
  · rw [List.getElem?_map]

theorem valuesOf_eq {rows rows' : List Row} (agree : List.Forall₂ (Row.AgreeOn S.field) rows rows')
    {field : String} (named : S.field field) : valuesOf rows field = valuesOf rows' field := by
  induction agree with
  | nil => rfl
  | cons first _ ih => exact congrArg₂ List.cons (first field named) ih

/-- The evaluator that evaluates everything over the same rows. -/
def Evaluator.over (evaluate : Evaluator) (rows : List Row) : Evaluator :=
  fun site => evaluate ⟨rows, site.depth⟩

section

variable {evaluate : Evaluator} {rows rows' : List Row} {depth : Nat} {t : Term}

theorem resolve_over (p : Nat) :
    resolve evaluate ⟨rows', depth⟩ t p = resolve (evaluate.over rows') ⟨rows, depth⟩ t p := rfl

theorem anyIs_over (wanted : Bool) (ps : List Nat) :
    Operators.anyIs evaluate ⟨rows', depth⟩ t wanted ps =
      Operators.anyIs (evaluate.over rows') ⟨rows, depth⟩ t wanted ps := by
  induction ps with
  | nil => rfl
  | cons p ps ih => rw [Operators.anyIs, Operators.anyIs, ih, resolve_over]

theorem resolveAll_over (ps : List Nat) :
    resolveAll evaluate ⟨rows', depth⟩ t ps =
      resolveAll (evaluate.over rows') ⟨rows, depth⟩ t ps := by
  induction ps with
  | nil => rfl
  | cons p ps ih => rw [resolveAll, resolveAll, ih, resolve_over]

/-- What follows on a field operand matters only for fields that are looked at. -/
theorem fieldName_congr {α : Type} (term : t.UsesOnly S.vocabulary) (p : Nat)
    {f f' : String → Act α} (same : ∀ name, S.field name → f name = f' name) :
    (fieldName t p >>= f) = (fieldName t p >>= f') := by
  unfold fieldName
  split
  · rename_i name at_
    exact same name (term.field at_)
  · rfl

variable (agree : List.Forall₂ (Row.AgreeOn S.field) rows rows') (term : t.UsesOnly S.vocabulary)
include agree term

theorem sumFields_over (ps : List Nat) : ∀ total,
    Operators.sumFields ⟨rows', depth⟩ t total ps =
      Operators.sumFields ⟨rows, depth⟩ t total ps := by
  induction ps with
  | nil => exact fun total => rfl
  | cons p ps ih =>
      intro total
      refine fieldName_congr term p fun name named => ?_
      dsimp only
      rw [column_eq, column_eq, valuesOf_eq agree named]
      exact congrArg _ (funext ih)

theorem extreme_over (wanted : Ordering) :
    Operators.extreme ⟨rows', depth⟩ t wanted = Operators.extreme ⟨rows, depth⟩ t wanted := by
  unfold Operators.extreme
  refine congrArg _ (funext fun _ => fieldName_congr term 0 fun name named => ?_)
  rw [column_eq, column_eq, valuesOf_eq agree named]

theorem count_over : Operators.count ⟨rows', depth⟩ t = Operators.count ⟨rows, depth⟩ t := by
  unfold Operators.count
  refine congrArg _ (funext fun _ => ?_)
  split
  · rw [agree.length_eq]
  · refine fieldName_congr term 0 fun name named => ?_
    rw [length_filter_holds, length_filter_holds, valuesOf_eq agree named]

omit term in
/-- One value of a field, or an error for an index outside the rows. -/
theorem nth_value_over {field : String} (named : S.field field) (index : Int64) :
    (match elementAt? rows' index with
      | some row => pure (row.read field)
      | none => Act.fail (.indexOutOfBounds index rows'.length) : Act Value) =
    match elementAt? rows index with
      | some row => pure (row.read field)
      | none => Act.fail (.indexOutOfBounds index rows.length) := by
  have same : (elementAt? rows' index).map (·.read field) =
      (elementAt? rows index).map (·.read field) := by
    rw [← elementAt?_valuesOf, ← elementAt?_valuesOf, valuesOf_eq agree named]
  rw [agree.length_eq]
  cases at_ : elementAt? rows index <;> cases at_' : elementAt? rows' index <;>
    simp only [at_, at_', Option.map_none, Option.map_some, reduceCtorEq, Option.some.injEq] at same
  · rfl
  · dsimp only
    rw [same]

theorem nth_over : Operators.nth evaluate ⟨rows', depth⟩ t =
    Operators.nth (evaluate.over rows') ⟨rows, depth⟩ t := by
  unfold Operators.nth
  refine congrArg _ (funext fun _ => congrArg _ (funext fun v => congrArg _ (funext fun i => ?_)))
  cases i with
  | none => rfl
  | some i =>
      refine congrArg (integer i >>= ·) (funext fun n => fieldName_congr term 1 ?_)
      exact fun name named => nth_value_over agree named n

theorem first_over : Operators.first ⟨rows', depth⟩ t = Operators.first ⟨rows, depth⟩ t := by
  unfold Operators.first
  refine congrArg _ (funext fun _ => fieldName_congr term 0 fun name named => ?_)
  cases agree with
  | nil => rfl
  | cons first _ =>
      dsimp only
      rw [first name named]

/-- **Operators see of the rows only the values of the fields they name**, besides what they
hand on to their operands. -/
theorem Builtin.run_over (settings : Settings) {b : Builtin} (other : b ≠ .aggregate) :
    b.run settings evaluate ⟨rows', depth⟩ t =
      b.run settings (evaluate.over rows') ⟨rows, depth⟩ t := by
  cases b with
  | aggregate => exact absurd rfl other
  | and =>
      have same := @anyIs_over evaluate rows rows' depth t false t.positions
      show Operators.and _ _ _ = Operators.and _ _ _
      unfold Operators.and
      rw [same]
  | or =>
      have same := @anyIs_over evaluate rows rows' depth t true t.positions
      show Operators.or _ _ _ = Operators.or _ _ _
      unfold Operators.or
      rw [same]
  | least => exact extreme_over agree term .lt
  | greatest => exact extreme_over agree term .gt
  | count => exact count_over agree term
  | nth => exact nth_over agree term
  | first => exact first_over agree term
  | sum =>
      show Operators.sum _ _ = Operators.sum _ _
      unfold Operators.sum
      rw [sumFields_over agree term]
  | _ => rfl

end

/-! ## `agg` -/

/-- Ends that correspond: with results that are related, or with the same error. -/
inductive Act.Corresponds {α : Type} (A : α → α → Prop) (R : State → State → Prop) :
    Except EvalError α × State → Except EvalError α × State → Prop
  | ok {a a' : α} {s s' : State} : A a a' → R s s' → Corresponds A R (.ok a, s) (.ok a', s')
  | error {e : EvalError} {s s' : State} : R s s' → Corresponds A R (.error e, s) (.error e, s')

theorem Act.EndAlike.corresponds {α : Type} {R : State → State → Prop}
    {x x' : Except EvalError α × State} (alike : EndAlike R x x') :
    Corresponds (· = ·) R x x' := by
  obtain ⟨r, s⟩ := x
  obtain ⟨r', s'⟩ := x'
  obtain ⟨same, related⟩ := alike
  cases same
  cases r with
  | ok a => exact .ok rfl related
  | error e => exact .error related

theorem Act.Corresponds.endAlike {α : Type} {R : State → State → Prop}
    {x x' : Except EvalError α × State} (corresponds : Corresponds (· = ·) R x x') :
    EndAlike R x x' := by
  cases corresponds with
  | ok same related => exact ⟨congrArg Except.ok same, related⟩
  | error related => exact ⟨rfl, related⟩

theorem Act.Corresponds.bind {α β : Type} {A : α → α → Prop} {B : β → β → Prop}
    {R : State → State → Prop} {act act' : Act α} {f f' : α → Act β} {s s' : State}
    (first : Corresponds A R (act s) (act' s'))
    (next : ∀ a a' s s', A a a' → R s s' → Corresponds B R (f a s) (f' a' s')) :
    Corresponds B R ((act >>= f) s) ((act' >>= f') s') := by
  generalize ran : act s = x at first
  generalize ran' : act' s' = x' at first
  cases first with
  | ok same related =>
      rw [bind_ok ran, bind_ok ran']
      exact next _ _ _ _ same related
  | error related =>
      rw [bind_error ran, bind_error ran']
      exact .error related

section

variable {evaluate : Evaluator} {t : Term} {depth : Nat}
  (below : ∀ {rows rows'}, List.Forall₂ S.row rows rows' → ∀ depth c, c.UsesOnly S.vocabulary →
    Act.Respects (State.Alike S c) Value fun first => evaluate ⟨cond first rows rows', depth⟩ c)
  (term : t.UsesOnly S.vocabulary)
include below term

/-- The rows that a selector keeps are alike. -/
theorem keptRows_alike {selector : Term}
    (carried : (t.operand? 0).bind Operand.carried? = some selector) {all all' : List Row}
    (allAlike : List.Forall₂ S.row all all') {rows rows' : List Row}
    (alike : List.Forall₂ S.row rows rows') : ∀ s s', s.Alike S t s' →
      Act.Corresponds (List.Forall₂ S.row) (State.Alike S t)
        (Operators.keptRows evaluate ⟨all, depth⟩ selector rows s)
        (Operators.keptRows evaluate ⟨all', depth⟩ selector rows' s') := by
  induction alike with
  | nil => exact fun s s' related => .ok .nil related
  | @cons row row' rest rest' first _ ih =>
      intro s s' related
      have agree : s.world.fact.AgreeOn S.field s'.world.fact := by
        obtain ⟨-, -, x', rfl, agree⟩ := related
        exact agree
      have inside := Act.Respects.atChild_alike carried
        (below allAlike (depth + 1) selector (term.carried carried))
      have selected := inside.withFact Act.Respects.against_alike related agree
        (agree.overlay (S.agree first))
      refine selected.corresponds.bind fun v v' s s' same related => ?_
      subst same
      refine (ih s s' related).bind fun others others' s s' kept related => .ok ?_ related
      split
      · exact .cons first kept
      · exact kept

/-- `agg` over rows that are alike. -/
theorem aggregate_alike {rows rows' : List Row} (alike : List.Forall₂ S.row rows rows') :
    Act.Respects (State.Alike S t) Value fun first =>
      Operators.aggregate evaluate ⟨cond first rows rows', depth⟩ t := by
  intro s s' related
  show Act.EndAlike _ (Operators.aggregate evaluate ⟨rows, depth⟩ t s)
    (Operators.aggregate evaluate ⟨rows', depth⟩ t s')
  unfold Operators.aggregate
  rcases checkArity_cases t (.exactly 2) with arity | arity
  rotate_left
  · rw [arity]
    exact ⟨rfl, related⟩
  rcases carriedTerm_cases t 0 with ⟨selector, carried, selecting⟩ | selecting
  rotate_left
  · rw [arity, selecting]
    exact ⟨rfl, related⟩
  rw [arity, selecting]
  -- The rows that are kept need not be the same, so the value term runs over others.
  refine ((keptRows_alike below term carried alike alike s s' related).bind
    fun kept kept' s s' keptAlike related => ?_).endAlike
  rw [keptAlike.length_eq, alike.length_eq]
  have L := @Act.Respects.closed_alike S t
  have noted := @Act.Respects.note_alike S t (.kept kept'.length rows'.length)
  rcases carriedTerm_cases t 1 with ⟨value, carried, valued⟩ | valued
  · have inside := Act.Respects.atChild_alike carried
      (below keptAlike (depth + 1) value (term.carried carried))
    rw [valued]
    exact (L.bind noted (fun _ => L.vacant inside) s s' related).corresponds
  · rw [valued]
    exact (L.bind noted (fun _ => .fail _) s s' related).corresponds

/-! ## Evaluations -/

theorem counterparts_over {rows rows' : List Row} (alike : List.Forall₂ S.row rows rows')
    (depth : Nat) :
    Counterparts (Act.Respects (State.Alike S t))
      (fun first => evaluate.over (cond first rows rows')) (fun _ => depth) fun _ => t :=
  Act.Respects.counterparts_alike (fun site c => below alike site.depth c) term depth

theorem Builtin.run_alike (settings : Settings) {b : Builtin} (operator : t.operator = .builtin b)
    {rows rows' : List Row} (alike : List.Forall₂ S.row rows rows') :
    Act.Respects (State.Alike S t) Value fun first =>
      b.run settings evaluate ⟨cond first rows rows', depth⟩ t := by
  by_cases is : b = .aggregate
  · subst is
    exact aggregate_alike below term alike
  · -- With the rows moved into the evaluators, the operator itself runs over the same ones.
    have run : Act.Respects (State.Alike S t) Value fun first =>
        b.run settings (evaluate.over (cond first rows rows')) ⟨rows, depth⟩ t :=
      run_closed (Act.Respects.closed_alike t) (counterparts_over below term alike depth) settings b
        (Act.Respects.permitted_alike term _ operator)
    have first := @Builtin.run_over S evaluate rows rows depth t (Row.AgreeOn.forall₂_refl _ _)
      term settings b is
    have second := @Builtin.run_over S evaluate rows rows' depth t
      (alike.imp fun _ _ => S.agree) term settings b is
    intro s s' related
    show Act.EndAlike _ (b.run settings evaluate ⟨rows, depth⟩ t s)
      (b.run settings evaluate ⟨rows', depth⟩ t s')
    rw [first, second]
    exact run s s' related

theorem Definition.run_alike {d : Definition} {rows rows' : List Row}
    (alike : List.Forall₂ S.row rows rows')
    (inside : ∀ body, d.body = .expression body → body.UsesOnly S.vocabulary)
    (sees : ∀ run, d.body = .native run → run.SeesOnly S) :
    Act.Respects (State.Alike S t) Value fun first =>
      d.run evaluate ⟨cond first rows rows', depth⟩ t := by
  intro s s' related
  show Act.EndAlike _ (d.run evaluate ⟨rows, depth⟩ t s) (d.run evaluate ⟨rows', depth⟩ t s')
  cases admitted : d.arity.admits t.arity with
  | false =>
      rw [run_refused admitted, run_refused admitted]
      exact ⟨rfl, related⟩
  | true =>
      cases isBody : d.body with
      | expression body =>
          -- The memories are the same, so both calls enter the same expansion.
          obtain ⟨uses, sees, x', rfl, agree⟩ := related
          have ⟨term', memory⟩ := d.expansionFor_usesOnly term uses.memory (inside body isBody)
          rw [run_expression isBody admitted, run_expression isBody admitted,
            Act.inExpansion_apply, Act.inExpansion_apply, State.memory_facing]
          have entered : State.Alike S (d.expansionFor body t s.memory).term
              ⟨(d.expansionFor body t s.memory).memory, d.worldFor t s.memory s.world⟩
              ⟨(d.expansionFor body t s.memory).memory,
                d.worldFor t s.memory (s.facing x').world⟩ := by
            refine ⟨⟨memory, ?_⟩, ?_, x', ?_, ?_⟩
            · rw [d.registry_worldFor]
              exact uses.registry
            · rw [d.registry_worldFor]
              exact sees
            · unfold worldFor State.facing
              split <;> rfl
            · rw [d.fact_worldFor]
              exact agree
          obtain ⟨result, uses', sees', y', same, agree'⟩ :=
            below alike (depth + 1) _ term' _ _ entered
          refine ⟨result, ⟨uses.memory.setExpansion term' uses'.memory d.generation,
            uses'.registry⟩, sees', y', ?_, agree'⟩
          have same : (evaluate (Site.deeper ⟨rows', depth⟩) _ _).2 = _ := same
          rw [same]
          rfl
      | native run =>
          have L := @Act.Respects.closed_alike S t
          have C := counterparts_over below term alike depth
          have args : Act.Respects (State.Alike S t) (List Value) fun first =>
              resolveAll (evaluate.over (cond first rows rows')) ⟨rows, depth⟩ t t.positions :=
            resolveAll_closed L.toComposes C t.positions
          have call (args : List Value) : Act.Respects (State.Alike S t) Value fun first =>
              Act.fact >>= fun fact => Act.ofExcept (run args fact (cond first rows rows')) := by
            rintro s _ ⟨uses, sees', x', rfl, agree⟩
            have related : s.Alike S t (s.facing x') := ⟨uses, sees', x', rfl, agree⟩
            show Act.EndAlike _ (Act.ofExcept (run args s.world.fact rows) s)
              (Act.ofExcept (run args x' rows') (s.facing x'))
            rw [sees run isBody agree alike]
            cases run args x' rows' with
            | ok v => exact ⟨rfl, related⟩
            | error e => exact ⟨rfl, related⟩
          have whole := L.bind args call s s' related
          rw [run_native isBody admitted, run_native isBody admitted,
            @resolveAll_over evaluate rows rows depth t,
            @resolveAll_over evaluate rows rows' depth t]
          exact whole

end

/-- **An evaluation cannot tell more apart than it sees.**  Over rows that are alike, in states
that differ only in facts that agree, it gives the same value or error, and leaves states of
that kind. -/
theorem evalAt_alike (settings : Settings) :
    ∀ levels {rows rows'}, List.Forall₂ S.row rows rows' → ∀ depth t, t.UsesOnly S.vocabulary →
      Act.Respects (State.Alike S t) Value fun first =>
        evalAt settings levels ⟨cond first rows rows', depth⟩ t
  | 0, _, _, _, _, _, _ => .fail _
  | levels + 1, rows, rows', alike, depth, t, term => by
      have below : ∀ {rows rows'}, List.Forall₂ S.row rows rows' → ∀ depth c,
          c.UsesOnly S.vocabulary → Act.Respects (State.Alike S c) Value fun first =>
            evalAt settings levels ⟨cond first rows rows', depth⟩ c :=
        fun alike => evalAt_alike settings levels alike
      intro s s' related
      obtain ⟨-, noted⟩ := Act.Respects.note_alike t (.dispatched depth t) s s' related
      have registry : s'.world.registry = s.world.registry := by
        obtain ⟨-, -, x', rfl, -⟩ := related
        rfl
      show Act.EndAlike _ (dispatch settings (evalAt settings levels) ⟨rows, depth⟩ t s)
        (dispatch settings (evalAt settings levels) ⟨rows', depth⟩ t s')
      have leaving : EvalError.leaving ⟨rows', depth⟩ t = EvalError.leaving ⟨rows, depth⟩ t := by
        funext e
        unfold EvalError.leaving
        rw [alike.length_eq]
      cases operator : t.operator with
      | builtin b =>
          cases hosted : s.world.registry.hosts b with
          | false =>
              rw [dispatch_unhosted operator hosted,
                dispatch_unhosted operator (registry ▸ hosted)]
              exact ⟨rfl, noted⟩
          | true =>
              have run : Act.Respects (State.Alike S t) Value fun first =>
                  b.run settings (evalAt settings levels) ⟨cond first rows rows', depth⟩ t :=
                Builtin.run_alike below term settings operator alike
              rw [dispatch_builtin operator hosted, dispatch_builtin operator (registry ▸ hosted),
                leaving]
              exact (run _ _ noted).mapError _
      | custom name =>
          cases found : s.world.registry.lookup? name with
          | none =>
              rw [dispatch_undefined operator found, dispatch_undefined operator (registry ▸ found)]
              exact ⟨rfl, noted⟩
          | some d =>
              have member := Registry.mem_of_lookup? found
              have run : Act.Respects (State.Alike S t) Value fun first =>
                  d.run (evalAt settings levels) ⟨cond first rows rows', depth⟩ t :=
                Definition.run_alike below term alike (related.uses.registry d member)
                  (related.sees d member)
              rw [dispatch_custom operator found, dispatch_custom operator (registry ▸ found),
                leaving]
              exact (run _ _ noted).mapError _

/-- Nor can an evaluation of an instance: against facts that agree and over rows that are alike
the result is the same, and so is all that is left but the facts, which agree again. -/
theorem Instance.evaluate_alike (settings : Settings) {i : Instance} {w : World} {x' : Fact}
    {rows rows' : List Row} (uses : i.UsesOnly S.vocabulary)
    (bodies : w.registry.UsesOnly S.vocabulary) (sees : w.registry.SeesOnly S)
    (agree : w.fact.AgreeOn S.field x') (alike : List.Forall₂ S.row rows rows') :
    let first := i.evaluate settings rows w
    let second := i.evaluate settings rows' (w.facing x')
    first.1 = second.1 ∧ first.2.1 = second.2.1 ∧ first.2.2.registry.SeesOnly S ∧
      second.2.2 = first.2.2.facing second.2.2.fact ∧
      first.2.2.fact.AgreeOn S.field second.2.2.fact := by
  intro first second
  have related : State.Alike S i.term ⟨i.memory, w⟩ ⟨i.memory, w.facing x'⟩ :=
    ⟨⟨uses.memory, bodies⟩, sees, x', rfl, agree⟩
  obtain ⟨result, -, sees', y', same, agree'⟩ :=
    evalAt_alike settings (settings.maxDepth + 1) alike 0 i.term uses.term _ _ related
  have same : (FactScan.evaluate settings rows' i.term ⟨i.memory, w.facing x'⟩).2 =
    (FactScan.evaluate settings rows i.term ⟨i.memory, w⟩).2.facing y' := same
  have memory := congrArg State.memory same
  have world : second.2.2 = first.2.2.facing y' := congrArg State.world same
  rw [world]
  exact ⟨result, congrArg (Instance.mk i.term) memory.symm, sees', rfl, agree'⟩

end FactScan
