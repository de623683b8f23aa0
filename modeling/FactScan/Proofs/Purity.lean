/-
# FactScan.Proofs.Purity — terms that only have a value

An operator without state or effects looks at nothing its term remembers, and all it does to
the world is to log what is evaluated.  An act is quiet (`Act.IsQuiet`) if it is like that:
in every world it has one result and makes the same records, whatever is remembered.

* `evalAt_isQuiet`: terms of such operators only are quiet, if that goes for the terms they
  carry as data, too.
* `Operand.resolve_pure`: so are the operands that pass the simplifier's test, as long as what
  they carry is inert.  Only their own value or error can be observed.
* `Operand.isPure_defines`: the simplifier's own test passes over terms carried as data, but
  `agg` evaluates them: an operand that it accepts can define an operator.
-/
import FactScan.Engine.Simplify
import FactScan.Proofs.Dispatch
import FactScan.Proofs.Terms

namespace FactScan

set_option autoImplicit false

/-! ## Quiet acts -/

/-- Records of evaluations: terms dispatched and rows kept. -/
def Record.isRoutine : Record → Bool
  | .dispatched .. | .kept .. => true
  | _ => false

theorem Record.isTraced_of_isRoutine {r : Record} (routine : r.isRoutine = true) :
    r.isTraced = false := by
  cases r <;> first | rfl | cases routine

/-- A world with more in its log, the latest first. -/
def World.logged (w : World) (new : List Record) : World := { w with log := new ++ w.log }

theorem World.logged_logged (w : World) (first second : List Record) :
    (w.logged first).logged second = w.logged (second ++ first) := by
  simp [logged]

namespace Act

variable {α β : Type}

/-- In every world the act has one result and adds the same routine records to the log,
whatever is remembered, and leaves all else in the world as it was. -/
def IsQuiet (α : Type) (act : Unit → Act α) : Prop :=
  ∀ w : World, ∃ (r : Except EvalError α) (new : List Record),
    (∀ x ∈ new, x.isRoutine = true) ∧
      ∀ m, ∃ m', act () ⟨m, w⟩ = (r, ⟨m', w.logged new⟩)

namespace IsQuiet

/-- An act that does nothing at all. -/
theorem of_still {act : Unit → Act α} {r : World → Except EvalError α}
    (still : ∀ s, act () s = (r s.world, s)) : IsQuiet α act :=
  fun w => ⟨r w, [], by simp, fun m => ⟨m, still ⟨m, w⟩⟩⟩

theorem note {r : Record} (routine : r.isRoutine = true) : IsQuiet Unit fun _ => Act.note r :=
  fun _ => ⟨.ok (), [r], by simpa using routine, fun m => ⟨m, rfl⟩⟩

theorem bind {act : Unit → Act α} {f : Unit → α → Act β} (first : IsQuiet α act)
    (next : ∀ a, IsQuiet β fun i => f i a) : IsQuiet β fun i => act i >>= f i := by
  intro w
  obtain ⟨r, new, routine, run⟩ := first w
  cases r with
  | error e =>
      refine ⟨.error e, new, routine, fun m => ?_⟩
      obtain ⟨m', ran⟩ := run m
      exact ⟨m', bind_error ran _⟩
  | ok a =>
      obtain ⟨r, new', routine', run'⟩ := next a (w.logged new)
      refine ⟨r, new' ++ new, fun x member => ?_, fun m => ?_⟩
      · exact (List.mem_append.1 member).elim (routine' x) (routine x)
      · obtain ⟨m', ran⟩ := run m
        obtain ⟨m'', ran'⟩ := run' m'
        rw [World.logged_logged] at ran'
        exact ⟨m'', (bind_ok ran _).trans ran'⟩

/-- What is done against another fact is quiet, too. -/
theorem withFact {act : Unit → Act α} (quiet : IsQuiet α act) (fact : World → Fact) :
    IsQuiet α fun i s => Act.withFact (fact s.world) (act i) s := by
  intro w
  obtain ⟨r, new, routine, run⟩ := quiet { w with fact := fact w }
  refine ⟨r, new, routine, fun m => ?_⟩
  obtain ⟨m', ran⟩ := run m
  refine ⟨m', ?_⟩
  dsimp only
  rw [withFact_apply, ran]
  rfl

theorem atChild {act : Unit → Act α} (quiet : IsQuiet α act) (p : Nat) :
    IsQuiet α fun i => Act.atChild p (act i) := by
  intro w
  obtain ⟨r, new, routine, run⟩ := quiet w
  refine ⟨r, new, routine, fun m => ?_⟩
  obtain ⟨m', ran⟩ := run (m.child p)
  refine ⟨m.setChild p m', ?_⟩
  dsimp only
  rw [atChild_apply, ran]

theorem mapError {act : Unit → Act α} (quiet : IsQuiet α act) (f : EvalError → EvalError) :
    IsQuiet α fun i => Act.mapError f (act i) := by
  intro w
  obtain ⟨r, new, routine, run⟩ := quiet w
  cases r with
  | ok a =>
      refine ⟨.ok a, new, routine, fun m => ?_⟩
      obtain ⟨m', ran⟩ := run m
      exact ⟨m', mapError_ok.2 ran⟩
  | error e =>
      refine ⟨.error (f e), new, routine, fun m => ?_⟩
      obtain ⟨m', ran⟩ := run m
      exact ⟨m', by dsimp only; rw [Act.mapError, ran]⟩

theorem closed : Closed IsQuiet where
  pure a := .of_still (r := fun _ => .ok a) fun _ => rfl
  fail {_ e} _ := .of_still (r := fun _ => .error e) fun _ => rfl
  bind := bind
  overlay row _ quiet := quiet.withFact fun w => .overlay row w.fact
  vacant quiet := quiet.withFact fun _ => .empty

theorem looks (field : String) : Looks IsQuiet field where
  read := .of_still (r := fun w => .ok (w.fact.read field)) fun _ => rfl
  holds := .of_still (r := fun w => .ok (w.fact.holds field)) fun _ => rfl

/-- The pattern of a string is the same whatever is remembered. -/
theorem patternOf (source : String) : IsQuiet Pattern fun _ => Operators.patternOf source := by
  intro w
  dsimp only
  cases compiled : Pattern.ofSource source with
  | error e =>
      refine ⟨.error (.invalidPattern source e.message), [], by simp, fun m => ⟨m, ?_⟩⟩
      rw [Operators.patternOf_eq, compiled]
      rfl
  | ok p =>
      refine ⟨.ok p, [], by simp, fun m => ⟨m.setBlock (some (.pattern p)), ?_⟩⟩
      rw [Operators.patternOf_eq, compiled]
      rfl

end IsQuiet

end Act

/-! ## Terms without state or effects -/

/-- A built-in operator without state or effects. -/
def Builtin.isIdle (b : Builtin) : Bool := !b.isStateful && !b.hasSideEffects

/-- What the steps of an idle operator do besides looking at its operands. -/
theorem Builtin.permitted_of_isIdle {b : Builtin} (idle : b.isIdle = true) (level : Level)
    (t : Term) : b.Permitted Act.IsQuiet level fun _ => t where
  exchange is := by
    subst is
    cases idle
  collect is := by
    subst is
    cases idle
  pattern _ source := .patternOf source
  append is := by
    subst is
    cases idle
  define is := by
    subst is
    cases idle
  undefine is := by
    subst is
    cases idle
  kept _ k n := .note rfl
  traced is := by
    subst is
    cases idle

/-- A built-in operator without state or effects, and so are those of all terms inside, nested
or carried as data. -/
def Term.IsInert (t : Term) : Prop :=
  t.Throughout fun op => ∃ b, op = .builtin b ∧ b.isIdle = true

/-- **Inert terms only have a value.**  In every world an inert term has one result, whatever
it remembers, and its evaluation adds routine records to the log and does nothing else to the
world, whether it succeeds or fails. -/
theorem evalAt_isQuiet (settings : Settings) :
    ∀ (levels : Nat) (site : Site) {t : Term}, t.IsInert →
      Act.IsQuiet Value fun _ => evalAt settings levels site t
  | 0, _, _, _ => .of_still (r := fun _ => .error (.recursionLimit settings.maxDepth)) fun _ => rfl
  | levels + 1, site, t, inert => by
      obtain ⟨b, operator, idle⟩ := inert.operator
      have child (p : Nat) (c : Term) (at_ : (t.operand? p).bind Operand.carried? = some c)
          (rows : List Row) : Act.IsQuiet Value fun _ =>
            Act.atChild p (evalAt settings levels ⟨rows, site.depth + 1⟩ c) := by
        have below : c.IsInert := inert.carried at_
        exact (evalAt_isQuiet settings levels ⟨rows, site.depth + 1⟩ below).atChild p
      have C : Counterparts Act.IsQuiet (fun _ => evalAt settings levels) (fun _ => site.depth)
          fun _ => t :=
        .ofTerm child (fun _ name _ => Act.IsQuiet.looks name)
          (fun expected => Act.IsQuiet.of_still (r := fun _ => .error _) fun _ => rfl)
          fun p expected => Act.IsQuiet.of_still (r := fun _ => .error _) fun _ => rfl
      have run : Act.IsQuiet Value fun _ => b.run settings (evalAt settings levels) site t :=
        Builtin.run_closed Act.IsQuiet.closed C settings b (b.permitted_of_isIdle idle _ _)
      intro w
      cases hosted : w.registry.hosts b with
      | false =>
          refine ⟨.error (.unknown t), [.dispatched site.depth t], by simp [Record.isRoutine],
            fun m => ⟨m, ?_⟩⟩
          show dispatch settings (evalAt settings levels) site t ⟨m, w⟩ = _
          rw [dispatch_unhosted operator hosted]
          rfl
      | true =>
          obtain ⟨r, new, routine, ran⟩ :=
            run.mapError (·.leaving site t) (w.note (.dispatched site.depth t))
          refine ⟨r, new ++ [.dispatched site.depth t], ?_, fun m => ?_⟩
          · intro x member
            rcases List.mem_append.1 member with member | member
            · exact routine x member
            · rw [List.mem_singleton.1 member]
              rfl
          · obtain ⟨m', ran⟩ := ran m
            refine ⟨m', ?_⟩
            show dispatch settings (evalAt settings levels) site t ⟨m, w⟩ = _
            rw [dispatch_builtin operator hosted]
            refine ran.trans ?_
            rw [← World.logged_logged]
            rfl

/-! ## Operands -/

namespace Operand

/-- All terms that are carried as data in an operand are inert. -/
def CarriesInert (o : Operand) : Prop :=
  ∀ u ∈ o.walk, ∀ c, .literal (.term c) ∈ u.operands → c.IsInert

theorem carriesInert_of_isPlain {o : Operand} (plain : o.IsPlain) : o.CarriesInert := by
  intro u inside c member
  cases o with
  | nested t => exact absurd member (plain u inside c)
  | literal _ | field _ | placeholder _ => cases inside

/-- Neither a literal that is a term, unless it is inert, nor a nested term that carries
others. -/
def HoldsInert : Operand → Prop
  | .nested t => (nested t).CarriesInert
  | .literal (.term c) => c.IsInert
  | _ => True

theorem HoldsInert.carriesInert {o : Operand} (holds : o.HoldsInert) : o.CarriesInert := by
  cases o with
  | nested t => exact holds
  | literal _ | field _ | placeholder _ =>
      intro u inside
      cases inside

theorem carriesInert_mk {op : Operator} {operands : List Operand} :
    (nested (.mk op operands)).CarriesInert ↔ ∀ o ∈ operands, o.HoldsInert := by
  constructor
  · intro carries o member
    unfold HoldsInert
    split
    · rename_i t
      exact fun u inside => carries u (Term.mem_walk.2 (.inr ⟨t, member, inside⟩))
    · rename_i c
      exact carries _ (Term.self_mem_walk _) c member
    · trivial
  · intro holds u inside c member
    rcases Term.mem_walk.1 inside with rfl | ⟨t, isNested, inside⟩
    · exact holds _ member
    · exact holds _ isNested u inside c member

/-- The simplifier's test looks at nested terms only, and is enough if what they carry is inert. -/
theorem isInert_of_isPure {t : Term} (isPure : (nested t).isPure = true)
    (carries : (nested t).CarriesInert) : t.IsInert := by
  induction t using Term.nested_induction with
  | step op operands ih =>
      have within {u : Term} (inside : u ∈ (Term.mk op operands).walk) :=
        List.all_eq_true.1 isPure u inside
      have own : ∃ b, op = .builtin b ∧ b.isIdle = true := by
        have idle := within (Term.self_mem_walk _)
        cases op with
        | builtin b => exact ⟨b, rfl, idle⟩
        | custom name => cases idle
      refine Term.throughout_mk.2 ⟨own, fun o member c carried => ?_⟩
      rcases carried?_cases carried with rfl | rfl
      · have below {u : Term} (inside : u ∈ c.walk) : u ∈ (Term.mk op operands).walk :=
          Term.mem_walk.2 (.inr ⟨c, member, inside⟩)
        refine ih c member (List.all_eq_true.2 fun u inside => within (below inside)) ?_
        exact fun u inside => carries u (below inside)
      · exact carries _ (Term.self_mem_walk _) c member

section

variable (settings : Settings) (levels : Nat) (site : Site) {t : Term} {p : Nat} {o : Operand}

theorem resolve_isQuiet (at_ : t.operand? p = some o) (isPure : o.isPure = true)
    (carries : o.CarriesInert) :
    Act.IsQuiet Value fun _ => resolve (evalAt settings levels) site t p := by
  have L := Act.IsQuiet.closed
  unfold resolve
  rw [at_]
  cases o with
  | literal a => exact L.pure _
  | field name => exact L.readThen (Act.IsQuiet.looks name) fun v => L.pure v.normalized
  | placeholder n => exact .of_still (r := fun _ => .error _) fun _ => rfl
  | nested c =>
      have below := evalAt_isQuiet settings levels site.deeper (isInert_of_isPure isPure carries)
      exact L.bind (below.atChild p) fun v => L.pure v.normalized

/-- **A pure operand can be observed only through its own value or error**, as long as the
terms carried as data in it are inert.  In every world it comes to one result, whatever is
remembered; it leaves the fact and the registry as they were, and of the records it adds none
was asked for by a term. -/
theorem resolve_pure (at_ : t.operand? p = some o) (isPure : o.isPure = true)
    (carries : o.CarriesInert) (w : World) :
    ∃ (r : Except EvalError Value) (new : List Record), (∀ x ∈ new, x.isTraced = false) ∧
      ∀ m, ∃ m', resolve (evalAt settings levels) site t p ⟨m, w⟩ = (r, ⟨m', w.logged new⟩) := by
  obtain ⟨r, new, routine, run⟩ := resolve_isQuiet settings levels site at_ isPure carries w
  exact ⟨r, new, fun x member => Record.isTraced_of_isRoutine (routine x member), run⟩

end

/-- In `(or (agg (exists k) (count)) true)`, the first operand, with `(count)` carried as data. -/
theorem resolve_pure_aggregate :
    let o : Operand := .nested (.mk (.builtin .aggregate)
      [.nested (.mk (.builtin .present) [.field "k"]), .literal (.term (.mk (.builtin .count) []))])
    let t : Term := .mk (.builtin .or) [o, .literal (.boolean true)]
    t.operand? 0 = some o ∧ o.isPure = true ∧ o.CarriesInert ∧
    ∃ (r : Except EvalError Value) (new : List Record), (∀ x ∈ new, x.isTraced = false) ∧
      ∀ m, ∃ m', resolve (evalAt {} 257) ⟨[], 0⟩ t 0 ⟨m, {}⟩ = (r, ⟨m', World.logged {} new⟩) := by
  intro o t
  have count : (Term.mk (.builtin .count) []).IsInert :=
    Term.throughout_mk.2 ⟨⟨_, rfl, rfl⟩, nofun⟩
  have carries : o.CarriesInert := by
    intro u inside c member
    simp only [o, walk, Term.walk, listWalk, List.append_nil, List.mem_cons, List.not_mem_nil,
      or_false] at inside
    rcases inside with rfl | rfl
    · simp only [Term.operands, List.mem_cons, reduceCtorEq, literal.injEq, Scalar.term.injEq,
        List.not_mem_nil, or_false, false_or] at member
      exact member ▸ count
    · simp [Term.operands] at member
  exact ⟨rfl, rfl, carries, resolve_pure {} 257 ⟨[], 0⟩ rfl rfl carries {}⟩

/-- What the simplifier takes for pure may define an operator: `agg` evaluates the term that
it carries as data. -/
theorem isPure_defines :
    let o : Operand := .nested (.mk (.builtin .aggregate)
      [.nested (.mk (.builtin .present) [.field "k"]), .literal (.term
        (.mk (.builtin .define) [.field "foo", .nested (.mk (.builtin .count) [])]))])
    let t : Term := .mk (.builtin .or) [o, .literal (.boolean true)]
    let after := (resolve (evalAt {} 257) ⟨[], 0⟩ t 0 ⟨.blank, {}⟩).2.world
    o.isPure = true ∧ ({} : World).registry.lookup? "foo" = none ∧
      (after.registry.lookup? "foo").isSome = true :=
  ⟨rfl, rfl, rfl⟩

end Operand

end FactScan
