/-
# FactScan.Proofs.KeptState — what a term keeps stays of its kind

Evaluation changes what a term remembers, and nothing else of it.  `Memory.Fits` says what
it can remember: at every depth a block that the operator there records, and for an
expansion, that it is the body of the definition with its number, with the operands of the
term filled in.  That definition may have been replaced or removed since, so it is looked for
among all that were ever made, which are told from the records of each step.

* `evalAt_fitting`: every evaluation, successful or not, keeps this true.
* `Session.Career.remembers_what_fits`: so a term that is evaluated any number of times, with
  any changes of definitions in between, is the term it was and remembers what it can.
-/
import FactScan.Proofs.Caches
import FactScan.Proofs.Registry.History

namespace FactScan

set_option autoImplicit false

/-! ## Definitions that were made -/

/-- Between two moments, of which at the first the definitions in `known` were made so far, and
at the second those in `later`. -/
def World.Advance (known : Definition → Prop) (before after : World) (later : Definition → Prop) :
    Prop :=
  ∃ new, RecordedBy new before after ∧
    later = fun d => known d ∨ d ∈ Record.made before.nextGeneration new

namespace World.Advance

variable {known known' later : Definition → Prop} {u v w : World}

theorem of_registry {new : List Record} (same : w.registry = v.registry)
    (next : w.nextGeneration = v.nextGeneration) (log : w.log = new ++ v.log)
    (quiet : ∀ r ∈ new, r.IsQuiet) : v.Advance known w known := by
  refine ⟨new, .of_registry same next log quiet, ?_⟩
  rw [Record.made_of_quiet quiet]
  simp

theorem refl (w : World) : w.Advance known w known :=
  of_registry rfl rfl (List.nil_append _).symm nofun

theorem note (w : World) {r : Record} (quiet : r.IsQuiet) : w.Advance known (w.note r) known :=
  of_registry rfl rfl List.singleton_append.symm fun r' member => by
    rw [List.mem_singleton.1 member]
    exact quiet

theorem trans (first : u.Advance known v known') (second : v.Advance known' w later) :
    u.Advance known w later := by
  obtain ⟨new, recorded, rfl⟩ := first
  obtain ⟨new', recorded', rfl⟩ := second
  refine ⟨new' ++ new, recorded.trans recorded', funext fun d => propext ?_⟩
  rw [Record.made_append, ← recorded.numbers, List.mem_append, or_assoc,
    or_comm (a := d ∈ Record.made _ new')]

theorem against {fact : Fact} (advance : World.Advance known { v with fact } w later)
    (fact' : Fact) :
    v.Advance known { w with fact := fact' } later := by
  obtain ⟨new, recorded, made⟩ := advance
  exact ⟨new, recorded.against, made⟩

/-- Records can be told from the logs. -/
theorem since (advance : v.Advance known w later) :
    RecordedBy (v.since w) v w ∧
      later = fun d => known d ∨ d ∈ Record.made v.nextGeneration (v.since w) := by
  obtain ⟨new, recorded, rfl⟩ := advance
  rw [recorded.since]
  exact ⟨recorded, rfl⟩

/-- Definitions that were made stay made. -/
theorem more (advance : v.Advance known w later) (d : Definition) (made : known d) : later d := by
  obtain ⟨new, -, rfl⟩ := advance
  exact .inl made

end World.Advance

/-! ## What a term remembers -/

/-- A filled-in body under a number: there was a definition of the term's operator with that
number, and it is the body of that with the operands of the term. -/
structure Term.FilledFrom (known : Definition → Prop) (t : Term) (generation : Nat) (e : Term)
    (d : Definition) (body : Instance) : Prop where
  known : known d
  name : d.name = t.name
  generation : d.generation = generation
  isTerm : d.body = .expression body
  filled : e = body.term.instantiate t.operands

/-- What evaluations can have left with a term, where `known` are the definitions that were
made so far: blocks that suit the operators, and expansions of such definitions. -/
inductive Memory.Fits (known : Definition → Prop) : Term → Memory → Prop
  | intro {t : Term} {m : Memory} :
      (∀ b, m.block = some b → b.Suits t.operator) →
      (∀ g e u, m.block = some (.expansion g e u) → ∃ d body, t.FilledFrom known g e d body) →
      (∀ g e u, m.block = some (.expansion g e u) → Fits known e u) →
      (∀ p c, (t.operand? p).bind Operand.carried? = some c → Fits known c (m.child p)) →
      Fits known t m

variable {known later : Definition → Prop} {t c : Term} {m k : Memory}

namespace Memory.Fits

/-- Definitions that were made stay made. -/
theorem mono (more : ∀ d, known d → later d) (fits : Fits known t m) : Fits later t m := by
  induction fits with
  | intro suits filled _ _ inside children =>
      refine .intro suits (fun g e u block => ?_) inside children
      obtain ⟨d, body, from_⟩ := filled g e u block
      exact ⟨d, body, { from_ with known := more d from_.known }⟩

theorem suits (fits : Fits known t m) {b : Block} (block : m.block = some b) :
    b.Suits t.operator := by
  cases fits with
  | intro suits _ _ _ => exact suits b block

theorem expansion (fits : Fits known t m) {g : Nat} {e : Term} {u : Memory}
    (block : m.block = some (.expansion g e u)) :
    (∃ d body, t.FilledFrom known g e d body) ∧ Fits known e u := by
  cases fits with
  | intro _ filled inside _ => exact ⟨filled g e u block, inside g e u block⟩

theorem child (fits : Fits known t m) {p : Nat}
    (carried : (t.operand? p).bind Operand.carried? = some c) : Fits known c (m.child p) := by
  cases fits with
  | intro _ _ _ children => exact children p c carried

theorem setChild (fits : Fits known t m) {p : Nat}
    (carried : (t.operand? p).bind Operand.carried? = some c) (inside : Fits known c k) :
    Fits known t (m.setChild p k) := by
  refine .intro (fun b => fits.suits) (fun g e u block => (fits.expansion block).1)
    (fun g e u block => (fits.expansion block).2) fun q c' carried' => ?_
  rw [child_setChild]
  split
  · rename_i here
    subst here
    cases carried.symm.trans carried'
    exact inside
  · exact fits.child carried'

/-- Recording a block other than an expansion. -/
theorem setBlock (fits : Fits known t m) {b : Block} (suits : b.Suits t.operator)
    (other : ∀ g e u, b ≠ .expansion g e u) : Fits known t (m.setBlock (some b)) := by
  refine .intro ?_ ?_ ?_ fun p c carried => fits.child carried
  · rintro _ ⟨⟩
    exact suits
  · rintro g e u ⟨⟩
    exact absurd rfl (other g e u)
  · rintro g e u ⟨⟩
    exact absurd rfl (other g e u)

/-- Keeping an expansion, with what it remembers by now. -/
theorem setExpansion (fits : Fits known t m) {name : String}
    (isCustom : t.operator = .custom name) {g : Nat} {e : Term}
    (filled : ∃ d body, t.FilledFrom known g e d body) (inside : Fits known e k) :
    Fits known t (m.setBlock (some (.expansion g e k))) := by
  refine .intro ?_ ?_ ?_ fun p c carried => fits.child carried
  · rintro _ ⟨⟩
    exact ⟨name, isCustom⟩
  · rintro g e u ⟨⟩
    exact filled
  · rintro g e u ⟨⟩
    exact inside

theorem copying (known : Definition → Prop) :
    Copying (fun t m _ => Fits known t m) fun t m _ => Fits known t m where
  vacant block _ children := by
    refine .intro ?_ ?_ ?_ children <;> simp [block]
  nested fits at_ := fits.child (by rw [at_]; rfl)
  data fits at_ := fits.child (by rw [at_]; rfl)

theorem fresh (fits : Fits known t m) : Fits known t (t.freshMemory m) :=
  (copying known).fresh t m m fits

theorem instantiate {body caller : Instance} (fits : Fits known body.term body.memory)
    (given : Fits known caller.term caller.memory) :
    Fits known (body.instantiate caller).term (body.instantiate caller).memory :=
  (copying known).instantiate (l := caller.memory) given body.term body.memory body.memory fits

theorem blank (t : Term) : Fits known t .blank := by
  induction t using Term.carried_induction with
  | step op operands ih =>
      refine (copying known).vacant (n := .blank) rfl rfl fun p c carried => ?_
      obtain ⟨o, at_, carried⟩ := Option.bind_eq_some_iff.1 carried
      rw [child_blank]
      exact ih o (List.mem_of_getElem? at_) c carried

end Memory.Fits

/-! ## Registries and states -/

/-- The definitions of a registry are among those that were made, and their bodies remember
what they can. -/
structure Registry.Fits (known : Definition → Prop) (r : Registry) : Prop where
  made : ∀ d ∈ r.custom, known d
  bodies : ∀ d ∈ r.custom, ∀ body, d.body = .expression body → body.memory.Fits known body.term

structure State.Fits (known : Definition → Prop) (t : Term) (s : State) : Prop where
  memory : s.memory.Fits known t
  registry : s.world.registry.Fits known

theorem Registry.Fits.mono (more : ∀ d, known d → later d) {r : Registry}
    (fits : r.Fits known) : r.Fits later where
  made d member := more d (fits.made d member)
  bodies d member body isTerm := (fits.bodies d member body isTerm).mono more

/-- A new definition, whose body remembers what it can. -/
theorem Registry.Fits.adding {w : World} (fits : w.registry.Fits known) {d : Definition}
    (body : ∀ body, d.body = .expression body → body.memory.Fits known body.term) :
    ∃ later, w.Advance known (w.adding d) later ∧ (w.adding d).registry.Fits later := by
  refine ⟨_, ⟨_, World.recordedBy_adding w d, rfl⟩, ?_, ?_⟩
  · exact World.forall_adding (fun e member => .inl (fits.made e member)) (.inr List.mem_cons_self)
  · refine World.forall_adding (fun e member b isTerm => ?_) fun b isTerm => ?_
    · exact (fits.bodies e member b isTerm).mono fun _ => .inl
    · exact (body b isTerm).mono fun _ => .inl

theorem Registry.Fits.removing {w : World} (fits : w.registry.Fits known) (name : String) :
    ∃ later, w.Advance known (w.removing name) later ∧ (w.removing name).registry.Fits later := by
  obtain ⟨new, recorded⟩ := World.recorded_removing w name
  refine ⟨_, ⟨new, recorded, rfl⟩, .mono (fun _ => .inl) ?_⟩
  rw [World.registry_removing]
  exact ⟨fun d member => fits.made d (List.mem_filter.1 member).1,
    fun d member => fits.bodies d (List.mem_filter.1 member).1⟩

/-- What a call runs comes from a definition, whether it was kept or is filled in now. -/
theorem Definition.expansionFor_fits {d : Definition} {body : Instance} (made : known d)
    (name : d.name = t.name) (isTerm : d.body = .expression body)
    (bodyKept : body.memory.Fits known body.term) (fits : m.Fits known t) :
    (∃ d' body', t.FilledFrom known d.generation (d.expansionFor body t m).term d' body') ∧
      (d.expansionFor body t m).memory.Fits known (d.expansionFor body t m).term := by
  cases there : d.isKept m with
  | true => exact fits.expansion (d.expansionFor_of_isKept body t there)
  | false =>
      rw [d.expansionFor_of_not_isKept body t there]
      have given : (Instance.mk t m).memory.Fits known (Instance.mk t m).term := fits
      exact ⟨⟨d, body, made, name, rfl, isTerm, rfl⟩, bodyKept.instantiate given⟩

/-! ## Acts -/

namespace Act

/-- An act of a term that leaves a state in which everything remembered fits, if it finds such a
one. -/
def Fitting (t : Term) (α : Type) (act : Unit → Act α) : Prop :=
  ∀ (known : Definition → Prop) (s : State), s.Fits known t →
    ∃ later, s.world.Advance known (act () s).2.world later ∧ (act () s).2.Fits later t

namespace Fitting

variable {α : Type}

/-- For an act that changes nothing but the fact, the log and what the term remembers. -/
theorem of_quiet {act : Unit → Act α}
    (quiet : ∀ known (s : State), s.world.Advance known (act () s).2.world known)
    (registry : ∀ s, (act () s).2.world.registry = s.world.registry)
    (memory : ∀ known s, s.Fits known t → (act () s).2.memory.Fits known t) :
    Fitting t α act := by
  intro known s fits
  refine ⟨known, quiet known s, memory known s fits, ?_⟩
  rw [registry]
  exact fits.registry

/-- For an act that leaves the world as it is. -/
theorem of_world {act : Unit → Act α} (same : ∀ s, (act () s).2.world = s.world)
    (memory : ∀ known s, s.Fits known t → (act () s).2.memory.Fits known t) :
    Fitting t α act := by
  refine of_quiet (fun known s => ?_) (fun s => ?_) memory
  · rw [same]
    exact .refl s.world
  · rw [same]

theorem of_still {act : Unit → Act α} (still : ∀ s, (act () s).2 = s) : Fitting t α act :=
  of_world (fun s => by rw [still]) fun known s fits => by rw [still]; exact fits.memory

/-- What is done against another fact. -/
theorem withFact {act : Unit → Act α} (fitting : Fitting t α act) (fact : World → Fact) :
    Fitting t α fun _ s => Act.withFact (fact s.world) (act ()) s := by
  intro known s fits
  obtain ⟨later, advance, after⟩ := fitting known
    { s with world := { s.world with fact := fact s.world } } ⟨fits.memory, fits.registry⟩
  exact ⟨later, advance.against _, after.memory, after.registry⟩

theorem closed (t : Term) : Closed (Fitting t) where
  pure _ := .of_still fun _ => rfl
  fail _ := .of_still fun _ => rfl
  bind {_ _ act f} first next := by
    intro known s fits
    obtain ⟨between, advance, after⟩ := first known s fits
    dsimp only
    rcases bind_cases (act ()) (f ()) s with ⟨a, s₁, ran, whole⟩ | ⟨e, s₁, ran, whole⟩
    · rw [ran] at advance after
      rw [whole]
      obtain ⟨later, advance', after'⟩ := next a between s₁ after
      exact ⟨later, advance.trans advance', after'⟩
    · rw [ran] at advance after
      rw [whole]
      exact ⟨between, advance, after⟩
  overlay row _ fitting := fitting.withFact fun w => .overlay row w.fact
  vacant fitting := fitting.withFact fun _ => .empty

theorem looks (t : Term) (field : String) : Looks (Fitting t) field where
  read := .of_still fun _ => rfl
  holds := .of_still fun _ => rfl

theorem note {r : Record} (quiet : r.IsQuiet) : Fitting t Unit fun _ => Act.note r :=
  of_quiet (fun _ s => .note s.world quiet) (fun _ => rfl) fun _ _ fits => fits.memory

/-- The steps that only some operators take. -/
theorem permitted (level : Level) {b : Builtin} (operator : t.operator = .builtin b) :
    b.Permitted (Fitting t) level fun _ => t where
  exchange is v := .of_world (fun _ => rfl) fun _ _ fits =>
    fits.memory.setBlock (operator.trans (congrArg _ is)) nofun
  collect is keys := .of_world (fun _ => rfl) fun _ _ fits =>
    fits.memory.setBlock (operator.trans (congrArg _ is)) nofun
  pattern is source := by
    refine .of_world (fun s => ?_) fun known s fits => ?_
    · show (Operators.patternOf source s).2.world = s.world
      rw [Operators.patternOf_eq]
      cases Pattern.ofSource source <;> rfl
    · rw [Operators.patternOf_eq]
      cases Pattern.ofSource source with
      | ok p => exact fits.memory.setBlock (operator.trans (congrArg _ is)) nofun
      | error e => exact fits.memory
  append _ field _ a := by
    have same (s : State) : (Act.append field a s).2.world.registry = s.world.registry ∧
        (Act.append field a s).2.world.nextGeneration = s.world.nextGeneration ∧
        (Act.append field a s).2.world.log = s.world.log ∧
        (Act.append field a s).2.memory = s.memory := by
      unfold Act.append
      cases s.world.fact.append? field a <;> exact ⟨rfl, rfl, rfl, rfl⟩
    refine .of_quiet (fun known s => ?_) (fun s => (same s).1) fun known s fits => ?_
    · exact .of_registry (same s).1 (same s).2.1
        ((same s).2.2.1.trans (List.nil_append _).symm) nofun
    · rw [(same s).2.2.2]
      exact fits.memory
  define _ := by
    rcases Operators.define_cases t with ⟨e, -, run⟩ | ⟨name, body, defines, run⟩
    · exact .of_still fun s => by rw [run]
    · intro known s fits
      dsimp only
      rw [run]
      split
      · rename_i made
        obtain ⟨-, -, rfl⟩ := World.define_eq_ok.1 made
        obtain ⟨later, advance, registry⟩ := fits.registry.adding
          (d := .ofTerm name ⟨body, s.memory.child 1⟩) fun given is => by
            cases is
            exact (fits.memory.child defines.carried).fresh
        exact ⟨later, advance, fits.memory.mono advance.more, registry⟩
      · exact ⟨known, .refl s.world, fits⟩
  undefine _ name := by
    intro known s fits
    show ∃ later, s.world.Advance known (Act.change _ s).2.world later ∧
      (Act.change _ s).2.Fits later t
    rw [Act.change, World.undefine_apply]
    cases Builtin.ofName? name with
    | some b => exact ⟨known, .refl s.world, fits⟩
    | none =>
        obtain ⟨later, advance, registry⟩ := fits.registry.removing name
        exact ⟨later, advance, fits.memory.mono advance.more, registry⟩
  kept _ k n := note fun _ => rfl
  traced _ v := note fun _ => rfl

theorem counterparts {evaluate : Evaluator}
    (below : ∀ site c, Fitting c Value fun _ => evaluate site c) (t : Term) (depth : Nat) :
    Counterparts (Fitting t) (fun _ => evaluate) (fun _ => depth) fun _ => t := by
  refine .ofTerm (fun p c carried rows known s fits => ?_) (fun _ name _ => looks t name)
    (fun _ => .of_still fun _ => rfl) fun _ _ => .of_still fun _ => rfl
  obtain ⟨later, advance, after⟩ := below ⟨rows, depth + 1⟩ c known
    { s with memory := s.memory.child p } ⟨fits.memory.child carried, fits.registry⟩
  exact ⟨later, advance, (fits.memory.mono advance.more).setChild carried after.memory,
    after.registry⟩

end Fitting

end Act

/-! ## Evaluations -/

section

variable {evaluate : Evaluator} (below : ∀ site c, Act.Fitting c Value fun _ => evaluate site c)
include below

/-- A call of a definition that was made. -/
theorem Definition.run_fitting {d : Definition} {name : String}
    (isCustom : t.operator = .custom name) (site : Site) {s : State} (fits : s.Fits known t)
    (found : s.world.registry.lookup? name = some d) :
    ∃ later, s.world.Advance known (d.run evaluate site t s).2.world later ∧
      (d.run evaluate site t s).2.Fits later t := by
  have named : d.name = t.name := by
    rw [Registry.name_of_lookup? found, Term.name, isCustom]
    rfl
  have member := Registry.mem_of_lookup? found
  cases admitted : d.arity.admits t.arity with
  | false =>
      rw [run_refused admitted]
      exact ⟨known, .refl s.world, fits⟩
  | true =>
      cases isBody : d.body with
      | expression body =>
          rw [run_expression isBody admitted]
          obtain ⟨⟨d', body', filled⟩, inside⟩ := Definition.expansionFor_fits
            (fits.registry.made d member) named isBody (fits.registry.bodies d member body isBody)
            fits.memory
          have noted : s.world.Advance known (d.worldFor t s.memory s.world) known := by
            rcases d.worldFor_cases t s.memory s.world with same | noted
            · rw [same]
              exact .refl s.world
            · rw [noted]
              exact .note s.world fun _ => rfl
          obtain ⟨later, advance, after⟩ := below site.deeper _ known
            ⟨(d.expansionFor body t s.memory).memory, d.worldFor t s.memory s.world⟩
            ⟨inside, by rw [d.registry_worldFor]; exact fits.registry⟩
          exact ⟨later, noted.trans advance,
            (fits.memory.mono advance.more).setExpansion isCustom
              ⟨d', body', { filled with known := advance.more d' filled.known }⟩ after.memory,
            after.registry⟩
      | native run =>
          have L := Act.Fitting.closed t
          have C := Act.Fitting.counterparts below t site.depth
          have operands : Act.Fitting t (List Value) fun _ =>
              resolveAll evaluate site t t.positions :=
            resolveAll_closed L.toComposes C t.positions
          have whole : Act.Fitting t Value fun _ => d.run evaluate site t := by
            rw [run_native isBody admitted]
            refine L.bind operands fun args => .of_still fun s => ?_
            show (Act.ofExcept (run args s.world.fact site.rows) s).2 = s
            cases run args s.world.fact site.rows <;> rfl
          exact whole known s fits

/-- **One step leaves what fits**, if the evaluations below do so. -/
theorem dispatch_fitting (settings : Settings) (site : Site) (t : Term) :
    Act.Fitting t Value fun _ => dispatch settings evaluate site t := by
  intro known s fits
  have noted : s.world.Advance known (s.world.note (.dispatched site.depth t)) known :=
    .note s.world fun _ => rfl
  have entered : State.Fits known t ⟨s.memory, s.world.note (.dispatched site.depth t)⟩ :=
    ⟨fits.memory, fits.registry⟩
  dsimp only
  cases operator : t.operator with
  | builtin b =>
      cases hosted : s.world.registry.hosts b with
      | false =>
          rw [dispatch_unhosted operator hosted]
          exact ⟨known, noted, entered⟩
      | true =>
          rw [dispatch_builtin operator hosted, Act.mapError_state]
          have run : Act.Fitting t Value fun _ => b.run settings evaluate site t :=
            Builtin.run_closed (Act.Fitting.closed t)
              (Act.Fitting.counterparts below t site.depth) settings b
              (Act.Fitting.permitted _ operator)
          obtain ⟨later, advance, after⟩ := run known _ entered
          exact ⟨later, noted.trans advance, after⟩
  | custom name =>
      cases found : s.world.registry.lookup? name with
      | none =>
          rw [dispatch_undefined operator found]
          exact ⟨known, noted, entered⟩
      | some d =>
          rw [dispatch_custom operator found, Act.mapError_state]
          obtain ⟨later, advance, after⟩ :=
            Definition.run_fitting below operator site entered found
          exact ⟨later, noted.trans advance, after⟩

end

/-- **Every evaluation leaves what fits**, whether it succeeds or fails. -/
theorem evalAt_fitting (settings : Settings) : ∀ levels site t,
    Act.Fitting t Value fun _ => evalAt settings levels site t
  | 0, _, _ => .of_still fun _ => rfl
  | levels + 1, site, t => dispatch_fitting (evalAt_fitting settings levels) settings site t

/-! ## Programs -/

namespace Session

/-- The definitions that were made from one moment of a program to another. -/
def made (s s' : Session) : List Definition :=
  Record.made s.world.nextGeneration (s.world.since s'.world)

/-- A program at work, with all definitions that were made so far, the latest first. -/
inductive Chronicle : Session → List Definition → Prop
  | start (hosted : List Builtin) (nextGeneration : Nat) :
      Chronicle ⟨[], { registry := { hosted }, nextGeneration }⟩ []
  | step {s s' : Session} {book : List Definition} : Chronicle s book → Step s s' →
      Chronicle s' (s.made s' ++ book)

/-- A term from the moment when it is built: it is evaluated time and again, with success or
not, and in between the program does whatever it can do.  The instance is what the last
evaluation left. -/
inductive Career (t : Term) : Session → Instance → List Definition → Prop
  | built {s : Session} {book : List Definition} : Chronicle s book →
      Career t { s with pool := ⟨t, .blank⟩ :: s.pool } ⟨t, .blank⟩ book
  | evaluated {s : Session} {i i' : Instance} {book : List Definition}
      {result : Except EvalError Value} {w : World} (settings : Settings) (rows : List Row)
      (fact : Fact) : Career t s i book →
      i.evaluate settings rows { s.world with fact } = (result, i', w) →
      Career t ⟨i' :: s.pool, w⟩ i' (s.made ⟨i' :: s.pool, w⟩ ++ book)
  | meanwhile {s s' : Session} {i : Instance} {book : List Definition} : Career t s i book →
      Step s s' → Career t s' i (s.made s' ++ book)

/-- Everything a program has remembers what fits, and its definitions are told apart by their
numbers. -/
structure Fits (book : List Definition) (s : Session) : Prop where
  registry : s.world.registry.Fits (· ∈ book)
  pool : ∀ i ∈ s.pool, i.memory.Fits (· ∈ book) i.term
  numbered : ∀ d ∈ book, d.generation < s.world.nextGeneration
  numbers : book.Pairwise fun d e => e.generation < d.generation

variable {s s' : Session} {i : Instance} {book : List Definition}

/-- What changes in a step is on record. -/
theorem Fits.advance (fits : s.Fits book) {later : Definition → Prop}
    (advance : s.world.Advance (· ∈ book) s'.world later) (registry : s'.world.registry.Fits later)
    (pool : ∀ i ∈ s'.pool, i.memory.Fits later i.term) : s'.Fits (s.made s' ++ book) := by
  obtain ⟨recorded, rfl⟩ := advance.since
  have more (d : Definition) (known : d ∈ book ∨ d ∈ s.made s') : d ∈ s.made s' ++ book :=
    List.mem_append.2 known.symm
  refine ⟨registry.mono more, fun i member => (pool i member).mono more, fun d member => ?_, ?_⟩
  · rw [recorded.numbers]
    rcases List.mem_append.1 member with new | old
    · exact (Record.generation_of_mem_made new).2
    · exact Nat.lt_of_lt_of_le (fits.numbered d old) (Nat.le_add_right _ _)
  · refine List.pairwise_append.2 ⟨Record.pairwise_made _ _, fits.numbers, fun d new e old => ?_⟩
    exact Nat.lt_of_lt_of_le (fits.numbered e old) (Record.generation_of_mem_made new).1

/-- **What one step leaves fits.** -/
theorem Step.fits (step : Step s s') (fits : s.Fits book) : s'.Fits (s.made s' ++ book) := by
  -- A new instance in the same world.
  have join {i : Instance} (memory : i.memory.Fits (· ∈ book) i.term) :
      Fits (s.made { s with pool := i :: s.pool } ++ book) { s with pool := i :: s.pool } := by
    refine fits.advance (.refl s.world) fits.registry fun j member => ?_
    rcases List.mem_cons.1 member with rfl | member
    · exact memory
    · exact fits.pool j member
  -- The same instances in another world.
  have move {w : World} {later : Definition → Prop} (advance : s.world.Advance (· ∈ book) w later)
      (registry : w.registry.Fits later) :
      Fits (s.made { s with world := w } ++ book) { s with world := w } :=
    fits.advance advance registry fun i member => (fits.pool i member).mono advance.more
  cases step with
  | build t => exact join (.blank t)
  | fresh member => exact join (fits.pool _ member).fresh
  | instantiate member member' =>
      exact join ((fits.pool _ member).instantiate (fits.pool _ member'))
  | @evaluate i i' result w settings rows fact member ran =>
      obtain ⟨later, advance, after⟩ := evalAt_fitting settings (settings.maxDepth + 1) ⟨rows, 0⟩
        i.term (· ∈ book) ⟨i.memory, { s.world with fact }⟩ ⟨fits.pool i member, fits.registry⟩
      cases ran
      refine fits.advance (advance.against _) after.registry fun j member => ?_
      rcases List.mem_cons.1 member with rfl | member
      · exact after.memory
      · exact (fits.pool j member).mono advance.more
  | define bodies made =>
      obtain ⟨-, -, rfl⟩ := World.define_eq_ok.1 made
      obtain ⟨later, advance, registry⟩ := fits.registry.adding fun body isTerm =>
        fits.pool body (bodies body isTerm)
      exact move advance registry
  | redefine bodies made =>
      obtain ⟨-, -, rfl⟩ := World.redefine_eq_ok.1 made
      obtain ⟨later, advance, registry⟩ := fits.registry.adding fun body isTerm =>
        fits.pool body (bodies body isTerm)
      exact move advance registry
  | @undefine name removed w done =>
      rw [World.undefine_apply] at done
      split at done
      · cases done
      · cases done
        obtain ⟨later, advance, registry⟩ := fits.registry.removing name
        exact move advance registry
  | elsewhere count =>
      have none_ : s.made { s with
          world := { s.world with nextGeneration := s.world.nextGeneration + count } } = [] :=
        congrArg (Record.made _) (World.since_eq (List.nil_append _).symm)
      rw [none_]
      exact ⟨fits.registry, fits.pool,
        fun d member => Nat.lt_of_lt_of_le (fits.numbered d member) (Nat.le_add_right _ _),
        fits.numbers⟩

theorem Chronicle.fits (chronicle : Chronicle s book) : s.Fits book := by
  induction chronicle with
  | start hosted nextGeneration => exact ⟨⟨nofun, nofun⟩, nofun, nofun, .nil⟩
  | step _ step ih => exact step.fits ih

/-- A career is a part of a chronicle, and its instance one of the program. -/
theorem Career.chronicle {t : Term} (career : Career t s i book) :
    Chronicle s book ∧ i ∈ s.pool ∧ i.term = t := by
  induction career with
  | @built s book chronicle =>
      have none_ : s.made { s with pool := ⟨t, .blank⟩ :: s.pool } = [] :=
        congrArg (Record.made _) (World.since_eq (List.nil_append _).symm)
      have built := chronicle.step (.build t)
      rw [none_] at built
      exact ⟨built, List.mem_cons_self, rfl⟩
  | @evaluated s i i' book result w settings rows fact _ ran ih =>
      obtain ⟨chronicle, member, same⟩ := ih
      refine ⟨chronicle.step (.evaluate settings rows fact member ran), List.mem_cons_self, ?_⟩
      cases ran
      exact same
  | @meanwhile s s' i book _ step ih =>
      obtain ⟨chronicle, member, same⟩ := ih
      refine ⟨chronicle.step step, ?_, same⟩
      cases step <;> first | exact member | exact List.mem_cons_of_mem _ member

/-- **Evaluation changes what a term remembers and nothing else of it, and what it remembers
stays of its kind.**  Take a term that was newly built, any number of evaluations of it,
against any facts and rows, each of which succeeds or fails, and whatever the program does in
between.  The term is the one that was built.  At every depth, in nested terms and in terms
carried as data, a block is one that the operator there records; and an expansion kept under
a number is the body of the definition of that number, the only one there ever was, with the
operands of the term, and what it remembers fits again. -/
theorem Career.remembers_what_fits {t : Term} (career : Career t s i book) :
    i.term = t ∧ i.memory.Fits (· ∈ book) t ∧ (book.map (·.generation)).Nodup ∧
      ∀ d ∈ s.world.registry.custom, d ∈ book := by
  obtain ⟨chronicle, member, rfl⟩ := career.chronicle
  have fits := chronicle.fits
  refine ⟨rfl, fits.pool i member, ?_, fits.registry.made⟩
  exact List.pairwise_map.2 (fits.numbers.imp fun smaller => (Nat.ne_of_lt smaller).symm)

/-- `(hit k)` was called when `hit` was `(exists $0)`, and then `hit` was replaced: what the
term keeps is of the definition that is gone. -/
theorem Career.remembers_what_fits_replaced :
    let call : Term := .mk (.custom "hit") [.field "k"]
    ∃ (s : Session) (i : Instance) (book : List Definition), Career call s i book ∧
      book.map (·.generation) = [2, 1] ∧
      (s.world.registry.lookup? "hit").map (·.generation) = some 2 ∧
      (∃ e u, i.memory.block = some (.expansion 1 e u)) ∧
      i.term = call ∧ i.memory.Fits (· ∈ book) call ∧ (book.map (·.generation)).Nodup ∧
      ∀ d ∈ s.world.registry.custom, d ∈ book := by
  intro call
  let present : Instance := ⟨.mk (.builtin .present) [.placeholder 0], .blank⟩
  let absent : Instance := ⟨.mk (.builtin .absent) [.placeholder 0], .blank⟩
  let hit (body : Instance) : Definition :=
    { name := "hit", body := .expression body, arity := .exactly 1 }
  let built : World := { registry := { hosted := Registry.standard.hosted } }
  let defined : World := built.adding (hit present)
  let called := Instance.evaluate {} [] ⟨call, .blank⟩ { defined with fact := .empty }
  have fromPool {body : Instance} {pool : List Instance} (member : body ∈ pool) :
      ∀ b, (hit body).body = .expression b → b ∈ pool := by
    rintro _ ⟨⟩
    exact member
  have named : Registry.checkName "hit" = .ok () := rfl
  have made : built.define (hit present) = .ok defined := World.define_eq_ok.2 ⟨named, rfl, rfl⟩
  have redefined : called.2.2.redefine (hit absent) =
      .ok (called.2.2.adding (hit absent), called.2.2.registry.lookup? "hit") :=
    World.redefine_eq_ok.2 ⟨named, rfl, rfl⟩
  have chronicle := (((Chronicle.start Registry.standard.hosted 1).step (.build absent.term)).step
    (.build present.term)).step (.define (fromPool (by simp [present])) made)
  have ran : Instance.evaluate {} [] ⟨call, .blank⟩ { defined with fact := .empty } =
      (called.1, called.2.1, called.2.2) := rfl
  have career := (Career.built (t := call) chronicle).evaluated {} [] .empty ran
  have career := career.meanwhile (.redefine (fromPool (by simp [absent])) redefined)
  exact ⟨_, _, _, career, rfl, rfl, ⟨_, _, rfl⟩, career.remembers_what_fits⟩

end Session

end FactScan
