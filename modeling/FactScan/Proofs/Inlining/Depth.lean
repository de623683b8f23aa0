/-
# FactScan.Proofs.Inlining.Depth — the same evaluation at another depth

No operator asks at which depth its term is evaluated, or what was logged.  The depth shows
only in records, in the contexts of errors, and in the limit that an error from it names.  So
two evaluations of one term with equally many levels left, from states that differ in their
logs, give the same value and leave the same state but for the log, or they fail with errors
that differ in these places alone (`EvalError.Deeper`).

* `evalAt_deepens`: an evaluation so many levels deeper.
* `evalAt_withLog`: an evaluation at the same depth, with another log.
* `Interruption.apply_withLog`: in particular, nothing that happens to a registry depends on
  the log.
-/
import FactScan.Proofs.DepthLimit
import FactScan.Proofs.ExpansionCache

namespace FactScan

set_option autoImplicit false

/-! ## States with other logs -/

def World.withLog (w : World) (log : List Record) : World := { w with log }

def State.withLog (s : State) (log : List Record) : State := { s with world := s.world.withLog log }

/-- Two worlds that differ in their logs at most. -/
def World.Alike (w w' : World) : Prop := ∃ log, w' = w.withLog log

theorem World.Alike.of_note (w : World) (r r' : Record) : (w.note r).Alike (w.note r') :=
  ⟨r' :: w.log, rfl⟩

theorem World.Alike.note {w w' : World} (alike : w.Alike w') (r : Record) :
    w.Alike (w'.note r) := by
  obtain ⟨log, rfl⟩ := alike
  exact ⟨r :: log, rfl⟩

theorem World.Alike.of_noted {w w' : World} (alike : w.Alike w') (r : Record) :
    (w.note r).Alike w' := by
  obtain ⟨log, rfl⟩ := alike
  exact ⟨log, rfl⟩

theorem World.Alike.against {w w' : World} (alike : w.Alike w') (fact : Fact) :
    World.Alike { w with fact } { w' with fact } := by
  obtain ⟨log, rfl⟩ := alike
  exact ⟨log, rfl⟩

theorem World.Alike.parts {w w' : World} (alike : w.Alike w') :
    w.fact = w'.fact ∧ w.registry = w'.registry ∧ w.nextGeneration = w'.nextGeneration := by
  obtain ⟨log, rfl⟩ := alike
  exact ⟨rfl, rfl, rfl⟩

namespace World

variable (w : World) (log : List Record)

/-- Defining an operator is refused alike, or done alike. -/
theorem define_withLog (d : Definition) :
    (∃ e, w.define d = .error e ∧ (w.withLog log).define d = .error e) ∨
      w.define d = .ok (w.adding d) ∧
        (w.withLog log).define d = .ok ((w.adding d).withLog (.defined d :: log)) := by
  rw [define_apply, define_apply]
  cases Registry.checkName d.name with
  | error e => exact .inl ⟨e, rfl, rfl⟩
  | ok _ =>
      rw [show (w.withLog log).registry.lookup? d.name = w.registry.lookup? d.name from rfl]
      cases w.registry.lookup? d.name with
      | some _ => exact .inl ⟨_, rfl, rfl⟩
      | none => exact .inr ⟨rfl, rfl⟩

theorem redefine_withLog (d : Definition) :
    (∃ e, w.redefine d = .error e ∧ (w.withLog log).redefine d = .error e) ∨
      ∃ replaced, w.redefine d = .ok (w.adding d, replaced) ∧
        (w.withLog log).redefine d = .ok ((w.adding d).withLog (.defined d :: log), replaced) := by
  have name : (w.numbered d).name = d.name := rfl
  have name' : ((w.withLog log).numbered d).name = d.name := rfl
  unfold redefine Registry.redefine
  rw [name, name']
  cases Registry.checkName d.name with
  | error e => exact .inl ⟨e, rfl, rfl⟩
  | ok _ => exact .inr ⟨_, rfl, rfl⟩

theorem removing_withLog (name : String) :
    ∃ log', (w.withLog log).removing name = (w.removing name).withLog log' := by
  unfold removing
  dsimp only
  rw [show (w.withLog log).registry.lookup? name = w.registry.lookup? name from rfl]
  split
  · exact ⟨_, rfl⟩
  · exact ⟨_, rfl⟩

theorem undefine_withLog (name : String) :
    (∃ e, w.undefine name = .error e ∧ (w.withLog log).undefine name = .error e) ∨
      ∃ log' removed, w.undefine name = .ok (w.removing name, removed) ∧
        (w.withLog log).undefine name = .ok ((w.removing name).withLog log', removed) := by
  obtain ⟨log', same⟩ := w.removing_withLog log name
  rw [undefine_apply, undefine_apply]
  cases Builtin.ofName? name with
  | some b => exact .inl ⟨_, rfl, rfl⟩
  | none => exact .inr ⟨log', _, rfl, by rw [same]; rfl⟩

end World

/-- The native operators of a registry are among those of `natives`. -/
def Registry.NativesIn (natives : Native → Prop) (r : Registry) : Prop :=
  ∀ d ∈ r.custom, ∀ run, d.body = .native run → natives run

/-! ## Errors -/

/-- Some native operator can report the error. -/
def EvalError.ReportedBy (natives : Native → Prop) (e : EvalError) : Prop :=
  ∃ run, natives run ∧ ∃ args fact rows, run args fact rows = .error e

/-- Two errors that differ only in depths, the first one by `shift` deeper, and in the limit that
they name.  What a native operator reports may have contexts of its own, which are the same. -/
inductive EvalError.Deeper (natives : Native → Prop) (limits : Bool → Nat) (shift : Nat) :
    EvalError → EvalError → Prop
  | cause {e : EvalError} : e.contexts = [] ∨ e.ReportedBy natives → Deeper natives limits shift e e
  | limit :
      Deeper natives limits shift (.recursionLimit (limits true)) (.recursionLimit (limits false))
  | inside {e e' : EvalError} {text name : String} {depth rows : Nat} :
      Deeper natives limits shift e e' →
      Deeper natives limits shift (.evaluation text ⟨depth + shift, name, rows⟩ e)
        (.evaluation text ⟨depth, name, rows⟩ e')

variable {natives : Native → Prop} {limits : Bool → Nat} {shift : Nat}

namespace EvalError

variable {e e' : EvalError}

theorem IsLocal.contexts_eq_nil (own : e.IsLocal) : e.contexts = [] := by
  cases e <;> first | rfl | exact own.elim

theorem RaisedFor.contexts_eq_nil {t : Term} (raised : e.RaisedFor t) : e.contexts = [] := by
  cases raised <;> rfl

namespace Deeper

theorem concerns_eq (deeper : Deeper natives limits shift e e') (text : String) :
    e.concerns text = e'.concerns text := by
  cases deeper <;> rfl

/-- Both errors are wrapped on their way out of a term, or neither is. -/
theorem leaving (deeper : Deeper natives limits shift e e') (rows : List Row) (depth : Nat)
    (t : Term) :
    Deeper natives limits shift (e.leaving ⟨rows, depth + shift⟩ t)
      (e'.leaving ⟨rows, depth⟩ t) := by
  unfold EvalError.leaving
  rw [deeper.concerns_eq]
  split
  · exact deeper
  · exact .inside deeper

theorem breadcrumb_eq (deeper : Deeper natives limits shift e e') :
    e.breadcrumb = e'.breadcrumb := by
  induction deeper with
  | cause => rfl
  | limit => rfl
  | inside _ ih => rw [breadcrumb, breadcrumb, ih]

/-- The root causes are the same, up to the limit. -/
theorem rootCause_cases (deeper : Deeper natives limits shift e e') :
    e.rootCause = e'.rootCause ∨
      e.rootCause = .recursionLimit (limits true) ∧
        e'.rootCause = .recursionLimit (limits false) := by
  induction deeper with
  | cause => exact .inl rfl
  | limit => exact .inr ⟨rfl, rfl⟩
  | inside _ ih => exact ih

/-- The contexts differ by the depth, but for those that a native operator reported. -/
theorem contexts_cases (deeper : Deeper natives limits shift e e') :
    ∃ own reported : List CallContext,
      e.contexts = own.map (fun c => { c with depth := c.depth + shift }) ++ reported ∧
      e'.contexts = own ++ reported ∧
      (reported = [] ∨
        ∃ cause : EvalError, cause.ReportedBy natives ∧ cause.contexts = reported) := by
  induction deeper with
  | @cause e origin =>
      refine ⟨[], e.contexts, rfl, rfl, ?_⟩
      exact origin.imp id fun reported => ⟨e, reported, rfl⟩
  | limit => exact ⟨[], [], rfl, rfl, .inl rfl⟩
  | @inside e e' text name depth rows _ ih =>
      obtain ⟨own, reported, contexts, contexts', origin⟩ := ih
      refine ⟨⟨depth, name, rows⟩ :: own, reported, ?_, ?_, origin⟩
      · rw [EvalError.contexts, contexts]
        rfl
      · rw [EvalError.contexts, contexts']
        rfl

end Deeper

end EvalError

/-! ## Acts -/

/-- Two ends of an act, the first of them deeper: the same value or errors that differ in the
depth, and the same state but for the log. -/
inductive Act.EndsDeeper (natives : Native → Prop) (limits : Bool → Nat) (shift : Nat) {α : Type} :
    Except EvalError α × State → Except EvalError α × State → Prop
  | ok {a : α} {s : State} {log : List Record} : s.world.registry.NativesIn natives →
      EndsDeeper natives limits shift (.ok a, s) (.ok a, s.withLog log)
  | error {e e' : EvalError} {s : State} {log : List Record} :
      s.world.registry.NativesIn natives → EvalError.Deeper natives limits shift e e' →
      EndsDeeper natives limits shift (.error e, s) (.error e', s.withLog log)

/-- A change of the states that looks neither at the log nor at the registry. -/
theorem Act.EndsDeeper.after {α : Type} {x y : Except EvalError α × State}
    (ends : Act.EndsDeeper natives limits shift x y) {f : State → State}
    (registry : ∀ s, (f s).world.registry = s.world.registry)
    (unlogged : ∀ s log, f (s.withLog log) = (f s).withLog log) :
    Act.EndsDeeper natives limits shift (x.1, f x.2) (y.1, f y.2) := by
  cases ends with
  | @ok a s log inside =>
      dsimp only
      rw [unlogged]
      exact .ok (by rw [registry]; exact inside)
  | @error e e' s log inside deeper =>
      dsimp only
      rw [unlogged]
      exact .error (by rw [registry]; exact inside) deeper

/-- Two acts, of which the first is `true`, that end so from states that differ in their
logs. -/
def Act.Deepens (natives : Native → Prop) (limits : Bool → Nat) (shift : Nat) (α : Type)
    (act : Bool → Act α) : Prop :=
  ∀ (s : State) (log : List Record), s.world.registry.NativesIn natives →
    Act.EndsDeeper natives limits shift (act true s) (act false (s.withLog log))

namespace Act.Deepens

variable {α : Type}

/-- An act that does nothing, but to look at the fact. -/
theorem of_still {act : Bool → Act α} {r : Fact → Except EvalError α}
    (own : ∀ fact e, r fact = .error e → e.contexts = [])
    (still : ∀ b s, act b s = (r s.world.fact, s)) : Deepens natives limits shift α act := by
  intro s log inside
  rw [still, still]
  show EndsDeeper natives limits shift (r s.world.fact, s) (r s.world.fact, s.withLog log)
  cases result : r s.world.fact with
  | ok a => exact .ok inside
  | error e => exact .error inside (.cause (.inl (own _ e result)))

theorem fail {e : EvalError} (own : e.contexts = []) :
    Deepens natives limits shift α fun _ => Act.fail e :=
  .of_still (r := fun _ => .error e) (by rintro _ _ ⟨⟩; exact own) fun _ _ => rfl

/-- What is done against another fact. -/
theorem withFact {act : Bool → Act α} (deepens : Deepens natives limits shift α act)
    (fact : Fact → Fact) :
    Deepens natives limits shift α fun b s => Act.withFact (fact s.world.fact) (act b) s := by
  intro s log inside
  have ends := deepens { s with world := { s.world with fact := fact s.world.fact } } log inside
  exact ends.after (f := fun s' => { s' with world := { s'.world with fact := s.world.fact } })
    (fun _ => rfl) fun _ _ => rfl

theorem closed : Closed (Deepens natives limits shift) where
  pure a := .of_still (r := fun _ => .ok a) nofun fun _ _ => rfl
  fail own := .fail own.contexts_eq_nil
  bind {_ _ act f} first next := by
    intro s log inside
    have ends := first s log inside
    show EndsDeeper natives limits shift (Act.bind (act true) (f true) s)
      (Act.bind (act false) (f false) (s.withLog log))
    unfold Act.bind
    revert ends
    generalize act true s = x
    generalize act false (s.withLog log) = y
    rintro (⟨inside'⟩ | ⟨inside', deeper⟩)
    · exact next _ _ _ inside'
    · exact .error inside' deeper
  overlay row _ deepens := deepens.withFact (.overlay row)
  vacant deepens := deepens.withFact fun _ => .empty

theorem looks (field : String) : Looks (Deepens natives limits shift) field where
  read := .of_still (r := fun x => .ok (x.read field)) nofun fun _ _ => rfl
  holds := .of_still (r := fun x => .ok (x.holds field)) nofun fun _ _ => rfl

/-- An act that changes the log and what the term remembers, both in a way of their own. -/
theorem of_quiet {act : Bool → Act α} (r : State → α) (memory : State → Memory)
    (logged : ∀ b s, ∃ log, act b s = (.ok (r s), ⟨memory s, s.world.withLog log⟩))
    (unlogged : ∀ s log, r (s.withLog log) = r s ∧ memory (s.withLog log) = memory s) :
    Deepens natives limits shift α act := by
  intro s log inside
  obtain ⟨first, ran⟩ := logged true s
  obtain ⟨second, ran'⟩ := logged false (s.withLog log)
  rw [ran, ran', (unlogged s log).1, (unlogged s log).2]
  exact .ok (s := ⟨memory s, s.world.withLog first⟩) inside

theorem note (r : Bool → Record) : Deepens natives limits shift Unit fun b => Act.note (r b) :=
  .of_quiet (fun _ => ()) (fun s => s.memory) (fun b s => ⟨r b :: s.world.log, rfl⟩)
    fun _ _ => ⟨rfl, rfl⟩

theorem define (t : Term) :
    Deepens natives limits shift Value fun _ => Operators.define t := by
  rcases Operators.define_cases t with ⟨e, nothing, run⟩ | ⟨name, body, -, run⟩
  · have unwrapped : e.contexts = [] :=
      nothing.origin.elim (·.contexts_eq_nil) (·.contexts_eq_nil)
    exact .of_still (r := fun _ => .error e) (by rintro _ _ ⟨⟩; exact unwrapped) fun _ s => run s
  · intro s log inside
    dsimp only
    rw [run, run]
    dsimp only [State.withLog]
    rcases s.world.define_withLog log (.ofTerm name ⟨body, s.memory.child 1⟩) with
      ⟨e, failed, failed'⟩ | ⟨made, made'⟩
    · rw [failed, failed']
      exact .error inside (.cause (.inl (World.define_error_isLocal failed).contexts_eq_nil))
    · rw [made, made']
      exact .ok (s := { s with world := s.world.adding _ }) (World.forall_adding inside nofun)

/-- The steps that only some operators take. -/
theorem permitted (t : Term) (b : Builtin) (level : Level) :
    b.Permitted (Deepens natives limits shift) level fun _ => t where
  exchange _ v := .of_quiet (fun s => Operators.previousOf s.memory.block)
    (fun s => s.memory.setBlock (some (.previous v)))
    (fun _ s => ⟨s.world.log, rfl⟩) fun _ _ => ⟨rfl, rfl⟩
  collect _ keys := .of_quiet
    (fun s => keys.all fun key => !(Operators.seenOf s.memory.block).contains key)
    (fun s => s.memory.setBlock
      (some (.seen (keys.foldl Operators.insertKey (Operators.seenOf s.memory.block)))))
    (fun _ s => ⟨s.world.log, rfl⟩) fun _ _ => ⟨rfl, rfl⟩
  pattern _ source := by
    intro s log inside
    dsimp only
    rw [Operators.patternOf_eq, Operators.patternOf_eq]
    cases Pattern.ofSource source with
    | ok p => exact .ok (s := { s with memory := s.memory.setBlock (some (.pattern p)) }) inside
    | error e => exact .error inside (.cause (.inl rfl))
  append _ field _ a := by
    intro s log inside
    dsimp only
    unfold Act.append
    rw [show (s.withLog log).world.fact = s.world.fact from rfl]
    cases s.world.fact.append? field a with
    | some fact => exact .ok (s := ⟨s.memory, { s.world with fact }⟩) inside
    | none => exact .error inside (.cause (.inl rfl))
  define _ := define t
  undefine _ name := by
    intro s log inside
    dsimp only
    rcases s.world.undefine_withLog log name with
      ⟨e, failed, failed'⟩ | ⟨log', removed, done, done'⟩
    · rw [undefine_error failed, undefine_error (s := s.withLog log) failed']
      exact .error inside (.cause (.inl (World.undefine_error_isLocal failed).contexts_eq_nil))
    · rw [undefine_ok done, undefine_ok (s := s.withLog log) done']
      exact .ok (s := { s with world := s.world.removing name })
        (World.forall_undefine inside done)
  kept _ k n := note fun _ => .kept k n
  traced _ v := note fun _ => .traced level t v

/-- An act inside the wrapping of its errors. -/
theorem leaving {act : Bool → Act α} (deepens : Deepens natives limits shift α act)
    (rows : List Row) (depth : Nat) (t : Term) :
    Deepens natives limits shift α fun b =>
      Act.mapError (·.leaving ⟨rows, bif b then depth + shift else depth⟩ t) (act b) := by
  intro s log inside
  have ends := deepens s log inside
  dsimp only [cond_true, cond_false]
  unfold Act.mapError
  revert ends
  generalize act true s = x
  generalize act false (s.withLog log) = y
  rintro (⟨inside'⟩ | ⟨inside', deeper⟩)
  · exact .ok inside'
  · exact .error inside' (deeper.leaving rows depth t)

/-- A term corresponds to itself at the other depth. -/
theorem counterparts {evaluate : Bool → Evaluator}
    (below : ∀ rows depth c, Deepens natives limits shift Value fun b =>
      evaluate b ⟨rows, bif b then depth + shift else depth⟩ c) (t : Term) (depth : Nat) :
    Counterparts (Deepens natives limits shift) evaluate
      (fun b => bif b then depth + shift else depth) fun _ => t := by
  refine .ofTerm (fun p c _ rows s log inside => ?_) (fun _ name _ => looks name)
    (fun _ => .fail rfl) fun _ _ => .fail rfl
  have ends := below rows (depth + 1) c { s with memory := s.memory.child p } log inside
  dsimp only [cond_true, cond_false] at ends ⊢
  rw [Nat.add_right_comm] at ends
  exact ends.after (f := fun s' => { s' with memory := s.memory.setChild p s'.memory })
    (fun _ => rfl) fun _ _ => rfl

end Act.Deepens

/-! ## Evaluations -/

section

variable {evaluate : Bool → Evaluator}
  (below : ∀ rows depth c, Act.Deepens natives limits shift Value fun b =>
    evaluate b ⟨rows, bif b then depth + shift else depth⟩ c)
include below

theorem Definition.run_deepens (d : Definition)
    (native : ∀ run, d.body = .native run → natives run) (rows : List Row) (depth : Nat)
    (t : Term) :
    Act.Deepens natives limits shift Value fun b =>
      d.run (evaluate b) ⟨rows, bif b then depth + shift else depth⟩ t := by
  cases admitted : d.arity.admits t.arity with
  | false =>
      intro s log inside
      dsimp only
      rw [run_refused admitted, run_refused admitted]
      exact .error inside (.cause (.inl rfl))
  | true =>
      cases isBody : d.body with
      | expression body =>
          intro s log inside
          dsimp only [cond_true, cond_false]
          rw [run_expression isBody admitted, run_expression isBody admitted]
          -- The body is kept or filled in alike; only a new one is logged.
          obtain ⟨log', noted⟩ : ∃ log', (d.worldFor t s.memory (s.world.withLog log)) =
              (d.worldFor t s.memory s.world).withLog log' := by
            unfold worldFor
            split
            · exact ⟨log, rfl⟩
            · exact ⟨_, rfl⟩
          have ends := below rows (depth + 1) (d.expansionFor body t s.memory).term
            ⟨(d.expansionFor body t s.memory).memory, d.worldFor t s.memory s.world⟩ log'
            (by rw [d.registry_worldFor]; exact inside)
          dsimp only [cond_true, cond_false, State.withLog] at ends
          rw [Nat.add_right_comm, ← noted] at ends
          exact ends.after
            (f := fun s' => { s' with
              memory := s.memory.setBlock (some
                (.expansion d.generation (d.expansionFor body t s.memory).term s'.memory)) })
            (fun _ => rfl) fun _ _ => rfl
      | native run =>
          have L : Act.Closed (Act.Deepens natives limits shift) := Act.Deepens.closed
          have operands : Act.Deepens natives limits shift (List Value) fun b =>
              resolveAll (evaluate b) ⟨rows, bif b then depth + shift else depth⟩ t t.positions :=
            resolveAll_closed L.toComposes (Act.Deepens.counterparts below t depth) t.positions
          have call (args : List Value) : Act.Deepens natives limits shift Value fun _ =>
              Act.fact >>= fun fact => Act.ofExcept (run args fact rows) := by
            intro s log inside
            show Act.EndsDeeper natives limits shift
              (Act.ofExcept (run args s.world.fact rows) s)
              (Act.ofExcept (run args s.world.fact rows) (s.withLog log))
            cases reported : run args s.world.fact rows with
            | ok v => exact .ok inside
            | error e =>
                exact .error inside
                  (.cause (.inr ⟨run, native run isBody, args, s.world.fact, rows, reported⟩))
          have whole := L.bind operands call
          simp only [run_native isBody admitted]
          exact whole

/-- **One step comes out alike at either depth**, if the evaluations below do so. -/
theorem dispatch_deepens {settings : Bool → Settings}
    (level : (settings true).traceLevel = (settings false).traceLevel) (rows : List Row)
    (depth : Nat) (t : Term) :
    Act.Deepens natives limits shift Value fun b =>
      dispatch (settings b) (evaluate b) ⟨rows, bif b then depth + shift else depth⟩ t := by
  intro s log inside
  -- What comes after the dispatch, which is noted at either depth.
  have after {act : Bool → Act Value} (deepens : Act.Deepens natives limits shift Value act) :=
    deepens.leaving rows depth t
      { s with world := s.world.note (.dispatched (depth + shift) t) }
      (.dispatched depth t :: log) inside
  dsimp only [cond_true, cond_false] at after ⊢
  cases operator : t.operator with
  | builtin b =>
      have hosts : (s.withLog log).world.registry.hosts b = s.world.registry.hosts b := rfl
      cases hosted : s.world.registry.hosts b with
      | false =>
          rw [dispatch_unhosted operator hosted, dispatch_unhosted operator (hosts.trans hosted)]
          exact .error (s := ⟨s.memory, s.world.note _⟩) inside (.cause (.inl rfl))
      | true =>
          rw [dispatch_builtin operator hosted, dispatch_builtin operator (hosts.trans hosted),
            Builtin.run_settings level]
          exact after (Builtin.run_closed Act.Deepens.closed
            (Act.Deepens.counterparts below t depth) (settings false) b
            (Act.Deepens.permitted t b _))
  | custom name =>
      have lookup : (s.withLog log).world.registry.lookup? name = s.world.registry.lookup? name :=
        rfl
      cases found : s.world.registry.lookup? name with
      | none =>
          rw [dispatch_undefined operator found, dispatch_undefined operator (lookup.trans found)]
          exact .error (s := ⟨s.memory, s.world.note _⟩) inside (.cause (.inl rfl))
      | some d =>
          rw [dispatch_custom operator found, dispatch_custom operator (lookup.trans found)]
          exact after (Definition.run_deepens below d
            (inside d (Registry.mem_of_lookup? found)) rows depth t)

end

/-- **The same evaluation at another depth.**  With equally many levels left, it gives the same
value and leaves the same state, or fails with an error that differs only in depths and in the
limit that it names. -/
theorem evalAt_deepens (settings : Bool → Settings)
    (level : (settings true).traceLevel = (settings false).traceLevel) :
    ∀ levels rows depth t,
      Act.Deepens natives (fun b => (settings b).maxDepth) shift Value fun b =>
        evalAt (settings b) levels ⟨rows, bif b then depth + shift else depth⟩ t
  | 0, _, _, _ => fun _ _ inside => .error inside .limit
  | levels + 1, rows, depth, t =>
      dispatch_deepens (evalAt_deepens settings level levels) level rows depth t

/-! ## Logs -/

/-- At the same depth and with the same limit, errors do not differ at all. -/
theorem EvalError.Deeper.eq {limit : Nat} {e e' : EvalError}
    (deeper : EvalError.Deeper natives (fun _ => limit) 0 e e') : e = e' := by
  induction deeper with
  | cause _ => rfl
  | limit => rfl
  | inside _ ih => rw [ih, Nat.add_zero]

/-- An evaluation depends on the log it finds only in the log it leaves. -/
theorem evalAt_withLog (settings : Settings) (levels : Nat) (site : Site) (t : Term) (s : State)
    (log : List Record) :
    ∃ log', evalAt settings levels site t (s.withLog log) =
      ((evalAt settings levels site t s).1,
        (evalAt settings levels site t s).2.withLog log') := by
  have deepens : Act.Deepens (fun _ => True) (fun _ => settings.maxDepth) 0 _ _ :=
    evalAt_deepens (fun _ => settings) rfl levels site.rows site.depth t
  have ends := deepens s log fun _ _ _ _ => trivial
  dsimp only [cond_true, cond_false] at ends
  rw [Nat.add_zero] at ends
  revert ends
  generalize evalAt settings levels ⟨site.rows, site.depth⟩ t s = x
  generalize evalAt settings levels ⟨site.rows, site.depth⟩ t (s.withLog log) = y
  rintro (_ | ⟨_, deeper⟩)
  · exact ⟨_, rfl⟩
  · rw [deeper.eq]
    exact ⟨_, rfl⟩

/-- In worlds that differ in their logs, a term gives the same and leaves such worlds. -/
theorem evalAt_of_alike (settings : Settings) (levels : Nat) (site : Site) (t : Term) (m : Memory)
    {w w' : World} (alike : w.Alike w') :
    let ran := evalAt settings levels site t ⟨m, w⟩
    let ran' := evalAt settings levels site t ⟨m, w'⟩
    ran'.1 = ran.1 ∧ ran'.2.memory = ran.2.memory ∧ ran.2.world.Alike ran'.2.world := by
  obtain ⟨log, rfl⟩ := alike
  obtain ⟨log', ran⟩ := evalAt_withLog settings levels site t ⟨m, w⟩ log
  have ran : evalAt settings levels site t ⟨m, w.withLog log⟩ = _ := ran
  rw [ran]
  exact ⟨rfl, rfl, log', rfl⟩

theorem Interruption.apply_withLog (w : World) (log : List Record) (e : Interruption) :
    ∃ log', e.apply (w.withLog log) = (e.apply w).withLog log' := by
  cases e with
  | define d =>
      show ∃ log', ((w.withLog log).define d).toOption.getD _ =
        ((w.define d).toOption.getD w).withLog log'
      rcases w.define_withLog log d with ⟨e, failed, failed'⟩ | ⟨made, made'⟩
      · rw [failed, failed']
        exact ⟨log, rfl⟩
      · rw [made, made']
        exact ⟨_, rfl⟩
  | redefine d =>
      show ∃ log', (((w.withLog log).redefine d).toOption.map (·.1)).getD _ =
        (((w.redefine d).toOption.map (·.1)).getD w).withLog log'
      rcases w.redefine_withLog log d with ⟨e, failed, failed'⟩ | ⟨replaced, made, made'⟩
      · rw [failed, failed']
        exact ⟨log, rfl⟩
      · rw [made, made']
        exact ⟨_, rfl⟩
  | undefine name =>
      show ∃ log', (((w.withLog log).undefine name).toOption.map (·.1)).getD _ =
        (((w.undefine name).toOption.map (·.1)).getD w).withLog log'
      rcases w.undefine_withLog log name with
        ⟨e, failed, failed'⟩ | ⟨log', removed, done, done'⟩
      · rw [failed, failed']
        exact ⟨log, rfl⟩
      · rw [done, done']
        exact ⟨log', rfl⟩
  | other settings site fact i =>
      obtain ⟨log', same⟩ := evalAt_withLog settings (settings.maxDepth + 1 - site.depth) site
        i.term ⟨i.memory, { w with fact }⟩ log
      exact ⟨log', congrArg (·.2.world) same⟩
  | elsewhere count => exact ⟨log, rfl⟩

end FactScan
