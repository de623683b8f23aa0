/-
# FactScan.Proofs.Breadcrumb.Trail — the trail of an error is the chain of calls to it

Whether an error is wrapped on its way out of a term is decided by its text alone: an error
raised for a term is not wrapped by a term of the same text.  That could lose an entry if a
term printed like the one it was called from.  A nested term never does, and an expansion
does only if it calls the same operator with as many operands; but that call is then
admitted, for it is looked up in the same registry, so it raises no error for itself
(`Call.text_ne_of_refused`).

* `Call.exists_trail`: a call that fails has a trail, wrapped at every level;
* `evaluate_breadcrumb`: entries and contexts of an error are those of the chain of calls
  from the evaluated term to where its root cause was raised.
-/
import FactScan.Proofs.Breadcrumb.Blame

namespace FactScan

set_option autoImplicit false

/-! ## Evaluation inside its wrapping -/

/-- What an evaluation does before its error is wrapped. -/
def operate (settings : Settings) (evaluate : Evaluator) : Evaluator := fun site term => do
  Act.note (.dispatched site.depth term)
  match term.operator with
  | .builtin b =>
    if (← Act.registry).hosts b then b.run settings evaluate site term
    else Act.fail (.unknown term)
  | .custom name =>
    match (← Act.registry).lookup? name with
    | some d => d.run evaluate site term
    | none => Act.fail (.unknown term)

section

variable {settings : Settings} {evaluate : Evaluator} {site : Site} {term : Term} {s : State}

theorem operate_builtin {b : Builtin} (isBuiltin : term.operator = .builtin b) :
    operate settings evaluate site term s =
      (if s.world.registry.hosts b then b.run settings evaluate site term
        else Act.fail (.unknown term) : Act Value)
        { s with world := s.world.note (.dispatched site.depth term) } := by
  unfold operate
  rw [isBuiltin]
  rfl

theorem operate_custom {name : String} (isCustom : term.operator = .custom name) :
    operate settings evaluate site term s =
      (match s.world.registry.lookup? name with
        | some d => d.run evaluate site term
        | none => Act.fail (.unknown term) : Act Value)
        { s with world := s.world.note (.dispatched site.depth term) } := by
  unfold operate
  rw [isCustom]
  rfl

/-- Errors that dispatching raises by itself are not wrapped either way. -/
theorem dispatch_eq_mapError :
    dispatch settings evaluate site term s =
      Act.mapError (·.leaving site term) (operate settings evaluate site term) s := by
  have unknown : (EvalError.unknown term).leaving site term = .unknown term :=
    EvalError.leaving_of_concerns (beq_self_eq_true term.text)
  cases operator : term.operator with
  | builtin b =>
      rw [Act.mapError, operate_builtin operator]
      cases hosted : s.world.registry.hosts b with
      | true =>
          rw [dispatch_builtin operator hosted, if_pos rfl]
          rfl
      | false =>
          rw [dispatch_unhosted operator hosted, if_neg Bool.false_ne_true, Act.fail_apply]
          dsimp only
          rw [unknown]
  | custom name =>
      rw [Act.mapError, operate_custom operator]
      cases found : s.world.registry.lookup? name with
      | some d =>
          rw [dispatch_custom operator found]
          rfl
      | none =>
          rw [dispatch_undefined operator found]
          dsimp only
          rw [Act.fail_apply]
          dsimp only
          rw [unknown]

end

/-! ## Calls -/

/-- A term about to be evaluated: with so many levels left, in which place and state. -/
structure Call where
  levels : Nat
  site : Site
  term : Term
  state : State

namespace Call

variable (settings : Settings) (c : Call)

/-- The result of a call. -/
def result : Except EvalError Value := (evalAt settings c.levels c.site c.term c.state).1

/-- The result that the operator of a call would have if terms below were evaluated in the
given way. -/
def resultWith (evaluate : Evaluator) : Except EvalError Value :=
  (operate settings evaluate c.site c.term c.state).1

/-- The terms that the operator of a call may evaluate, and in which states: a nested
operand, as are the selector and the value of `agg`, or the expansion of a custom operator. -/
inductive Callee (c : Call) : Term → State → Prop
  | operand {t : Term} (below : State) : .nested t ∈ c.term.operands → Callee c t below
  | expansion {name : String} {d : Definition} {body : Instance} {below : State} :
      c.term.operator = .custom name → c.state.world.registry.lookup? name = some d →
      d.body = .expression body → d.arity.admits c.term.arity = true →
      below.world.registry = c.state.world.registry →
      Callee c (d.expansionFor body c.term c.state.memory).term below

/-- The evaluation of the first call dispatched the second one, one level below, and that
one failed: whatever error it had given, the operator of the first would have given. -/
structure FailsThrough (c c' : Call) : Prop where
  levels : c.levels = c'.levels + 1
  depth : c'.site.depth = c.site.depth + 1
  callee : c.Callee c'.term c'.state
  failed : ∃ e, c'.result settings = .error e
  passes : ∀ E, Evaluator.Extends (evalAt settings c'.levels) E → ∀ e,
    (E c'.site c'.term c'.state).1 = .error e → c.resultWith settings E = .error e

/-- The operator of the call raises the error itself: it would have done so whatever failing
evaluations below had given. -/
def Raises (e : EvalError) : Prop :=
  ∃ below, c.levels = below + 1 ∧
    ∀ E, Evaluator.Extends (evalAt settings below) E → c.resultWith settings E = .error e

/-- What an error says about a call it passed through. -/
def wrap (e : EvalError) : EvalError :=
  .evaluation c.term.text ⟨c.site.depth, c.term.name, c.site.rows.length⟩ e

/-- How the error of a call came about: the calls that wrapped it, outermost first, and the
call after them that was refused, if it came from a refusal. -/
inductive Trail : Call → EvalError → List Call → Option Call → Prop
  | limit {c : Call} : c.levels = 0 → Trail c (.recursionLimit settings.maxDepth) [] (some c)
  | refused {c : Call} {e : EvalError} : e.RaisedFor c.term → c.Raises settings e →
      Trail c e [] (some c)
  | own {c : Call} {e : EvalError} : e.IsLocal → c.Raises settings e →
      Trail c (c.wrap e) [c] none
  | through {c c' : Call} {e : EvalError} {entries : List Call} {next : Option Call} :
      c.FailsThrough settings c' → Trail c' e entries next →
      Trail c (c.wrap e) (c :: entries) next

variable {settings c}

end Call

/-! ## No entry is lost -/

/-- The same evaluator, except that all its failures are alike. -/
def Evaluator.muted (E₀ : Evaluator) : Evaluator := fun site t s =>
  match E₀ site t s with
  | (.ok v, s') => (.ok v, s')
  | (.error _, s') => (.error .divisionByZero, s')

theorem Evaluator.extends_muted (E₀ : Evaluator) : E₀.Extends E₀.muted := by
  intro site t s v s' done
  unfold muted
  rw [done]

theorem Evaluator.eq_of_muted {E₀ : Evaluator} {site : Site} {t : Term} {s : State}
    {e : EvalError} (failed : (E₀.muted site t s).1 = .error e) : e = .divisionByZero := by
  unfold muted at failed
  split at failed
  · cases failed
  · cases failed
    rfl

namespace Call

variable {settings : Settings} {c c' : Call} {e : EvalError}

/-- A call of a definition that admits its operands raises no error of its own. -/
theorem not_raises_of_admitted {name : String} {d : Definition} {body : Instance}
    (isCustom : c.term.operator = .custom name)
    (found : c.state.world.registry.lookup? name = some d) (isTerm : d.body = .expression body)
    (admitted : d.arity.admits c.term.arity = true) (raised : e.RaisedFor c.term) :
    ¬ c.Raises settings e := by
  rintro ⟨below, -, raises⟩
  have own := raises _ (Evaluator.extends_muted _)
  unfold resultWith at own
  rw [operate_custom isCustom, found] at own
  dsimp only at own
  rw [Definition.run_expression isTerm admitted] at own
  cases Evaluator.eq_of_muted own
  cases raised

/-- **A term from which a refused term was called has another text.** -/
theorem text_ne_of_refused (legible : c.term.IsLegible) (state : c.state.IsLegible)
    (legible' : c'.term.IsLegible) (callee : c.Callee c'.term c'.state)
    (raised : e.RaisedFor c'.term) (own : c'.Raises settings e) :
    c'.term.text ≠ c.term.text := by
  intro same
  obtain ⟨names, arities⟩ := Term.shape_of_text_eq legible' legible same
  -- Only an expansion can print like the term it was called from.
  have called : ∀ t below, c'.term = t → c'.state = below → c.Callee t below → False := by
    rintro t below isTerm isState (⟨_, member⟩ | ⟨isCustom, found, isBody, admitted, registry⟩)
    · exact Term.text_ne_of_nested (isTerm ▸ member) same
    · rename_i name d body
      have calls : c.term.name = name := by rw [Term.name, isCustom, Operator.name]
      have definition := state.registry d (Registry.mem_of_lookup? found)
      have free := definition.ofName?_eq_none
      rw [Registry.name_of_lookup? found] at free
      have operator : c'.term.operator = .custom name :=
        Operator.eq_custom (names.trans calls) free
      have found' : c'.state.world.registry.lookup? name = some d := by
        rw [isState, registry, found]
      have admitted' : d.arity.admits c'.term.arity = true := by rw [arities, admitted]
      exact not_raises_of_admitted operator found' isBody admitted' raised own
  exact called _ _ rfl rfl callee

/-- An error on its way out of a call is wrapped by the call before. -/
theorem Trail.concerns_eq_false {entries : List Call} {next : Option Call}
    (trail : Trail settings c' e entries next) (legible : c.term.IsLegible)
    (state : c.state.IsLegible) (legible' : c'.term.IsLegible)
    (callee : c.Callee c'.term c'.state) : e.concerns c.term.text = false := by
  cases trail with
  | limit => rfl
  | refused raised own =>
      rw [raised.concerns_eq, beq_eq_false_iff_ne]
      exact text_ne_of_refused legible state legible' callee raised own
  | own => rfl
  | through => rfl

/-! ## Every failure has a trail -/

/-- How the operator of a call ends. -/
theorem outcome {levels : Nat} (keeps : Evaluator.KeepsLegible (evalAt settings levels))
    (legible : c.term.IsLegible) (state : c.state.IsLegible) :
    Act.Outcome (evalAt settings levels) c.Callee c.site.depth c.term
      (fun E => operate settings E.1 c.site c.term) c.state := by
  have noted : State.IsLegible
      ⟨c.state.memory, c.state.world.note (.dispatched c.site.depth c.term)⟩ :=
    ⟨state.memory, state.registry⟩
  cases operator : c.term.operator with
  | builtin b =>
      cases hosted : c.state.world.registry.hosts b with
      | true =>
          have run := @Builtin.outcome _ c.Callee c.site.depth _ keeps legible
            (fun t member below => .operand below member) settings b c.site.rows _ noted
          exact run.of_eq fun E => by rw [operate_builtin operator, hosted, if_pos rfl]
      | false =>
          refine .raised _ (.inr .unknown) fun E => ?_
          rw [operate_builtin operator, hosted, if_neg Bool.false_ne_true, Act.fail_apply]
  | custom name =>
      cases found : c.state.world.registry.lookup? name with
      | some d =>
          have definition := state.registry d (Registry.mem_of_lookup? found)
          have run := @Definition.outcome _ c.Callee c.site.depth _ keeps legible d definition
            c.site.rows _ noted fun body isTerm admitted =>
              .expansion operator found isTerm admitted (d.registry_worldFor c.term _ _)
          exact run.of_eq fun E => by rw [operate_custom operator, found]
      | none =>
          refine .raised _ (.inr .unknown) fun E => ?_
          rw [operate_custom operator, found]
          rfl

/-- Evaluating a legible term leaves a legible state if it succeeds, and a trail if it
fails. -/
theorem evaluation (settings : Settings) : ∀ levels site term s, term.IsLegible → s.IsLegible →
    (∀ v s', evalAt settings levels site term s = (.ok v, s') → s'.IsLegible) ∧
    ∀ e, (evalAt settings levels site term s).1 = .error e →
      ∃ entries next, Trail settings ⟨levels, site, term, s⟩ e entries next
  | 0, site, term, s, _, _ => by
      refine ⟨fun v s' done => (nomatch done), fun e failed => ?_⟩
      cases failed
      exact ⟨_, _, .limit rfl⟩
  | levels + 1, site, term, s, legible, state => by
      have below := evaluation settings levels
      have keeps : Evaluator.KeepsLegible (evalAt settings levels) :=
        fun site t s v s' legible state done => (below site t s legible state).1 v s' done
      have self : Evaluator.Extends (evalAt settings levels) (evalAt settings levels) :=
        fun _ _ _ _ _ done => done
      have step : evalAt settings (levels + 1) site term s =
          Act.mapError (·.leaving site term)
            (operate settings (evalAt settings levels) site term) s := dispatch_eq_mapError
      rw [step]
      cases @outcome settings ⟨levels + 1, site, term, s⟩ levels keeps legible state with
      | ok a s₁ after same =>
          have done := same ⟨_, self⟩
          refine ⟨fun v s' result => ?_, fun e failed => ?_⟩
          · rw [Act.mapError_ok.2 done] at result
            cases result
            exact after
          · rw [Act.mapError_ok.2 done] at failed
            cases failed
      | raised e own same =>
          have failed := Act.mapError_fst_error (·.leaving site term) (same ⟨_, self⟩)
          have raises : Raises settings ⟨levels + 1, site, term, s⟩ e :=
            ⟨levels, rfl, fun E extends_ => same ⟨E, extends_⟩⟩
          refine ⟨fun v s' result => ?_, fun e' failed' => ?_⟩
          · rw [result] at failed
            cases failed
          · cases failed.symm.trans failed'
            rcases own with own | refused
            · rw [EvalError.leaving_of_not_concerns (own.concerns_eq_false _)]
              exact ⟨_, _, .own own raises⟩
            · have concerned : e.concerns term.text = true := by
                rw [refused.concerns_eq, beq_self_eq_true]
              rw [EvalError.leaving_of_concerns concerned]
              exact ⟨_, _, .refused refused raises⟩
      | passed site' t s₁ deeper callee legible' state' failed passes =>
          obtain ⟨e, failedBelow⟩ := failed
          obtain ⟨entries, next, trail⟩ := (below site' t s₁ legible' state').2 e failedBelow
          have failed := Act.mapError_fst_error (·.leaving site term)
            (passes ⟨_, self⟩ e failedBelow)
          have link : FailsThrough settings ⟨levels + 1, site, term, s⟩ ⟨levels, site', t, s₁⟩ :=
            ⟨rfl, deeper, callee, ⟨e, failedBelow⟩, fun E extends_ => passes ⟨E, extends_⟩⟩
          have other : e.concerns term.text = false :=
            trail.concerns_eq_false legible state legible' callee
          refine ⟨fun v s' result => ?_, fun e' failed' => ?_⟩
          · rw [result] at failed
            cases failed
          · cases failed.symm.trans failed'
            rw [EvalError.leaving_of_not_concerns other]
            exact ⟨_, _, .through link trail⟩

/-! ## Reading a trail -/

/-- Where the root cause of an error was raised, given the calls that wrapped it and the one
after them. -/
inductive Causes (settings : Settings) (entries : List Call) : Option Call → EvalError → Prop
  /-- The call after the last entry was refused for its operator or its operands, and the
  error names its term. -/
  | refused {n : Call} {e : EvalError} : e.RaisedFor n.term → n.Raises settings e →
      Causes settings entries (some n) e
  /-- The call after the last entry was refused because no level was left. -/
  | limit {n : Call} : n.levels = 0 →
      Causes settings entries (some n) (.recursionLimit settings.maxDepth)
  /-- The operator of the last entry raised it. -/
  | own {last : Call} {e : EvalError} : entries.getLast? = some last → e.IsLocal →
      last.Raises settings e → Causes settings entries none e

namespace Trail

variable {entries : List Call} {next : Option Call}

theorem head? (trail : Trail settings c e entries next) :
    (entries ++ next.toList).head? = some c := by
  cases trail with
  | limit => rfl
  | refused => rfl
  | own => rfl
  | through => rfl

theorem isChain (trail : Trail settings c e entries next) :
    (entries ++ next.toList).IsChain (FailsThrough settings) := by
  induction trail with
  | limit => exact .singleton _
  | refused => exact .singleton _
  | own => exact .singleton _
  | @through c c' e entries next link below ih =>
      have start := below.head?
      rw [List.cons_append]
      cases shape : entries ++ next.toList with
      | nil =>
          rw [shape] at start
          cases start
      | cons first rest =>
          rw [shape] at start ih
          cases start
          exact .cons_cons link ih

theorem breadcrumb_eq (trail : Trail settings c e entries next) :
    e.breadcrumb = entries.map (·.term.text) := by
  induction trail with
  | limit => rfl
  | refused raised => cases raised <;> rfl
  | @own c e local_ =>
      have plain : e.breadcrumb = [] := by
        cases e <;> first | rfl | exact local_.elim
      rw [wrap, EvalError.breadcrumb, plain, List.map_singleton]
  | through _ _ ih => rw [wrap, EvalError.breadcrumb, ih, List.map_cons]

/-- The contexts, each at its depth. -/
theorem contexts_eq (trail : Trail settings c e entries next) :
    e.contexts = entries.mapIdx fun i n =>
      ⟨c.site.depth + i, n.term.name, n.site.rows.length⟩ := by
  induction trail with
  | limit => rfl
  | refused raised => cases raised <;> rfl
  | @own c e local_ =>
      have plain : e.contexts = [] := by
        cases e <;> first | rfl | exact local_.elim
      rw [wrap, EvalError.contexts, plain]
      rfl
  | @through c c' e entries next link _ ih =>
      rw [wrap, EvalError.contexts, ih, List.mapIdx_cons, link.depth]
      congr 2
      funext i n
      rw [Nat.add_right_comm, Nat.add_assoc]

theorem causes (trail : Trail settings c e entries next) :
    Causes settings entries next e.rootCause := by
  induction trail with
  | limit none => exact .limit none
  | @refused c e raised own =>
      have root : e.rootCause = e := by cases raised <;> rfl
      rw [root]
      exact .refused raised own
  | @own c e local_ own =>
      have root : e.rootCause = e := by
        cases e <;> first | rfl | exact local_.elim
      rw [wrap, EvalError.rootCause, root]
      exact .own rfl local_ own
  | through _ _ ih =>
      rw [wrap, EvalError.rootCause]
      -- The root cause is that of the call below; only the list of entries is longer.
      revert ih
      generalize EvalError.rootCause _ = root
      intro ih
      cases ih with
      | refused raised own => exact .refused raised own
      | limit none => exact .limit none
      | own last local_ own =>
          refine .own ?_ local_ own
          rw [List.getLast?_cons, last]
          rfl

end Trail

end Call

/-- **The breadcrumb of an error is exact.**  If the evaluation of a legible term fails in a
legible state, there is a chain of calls from that of the term itself, each dispatched by the
operator of the one before and failing because of it, such that the terms and contexts that
the error passed through are exactly those of the chain, call by call, and its root cause
was raised at the end of the chain. -/
theorem evaluate_breadcrumb (settings : Settings) (rows : List Row) {term : Term} {s : State}
    (legible : term.IsLegible) (state : s.IsLegible) {e : EvalError}
    (failed : (evaluate settings rows term s).1 = .error e) :
    ∃ entries next,
      (entries ++ next.toList).head? = some ⟨settings.maxDepth + 1, ⟨rows, 0⟩, term, s⟩ ∧
      (entries ++ next.toList).IsChain (Call.FailsThrough settings) ∧
      e.breadcrumb = entries.map (·.term.text) ∧
      e.contexts = (entries.mapIdx fun i n => ⟨i, n.term.name, n.site.rows.length⟩) ∧
      Call.Causes settings entries next e.rootCause := by
  obtain ⟨entries, next, trail⟩ :=
    (Call.evaluation settings _ ⟨rows, 0⟩ term s legible state).2 e failed
  refine ⟨entries, next, trail.head?, trail.isChain, trail.breadcrumb_eq, ?_, trail.causes⟩
  have contexts := trail.contexts_eq
  simp only [Nat.zero_add] at contexts
  exact contexts

/-- `probe`, defined by `(not (exists $0 $0))`, which gives `exists` an operand too many. -/
def Definition.probe : Definition :=
  .ofTerm "probe" ⟨.mk (.builtin .not)
    [.nested (.mk (.builtin .present) [.placeholder 0, .placeholder 0])], .blank⟩

/-- Nothing remembered, and `probe` the only definition. -/
def State.probing : State :=
  ⟨.blank, { registry := { Registry.standard with custom := [.probe] } }⟩

theorem State.isLegible_probing : State.probing.IsLegible := by
  refine ⟨Memory.isLegible_blank, fun d member => ?_⟩
  rw [List.mem_singleton.1 member]
  refine ⟨by decide, _, rfl, Term.isLegible_mk.2 ⟨by decide, fun o member => ?_⟩⟩
  rw [List.mem_singleton.1 member]
  refine Term.isLegible_mk.2 ⟨by decide, fun o member => ?_⟩
  simp only [List.mem_cons, List.not_mem_nil, or_false, or_self] at member
  subst member
  trivial

theorem evaluate_breadcrumb_probe :
    ∃ e, (evaluate {} [] (.mk (.custom "probe") [.field "tags"]) .probing).1 = .error e ∧
      e.breadcrumb = ["(probe tags)", "(not (exists tags tags))"] ∧
      ∃ entries next,
        (entries ++ next.toList).head? =
          some ⟨257, ⟨[], 0⟩, .mk (.custom "probe") [.field "tags"], .probing⟩ ∧
        (entries ++ next.toList).IsChain (Call.FailsThrough {}) ∧
        e.breadcrumb = entries.map (·.term.text) ∧
        e.contexts = (entries.mapIdx fun i n => ⟨i, n.term.name, n.site.rows.length⟩) ∧
        Call.Causes {} entries next e.rootCause := by
  have legible : (Term.mk (.custom "probe") [.field "tags"]).IsLegible := by
    refine Term.isLegible_mk.2 ⟨by decide, fun o member => ?_⟩
    rw [List.mem_singleton.1 member]
    show Reader.isWord "tags".toList = true
    decide
  have failed : (evaluate {} [] (.mk (.custom "probe") [.field "tags"]) .probing).1 =
      .error (.evaluation "(probe tags)" ⟨0, "probe", 0⟩
        (.evaluation "(not (exists tags tags))" ⟨1, "not", 0⟩
          (.arity "exists" (.exactly 1) 2 "(exists tags tags)"))) := rfl
  exact ⟨_, failed, rfl, evaluate_breadcrumb {} [] legible State.isLegible_probing failed⟩

end FactScan
