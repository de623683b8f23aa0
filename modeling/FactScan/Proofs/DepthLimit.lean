/-
# FactScan.Proofs.DepthLimit — the depth limit only cuts evaluations off

An evaluation counts its levels down, and no operator asks how many are left or goes on
after a failure below it.  So two evaluations with different numbers of levels go the same
way until the one with fewer has none left, and then that one fails.

* `Act.CutOff`: of two acts, the second with more levels, either the first ends at the limit
  or both do the same.  It is closed under the steps of operators, and so every evaluation
  has it: `evalAt_cutOff`.
* `Act.EndsAt`: an error from the limit has passed through terms at given depths.  Each
  level of an evaluation adds its own depth and no other: `evalAt_endsAt`.
-/
import FactScan.Proofs.WorldChanges

namespace FactScan

set_option autoImplicit false

/-! ## Errors from the limit -/

namespace EvalError

/-- The error started where no level was left. -/
def IsLimit (e : EvalError) : Prop := ∃ limit, e.rootCause = .recursionLimit limit

variable {e : EvalError} {site : Site} {term : Term}

theorem isLimit_recursionLimit (limit : Nat) : IsLimit (.recursionLimit limit) := ⟨limit, rfl⟩

theorem IsLocal.not_isLimit (own : e.IsLocal) : ¬ e.IsLimit := by
  rintro ⟨limit, root⟩
  cases e <;> first | exact own | cases root

theorem RaisedFor.not_isLimit (raised : e.RaisedFor term) : ¬ e.IsLimit := by
  rintro ⟨limit, root⟩
  cases raised <;> cases root

/-- An error from the limit is about no term. -/
theorem IsLimit.concerns_eq_false (limit : e.IsLimit) (text : String) :
    e.concerns text = false := by
  obtain ⟨n, root⟩ := limit
  cases e <;> first | rfl | cases root

theorem isLimit_leaving : (e.leaving site term).IsLimit ↔ e.IsLimit := by
  unfold leaving
  split
  · exact Iff.rfl
  · exact Iff.rfl

/-- So every term it passes through on its way out is recorded. -/
theorem IsLimit.contexts_leaving (limit : e.IsLimit) :
    (e.leaving site term).contexts =
      ⟨site.depth, term.name, site.rows.length⟩ :: e.contexts := by
  rw [leaving_of_not_concerns (limit.concerns_eq_false _), contexts]

theorem length_breadcrumb (e : EvalError) : e.breadcrumb.length = e.contexts.length := by
  induction e with
  | evaluation term context source ih => rw [breadcrumb, contexts, List.length_cons, ih]; rfl
  | _ => rfl

end EvalError

/-! ## More levels -/

namespace Act

variable {α β : Type}

/-- Of two acts, the first is cut off by the limit or the second does the same. -/
def CutOff (α : Type) (act : Bool → Act α) : Prop :=
  ∀ s, (∃ e, (act false s).1 = .error e ∧ e.IsLimit) ∨ act true s = act false s

namespace CutOff

theorem same (act : Act α) : CutOff α fun _ => act := fun _ => .inr rfl

theorem bind {act : Bool → Act α} {f : Bool → α → Act β} (first : CutOff α act)
    (next : ∀ a, CutOff β fun b => f b a) : CutOff β fun b => act b >>= f b := by
  intro s
  dsimp only
  rcases first s with ⟨e, failed, limit⟩ | same
  · exact .inl ⟨e, bind_fst_error failed, limit⟩
  · rcases bind_cases (act false) (f false) s with ⟨a, s₁, ran, whole⟩ | ⟨e, s₁, ran, whole⟩
    · rw [whole, bind_ok (same.trans ran)]
      exact next a s₁
    · rw [whole, bind_error (same.trans ran)]
      exact .inr rfl

theorem withFact {act : Bool → Act α} (fact : State → Fact) (inside : CutOff α act) :
    CutOff α fun b => fun s => Act.withFact (fact s) (act b) s := by
  intro s
  simp only [withFact_apply]
  rcases inside { s with world := { s.world with fact := fact s } } with cut | same
  · exact .inl cut
  · exact .inr (by rw [same])

theorem atChild {act : Bool → Act α} (inside : CutOff α act) (p : Nat) :
    CutOff α fun b => Act.atChild p (act b) := by
  intro s
  simp only [atChild_apply]
  rcases inside { s with memory := s.memory.child p } with cut | same
  · exact .inl cut
  · exact .inr (by rw [same])

theorem inExpansion {act : Bool → Act α} (inside : CutOff α act) (generation : Nat) (body : Term)
    (m : Memory) : CutOff α fun b => Act.inExpansion generation body m (act b) := by
  intro s
  simp only [inExpansion_apply]
  rcases inside { s with memory := m } with cut | same
  · exact .inl cut
  · exact .inr (by rw [same])

theorem leaving {act : Bool → Act α} (inside : CutOff α act) (site : Site) (term : Term) :
    CutOff α fun b => mapError (·.leaving site term) (act b) := by
  intro s
  rcases inside s with ⟨e, failed, limit⟩ | same
  · exact .inl ⟨_, mapError_fst_error _ failed, EvalError.isLimit_leaving.2 limit⟩
  · refine .inr ?_
    show mapError _ (act true) s = mapError _ (act false) s
    rw [mapError, mapError, same]

theorem closed : Closed CutOff where
  pure _ := same _
  bind := bind
  fail _ := same _
  overlay row _ inside := inside.withFact fun s => .overlay row s.world.fact
  vacant inside := inside.withFact fun _ => .empty

theorem looks (field : String) : Looks CutOff field where
  read := same _
  holds := same _

theorem permitted (level : Level) (term : Term) (b : Builtin) :
    b.Permitted CutOff level fun _ => term where
  exchange _ _ := same _
  collect _ _ := same _
  pattern _ _ := same _
  append _ _ _ _ := same _
  define _ := same _
  undefine _ _ := same _
  kept _ _ _ := same _
  traced _ _ := same _

/-- Operands are cut off where evaluations are. -/
theorem counterparts {evaluate : Bool → Evaluator}
    (below : ∀ site t, CutOff Value fun b => evaluate b site t) (depth : Nat) (term : Term) :
    Counterparts CutOff evaluate (fun _ => depth) fun _ => term :=
  .ofTerm (fun p c _ rows => (below ⟨rows, depth + 1⟩ c).atChild p) (fun _ name _ => looks name)
    (fun _ => same _) fun _ _ => same _

end CutOff

end Act

/-- The settings of an operator are no more than the level of its records. -/
theorem Builtin.run_settings {settings settings' : Settings}
    (level : settings.traceLevel = settings'.traceLevel) (b : Builtin) (evaluate : Evaluator)
    (site : Site) (term : Term) :
    b.run settings evaluate site term = b.run settings' evaluate site term := by
  cases b with
  | traced => unfold Builtin.run; rw [level]
  | _ => rfl

theorem Definition.run_cutOff {evaluate : Bool → Evaluator} (d : Definition) (site : Site)
    (term : Term) (below : ∀ site t, Act.CutOff Value fun b => evaluate b site t) :
    Act.CutOff Value fun b => d.run (evaluate b) site term := by
  intro s
  cases admitted : d.arity.admits term.arity with
  | false => exact .inr (by simp only [run_refused admitted])
  | true =>
      cases isBody : d.body with
      | expression body =>
          simp only [run_expression isBody admitted]
          exact (below site.deeper _).inExpansion d.generation _ _ _
      | native run =>
          simp only [run_native isBody admitted]
          have L := Act.CutOff.closed
          have args : Act.CutOff (List Value) fun b =>
              resolveAll (evaluate b) site term term.positions :=
            resolveAll_closed L.toComposes (Act.CutOff.counterparts below site.depth term)
              term.positions
          exact L.bind args (fun args => .same (Act.fact >>= fun fact =>
            Act.ofExcept (run args fact site.rows))) s

/-- **Levels that are left over change nothing.** -/
theorem evalAt_cutOff (settings : Bool → Settings)
    (level : (settings true).traceLevel = (settings false).traceLevel) :
    ∀ few many, few ≤ many → ∀ site term,
      Act.CutOff Value fun b => evalAt (settings b) (cond b many few) site term
  | 0, _, _, site, term => fun s => .inl ⟨_, rfl, EvalError.isLimit_recursionLimit _⟩
  | few + 1, 0, le, _, _ => absurd le (Nat.not_succ_le_zero few)
  | few + 1, many + 1, le, site, term => by
      have below := evalAt_cutOff settings level few many (Nat.le_of_succ_le_succ le)
      intro s
      show (∃ e, (dispatch (settings false) (evalAt (settings false) few) site term s).1 =
          .error e ∧ e.IsLimit) ∨
        dispatch (settings true) (evalAt (settings true) many) site term s =
          dispatch (settings false) (evalAt (settings false) few) site term s
      cases operator : term.operator with
      | builtin b =>
          cases hosted : s.world.registry.hosts b with
          | false => exact .inr (by simp only [dispatch_unhosted operator hosted])
          | true =>
              have run : Act.CutOff Value fun c =>
                  b.run (settings false) (evalAt (settings c) (cond c many few)) site term :=
                Builtin.run_closed Act.CutOff.closed
                  (Act.CutOff.counterparts below site.depth term) (settings false) b
                  (Act.CutOff.permitted _ term b)
              simp only [dispatch_builtin operator hosted,
                Builtin.run_settings level b (evalAt (settings true) many)]
              exact run.leaving site term _
      | custom name =>
          cases found : s.world.registry.lookup? name with
          | none => exact .inr (by simp only [dispatch_undefined operator found])
          | some d =>
              simp only [dispatch_custom operator found]
              exact (d.run_cutOff site term below).leaving site term _

/-! ## Where an evaluation is cut off -/

/-- Every operator that is defined is defined by a term. -/
def Registry.IsNativeFree (r : Registry) : Prop :=
  ∀ d ∈ r.custom, ∃ body, d.body = .expression body

theorem World.nativeFree_lasting :
    Lasting fun w w' => w.registry.IsNativeFree → w'.registry.IsNativeFree where
  refl _ := id
  trans first second := second ∘ first
  note _ _ _ := id
  append _ _ := id
  against h := h
  define _ made free := forall_define free made ⟨_, rfl⟩
  undefine _ done free := forall_undefine free done

theorem Operators.define_error {term : Term} {s : State} {e : EvalError}
    (failed : (define term s).1 = .error e) : e.IsLocal ∨ e.RaisedFor term := by
  rcases define_cases term with ⟨e', nothing, run⟩ | ⟨name, body, -, run⟩
  · rw [run] at failed
    cases failed
    exact nothing.origin
  · rw [run] at failed
    split at failed
    · cases failed
    · rename_i refused
      cases failed
      exact .inl (World.define_error_isLocal refused)

namespace Act

variable {α β : Type}

/-- Without natives, an error from the limit has passed through terms at these depths. -/
def EndsAt (depths : List Nat) (α : Type) (act : Unit → Act α) : Prop :=
  ∀ s, s.world.registry.IsNativeFree → (act () s).2.world.registry.IsNativeFree ∧
    ∀ e, (act () s).1 = .error e → e.IsLimit → e.contexts.map (·.depth) = depths

namespace EndsAt

variable {depths : List Nat}

/-- An act whose errors are not from the limit. -/
theorem of_keeps {act : Unit → Act α}
    (keeps : Keeps (fun w w' => w.registry.IsNativeFree → w'.registry.IsNativeFree) α act)
    (raises : ∀ s e, (act () s).1 = .error e → ¬ e.IsLimit) : EndsAt depths α act :=
  fun s free => ⟨keeps s free, fun e failed limit => absurd limit (raises s e failed)⟩

theorem closed (depths : List Nat) : Closed (EndsAt depths) where
  pure _ := .of_keeps (fun _ => id) fun _ _ failed => nomatch failed
  fail own := .of_keeps (fun _ => id) fun _ _ failed => by cases failed; exact own.not_isLimit
  overlay row _ inside := fun s =>
    inside { s with world := { s.world with fact := .overlay row s.world.fact } }
  vacant inside := fun s => inside { s with world := { s.world with fact := .empty } }
  bind {_ _ act f} first next := by
    intro s free
    obtain ⟨freeAfter, ends⟩ := first s free
    rcases bind_cases (act ()) (f ()) s with ⟨a, s₁, ran, whole⟩ | ⟨e, s₁, ran, whole⟩
    · rw [ran] at freeAfter
      dsimp only
      rw [whole]
      exact next a s₁ freeAfter
    · rw [ran] at freeAfter ends
      dsimp only
      rw [whole]
      exact ⟨freeAfter, fun e' failed => by cases failed; exact ends e rfl⟩

theorem looks (depths : List Nat) (field : String) : Looks (EndsAt depths) field where
  read := .of_keeps (fun _ => id) fun _ _ failed => nomatch failed
  holds := .of_keeps (fun _ => id) fun _ _ failed => nomatch failed

theorem permitted (depths : List Nat) (level : Level) (term : Term) (b : Builtin) :
    b.Permitted (EndsAt depths) level fun _ => term := by
  have keeps := Keeps.permitted World.nativeFree_lasting level term (b := b) trivial
    fun _ _ _ => trivial
  have never {α : Type} {a : α} {e : EvalError} (failed : (.ok a : Except EvalError α) = .error e) :
      ¬ e.IsLimit := nomatch failed
  refine ⟨fun is v => .of_keeps (keeps.exchange is v) fun _ _ => never,
    fun is keys => .of_keeps (keeps.collect is keys) fun _ _ => never,
    fun is source => .of_keeps (keeps.pattern is source) fun s e failed => ?pattern,
    fun is field named a => .of_keeps (keeps.append is field named a) fun s e failed => ?append,
    fun is => .of_keeps (keeps.define is) fun s e failed => ?define,
    fun is name => .of_keeps (keeps.undefine is name) fun s e failed => ?undefine,
    fun is k n => .of_keeps (keeps.kept is k n) fun _ _ => never,
    fun is v => .of_keeps (keeps.traced is v) fun _ _ => never⟩
  case pattern =>
    rw [Operators.patternOf_apply] at failed
    split at failed
    · cases failed
    · split at failed
      · cases failed
      · cases failed
        exact EvalError.IsLocal.not_isLimit trivial
  case append =>
    unfold Act.append at failed
    split at failed
    · cases failed
    · cases failed
      exact EvalError.IsLocal.not_isLimit trivial
  case define =>
    exact (Operators.define_error failed).elim (·.not_isLimit) (·.not_isLimit)
  case undefine =>
    cases done : s.world.undefine name with
    | ok r =>
        rw [Act.undefine_ok done] at failed
        cases failed
    | error e' =>
        rw [Act.undefine_error done] at failed
        cases failed
        exact (World.undefine_error_isLocal done).not_isLimit

/-- Operands are cut off where evaluations are. -/
theorem counterparts {evaluate : Evaluator} {depth : Nat}
    (below : ∀ rows t, EndsAt depths Value fun _ => evaluate ⟨rows, depth + 1⟩ t) (term : Term) :
    Counterparts (EndsAt depths) (fun _ => evaluate) (fun _ => depth) fun _ => term :=
  .ofTerm (fun p c _ rows s free => below rows c { s with memory := s.memory.child p } free)
    (fun _ name _ => looks depths name)
    (fun expected => .of_keeps (fun _ => id) fun _ _ failed => by
      cases failed
      exact (EvalError.RaisedFor.arity expected).not_isLimit)
    (fun p expected => .of_keeps (fun _ => id) fun _ _ failed => by
      cases failed
      exact (EvalError.RaisedFor.operand p expected).not_isLimit)

/-- On its way out of a term the error passes through that term too. -/
theorem leaving {act : Unit → Act α} (inside : EndsAt depths α act) (site : Site) (term : Term) :
    EndsAt (site.depth :: depths) α fun _ => mapError (·.leaving site term) (act ()) := by
  intro s free
  obtain ⟨freeAfter, ends⟩ := inside s free
  refine ⟨by rw [mapError_state]; exact freeAfter, fun e failed limit => ?_⟩
  dsimp only at failed
  cases ran : (act () s).1 with
  | ok a =>
      have done : act () s = (.ok a, (act () s).2) := Prod.ext ran rfl
      rw [mapError_ok.2 done] at failed
      cases failed
  | error e' =>
      rw [mapError_fst_error _ ran] at failed
      cases failed
      have limit' := EvalError.isLimit_leaving.1 limit
      rw [limit'.contexts_leaving, List.map_cons, ends e' ran limit']

end EndsAt

end Act

theorem Definition.run_endsAt {evaluate : Evaluator} {depths : List Nat} {d : Definition}
    (isTerm : ∃ body, d.body = .expression body) (site : Site) (term : Term)
    (below : ∀ rows t, Act.EndsAt depths Value fun _ => evaluate ⟨rows, site.depth + 1⟩ t) :
    Act.EndsAt depths Value fun _ => d.run evaluate site term := by
  obtain ⟨body, isTerm⟩ := isTerm
  intro s free
  dsimp only
  cases admitted : d.arity.admits term.arity with
  | false =>
      rw [run_refused admitted]
      refine ⟨free, fun e failed limit => ?_⟩
      cases failed
      exact absurd limit (EvalError.RaisedFor.arity d.arity).not_isLimit
  | true =>
      rw [run_expression isTerm admitted, Act.inExpansion_apply]
      exact below site.rows _ _ (by simpa using free)

/-- **Each level adds its own depth**: an error from the limit has passed through one term at
each depth from that of the evaluation on, as many as there were levels. -/
theorem evalAt_endsAt (settings : Settings) :
    ∀ levels site term, Act.EndsAt (List.range' site.depth levels) Value fun _ =>
      evalAt settings levels site term
  | 0, _, _ => fun s free => ⟨free, fun e failed _ => by cases failed; rfl⟩
  | levels + 1, site, term => by
      have below : ∀ rows t, Act.EndsAt (List.range' (site.depth + 1) levels) Value fun _ =>
          evalAt settings levels ⟨rows, site.depth + 1⟩ t :=
        fun rows t => evalAt_endsAt settings levels ⟨rows, site.depth + 1⟩ t
      have unknown : ¬ (EvalError.unknown term).IsLimit := EvalError.RaisedFor.unknown.not_isLimit
      intro s free
      have noted : (s.world.note (.dispatched site.depth term)).registry.IsNativeFree := free
      rw [List.range'_succ]
      show (dispatch settings (evalAt settings levels) site term s).2.world.registry.IsNativeFree ∧
        ∀ e, (dispatch settings (evalAt settings levels) site term s).1 = .error e → e.IsLimit →
          e.contexts.map (·.depth) = site.depth :: List.range' (site.depth + 1) levels
      cases operator : term.operator with
      | builtin b =>
          cases hosted : s.world.registry.hosts b with
          | false =>
              rw [dispatch_unhosted operator hosted]
              exact ⟨free, fun e failed limit => by cases failed; exact absurd limit unknown⟩
          | true =>
              have run : Act.EndsAt (List.range' (site.depth + 1) levels) Value fun _ =>
                  b.run settings (evalAt settings levels) site term :=
                Builtin.run_closed (Act.EndsAt.closed _) (Act.EndsAt.counterparts below term)
                  settings b (Act.EndsAt.permitted _ _ term b)
              rw [dispatch_builtin operator hosted]
              exact run.leaving site term _ noted
      | custom name =>
          cases found : s.world.registry.lookup? name with
          | none =>
              rw [dispatch_undefined operator found]
              exact ⟨free, fun e failed limit => by cases failed; exact absurd limit unknown⟩
          | some d =>
              have run := Definition.run_endsAt (free d (Registry.mem_of_lookup? found)) site term
                below
              rw [dispatch_custom operator found]
              exact run.leaving site term _ noted

/-! ## The limit of an engine -/

/-- **The depth limit only cuts off.**  Under a higher limit an instance has the same result
and leaves the same instance and world, unless the lower one ends its evaluation; and
without natives the error then passed through exactly one term at each depth up to the
lower limit. -/
theorem Instance.evaluate_maxDepth (settings : Settings) {higher : Nat}
    (le : settings.maxDepth ≤ higher) (rows : List Row) (i : Instance) (w : World) :
    ((∀ e limit, (i.evaluate settings rows w).1 = .error e → e.rootCause ≠ .recursionLimit limit) →
      i.evaluate { settings with maxDepth := higher } rows w = i.evaluate settings rows w) ∧
    (w.registry.IsNativeFree → ∀ e limit, (i.evaluate settings rows w).1 = .error e →
      e.rootCause = .recursionLimit limit →
        e.breadcrumb.length = settings.maxDepth + 1 ∧
        e.contexts.map (·.depth) = List.range (settings.maxDepth + 1)) := by
  constructor
  · intro uncut
    let both (higher? : Bool) : Settings :=
      bif higher? then { settings with maxDepth := higher } else settings
    have levels : settings.maxDepth + 1 ≤ higher + 1 := Nat.succ_le_succ le
    have step := evalAt_cutOff both rfl _ _ levels ⟨rows, 0⟩ i.term ⟨i.memory, w⟩
    rcases step with ⟨e, failed, limit, root⟩ | same
    · exact absurd root (uncut e limit failed)
    · have same : FactScan.evaluate { settings with maxDepth := higher } rows i.term ⟨i.memory, w⟩ =
          FactScan.evaluate settings rows i.term ⟨i.memory, w⟩ := same
      unfold Instance.evaluate
      rw [same]
  · intro free e limit failed root
    have step := evalAt_endsAt settings (settings.maxDepth + 1) ⟨rows, 0⟩ i.term ⟨i.memory, w⟩ free
    have depths := step.2 e failed ⟨limit, root⟩
    rw [← List.range_eq_range'] at depths
    refine ⟨?_, depths⟩
    rw [EvalError.length_breadcrumb, ← List.length_map (·.depth), depths, List.length_range]

/-- With one level below the term, `(not (exists k))` fits and `(not (not (exists k)))` does
not. -/
theorem Instance.evaluate_maxDepth_negations :
    let once : Term := .mk (.builtin .not) [.nested (.mk (.builtin .present) [.field "k"])]
    let twice : Term := .mk (.builtin .not) [.nested once]
    Instance.evaluate { maxDepth := 2 } [] ⟨once, .blank⟩ {} =
      Instance.evaluate { maxDepth := 1 } [] ⟨once, .blank⟩ {} ∧
    ∃ e, (Instance.evaluate { maxDepth := 1 } [] ⟨twice, .blank⟩ {}).1 = .error e ∧
      e.rootCause = .recursionLimit 1 ∧ e.breadcrumb.length = 2 ∧
      e.contexts.map (·.depth) = [0, 1] := by
  intro once twice
  have fits : (Instance.evaluate { maxDepth := 1 } [] ⟨once, .blank⟩ {}).1 =
      .ok (.boolean true) := rfl
  have cut : (Instance.evaluate { maxDepth := 1 } [] ⟨twice, .blank⟩ {}).1 =
      .error (.evaluation "(not (not (exists k)))" ⟨0, "not", 0⟩
        (.evaluation "(not (exists k))" ⟨1, "not", 0⟩ (.recursionLimit 1))) := rfl
  have le : (1 : Nat) ≤ 2 := by decide
  refine ⟨(Instance.evaluate_maxDepth { maxDepth := 1 } le [] ⟨once, .blank⟩ {}).1 ?_,
    _, cut, rfl, ?_⟩
  · intro e limit failed
    rw [fits] at failed
    cases failed
  · exact (Instance.evaluate_maxDepth { maxDepth := 1 } le [] ⟨twice, .blank⟩ {}).2
      (fun d member => absurd member List.not_mem_nil) _ 1 cut rfl

end FactScan
