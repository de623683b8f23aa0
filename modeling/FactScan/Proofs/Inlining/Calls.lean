/-
# FactScan.Proofs.Inlining.Calls — a call is its body in place

A term of an operator that a term defines runs the body with its operands filled in, one
level deeper.  Here it is set against an instance of that filled-in body, evaluated by itself
with one level less.  The call keeps the expansion, with what it remembers, from one
evaluation to the next, so both go through the same states as long as the operator has that
definition; and an error of the call is that of the body, wrapped once more.

It is wrapped in any case because the call is admitted: an error that names a term of the
text of the call would be raised for an expansion that prints like the call, and so calls the
same operator with as many operands, which is admitted again (`Definition.expansion_wraps`).

* `Instance.InPlace.evaluate`: one evaluation of a call and of its body in place.
* `Instance.call_inlined`: a series of evaluations, with other changes in between.
-/
import FactScan.Proofs.Breadcrumb.Trail
import FactScan.Proofs.Facts.Vocabulary
import FactScan.Proofs.Inlining.Depth

namespace FactScan

set_option autoImplicit false

/-! ## Texts of terms that carry terms -/

mutual

/-- The term with nested terms in the place of those it carries as data, at every depth.  It
has the same text. -/
def Term.opened : Term → Term
  | .mk op operands => .mk op (Operand.listOpened operands)

def Operand.opened : Operand → Operand
  | .nested t => .nested t.opened
  | .literal (.term t) => .nested t.opened
  | o => o

def Operand.listOpened : List Operand → List Operand
  | [] => []
  | o :: rest => o.opened :: Operand.listOpened rest

end

mutual

theorem Term.chars_opened : ∀ t : Term, t.opened.chars = t.chars
  | .mk op operands => by
      rw [Term.opened, Term.chars, Term.chars, Operand.listChars_opened operands]

theorem Operand.chars_opened : ∀ o : Operand, o.opened.chars = o.chars
  | .nested t => by rw [Operand.opened, Operand.chars, Operand.chars, Term.chars_opened t]
  | .literal (.term t) => by
      rw [Operand.opened, Operand.chars, Operand.chars, Scalar.chars, Term.chars_opened t]
  | .literal (.integer _) | .literal (.float _) | .literal (.string _) | .literal (.boolean _)
  | .literal (.timestamp _) | .literal (.regex _) | .field _ | .placeholder _ => rfl

theorem Operand.listChars_opened : ∀ operands : List Operand,
    Operand.listChars (Operand.listOpened operands) = Operand.listChars operands
  | [] => rfl
  | o :: rest => by
      rw [Operand.listOpened, Operand.listChars, Operand.listChars, Operand.chars_opened o,
        Operand.listChars_opened rest]

end

theorem Operand.listOpened_eq_map (operands : List Operand) :
    Operand.listOpened operands = operands.map Operand.opened := by
  induction operands with
  | nil => rfl
  | cons o rest ih => rw [Operand.listOpened, ih, List.map_cons]

/-- All operators and fields are named by words. -/
def Vocabulary.words : Vocabulary where
  operator op := Reader.isWord op.name.toList = true
  field name := Reader.isWord name.toList = true

theorem Term.isLegible_opened {t : Term} (words : t.UsesOnly .words) : t.opened.IsLegible := by
  induction t using Term.carried_induction with
  | step op operands ih =>
      obtain ⟨⟨named, fields⟩, below⟩ := Term.usesOnly_mk.1 words
      rw [Term.opened, Operand.listOpened_eq_map]
      refine Term.isLegible_mk.2 ⟨named, fun o member => ?_⟩
      obtain ⟨o, inside, rfl⟩ := List.mem_map.1 member
      match o with
      | .nested t => exact ih _ inside t rfl (below _ inside t rfl)
      | .literal (.term t) => exact ih _ inside t rfl (below _ inside t rfl)
      | .field name => exact fields name inside
      | .literal (.integer _) | .literal (.float _) | .literal (.string _)
      | .literal (.boolean _) | .literal (.timestamp _) | .literal (.regex _)
      | .placeholder _ => trivial

/-- The text of a term whose names are words shows its operator's name and how many operands
it has, even if it carries terms. -/
theorem Term.shape_of_text_eq_of_words {t u : Term} (words : t.UsesOnly .words)
    (words' : u.UsesOnly .words) (same : t.text = u.text) :
    t.name = u.name ∧ t.arity = u.arity := by
  have texts : t.opened.text = u.opened.text := by
    rw [Term.text, Term.text, Term.chars_opened, Term.chars_opened]
    exact same
  obtain ⟨names, arities⟩ :=
    Term.shape_of_text_eq (Term.isLegible_opened words) (Term.isLegible_opened words') texts
  have shape (v : Term) : v.opened.name = v.name ∧ v.opened.arity = v.arity := by
    cases v with
    | mk op operands =>
        rw [Term.opened, Operand.listOpened_eq_map]
        exact ⟨rfl, List.length_map _⟩
  rw [(shape t).1, (shape u).1] at names
  rw [(shape t).2, (shape u).2] at arities
  exact ⟨names, arities⟩

/-! ## Errors about a text -/

theorem EvalError.concerns_unique {e : EvalError} {text text' : String}
    (here : e.concerns text = true) (there : e.concerns text' = true) : text = text' := by
  cases e <;> simp_all [concerns]

/-- An error that leaves a term without being wrapped is about the text of that term. -/
theorem EvalError.text_of_leaving {e : EvalError} {site : Site} {t : Term} {text : String}
    (about : (e.leaving site t).concerns text = true) : text = t.text := by
  cases own : e.concerns t.text with
  | true =>
      rw [leaving_of_concerns own] at about
      exact concerns_unique about own
  | false =>
      rw [leaving_of_not_concerns own] at about
      cases about

theorem text_of_evalAt {settings : Settings} {levels : Nat} {site : Site} {t : Term} {s : State}
    {e : EvalError} {text : String} (failed : (evalAt settings levels site t s).1 = .error e)
    (about : e.concerns text = true) : text = t.text := by
  cases levels with
  | zero =>
      cases failed
      cases about
  | succ levels =>
      rw [evalAt_succ, dispatch_eq_mapError] at failed
      unfold Act.mapError at failed
      split at failed
      · cases failed
      · cases failed
        exact EvalError.text_of_leaving about

/-! ## Kept expansions of one definition -/

/-- What a term of the operator keeps under the number of the definition is the body with its
operands; and if that calls the operator again, the same holds there. -/
inductive Memory.Unrolls (d : Definition) (body : Term) : Term → Memory → Prop
  | intro {t : Term} {m : Memory} :
      (∀ e u, m.block = some (.expansion d.generation e u) → e = body.instantiate t.operands) →
      (∀ e u, m.block = some (.expansion d.generation e u) → e.operator = t.operator →
        Unrolls d body e u) →
      Unrolls d body t m

section

variable {name : String} {d : Definition} {body : Instance} {t : Term} {m : Memory}

theorem Memory.Unrolls.of_block_none (block : m.block = none) : Unrolls d body.term t m := by
  refine .intro ?_ ?_ <;> simp [block]

theorem Term.block_instantiateMemory (t : Term) (args : List Operand) (given : List Memory)
    (m : Memory) : (t.instantiateMemory args given m).block = none := by
  cases t
  rfl

/-- What a call runs is the body with the operands of the call. -/
theorem Definition.expansionFor_unrolls (unrolls : m.Unrolls d body.term t) :
    (d.expansionFor body t m).term = body.term.instantiate t.operands ∧
      ((d.expansionFor body t m).term.operator = t.operator →
        (d.expansionFor body t m).memory.Unrolls d body.term (d.expansionFor body t m).term) := by
  cases kept : d.isKept m with
  | true =>
      have block := d.expansionFor_of_isKept body t kept
      cases unrolls with
      | intro filled inside => exact ⟨filled _ _ block, inside _ _ block⟩
  | false =>
      rw [d.expansionFor_of_not_isKept body t kept]
      exact ⟨rfl, fun _ => .of_block_none (Term.block_instantiateMemory _ _ _ _)⟩

variable (isTerm : d.body = .expression body)
include isTerm

/-- Evaluating a term of the operator leaves what unrolls, for whatever it calls first is looked
up in the same registry. -/
theorem evalAt_unrolls (settings : Settings) : ∀ levels site t s, t.operator = .custom name →
    s.world.registry.lookup? name = some d → s.memory.Unrolls d body.term t →
    (evalAt settings levels site t s).2.memory.Unrolls d body.term t
  | 0, _, _, _, _, _, unrolls => unrolls
  | levels + 1, site, t, s, isCustom, found, unrolls => by
      rw [evalAt_succ, dispatch_custom isCustom found, Act.mapError_state]
      cases admitted : d.arity.admits t.arity with
      | false =>
          rw [Definition.run_refused admitted]
          exact unrolls
      | true =>
          rw [Definition.run_expression isTerm admitted, Act.inExpansion_apply]
          obtain ⟨filled, inside⟩ := Definition.expansionFor_unrolls unrolls
          refine .intro ?_ ?_
          · rintro e u ⟨⟩
            exact filled
          · rintro e u ⟨⟩ again
            exact evalAt_unrolls settings levels site.deeper _ _ (again.trans isCustom)
              (by rw [d.registry_worldFor]; exact found) (inside again)

variable (free : Builtin.ofName? name = none) (words : body.term.UsesOnly .words)
include free words

/-- **A call of an operator that a term defines wraps every error** of the expansion that it
runs: none of them is about the text of the call. -/
theorem Definition.expansion_wraps (settings : Settings) : ∀ levels (site : Site) t m w e,
    t.operator = .custom name → w.registry.lookup? name = some d →
    d.arity.admits t.arity = true → t.UsesOnly .words → m.Unrolls d body.term t →
    (evalAt settings levels site (d.expansionFor body t m).term
      ⟨(d.expansionFor body t m).memory, w⟩).1 = .error e →
    e.concerns t.text = false
  | levels, site, t, m, w, e, isCustom, found, admitted, words', unrolls, failed => by
      refine Bool.eq_false_iff.2 fun about => ?_
      obtain ⟨filled, inside⟩ := expansionFor_unrolls unrolls
      generalize d.expansionFor body t m = i at filled inside failed
      -- The expansion prints like the call, so it is a call of the same operator.
      have same := text_of_evalAt failed about
      have expansionWords : i.term.UsesOnly .words := by
        rw [filled]
        exact words'.instantiate words
      obtain ⟨names, arities⟩ := Term.shape_of_text_eq_of_words words' expansionWords same
      have calls : t.name = name := by rw [Term.name, isCustom, Operator.name]
      have again : i.term.operator = t.operator :=
        (Operator.eq_custom (names.symm.trans calls) free).trans isCustom.symm
      cases levels with
      | zero =>
          cases failed
          cases about
      | succ levels =>
          rw [evalAt_succ, dispatch_custom (again.trans isCustom) found, Act.mapError_apply,
            run_expression isTerm (arities ▸ admitted), Act.inExpansion_apply] at failed
          dsimp only at failed
          generalize ran : (evalAt settings levels site.deeper _ _).1 = result at failed
          cases result with
          | ok _ => cases failed
          | error e' =>
              cases failed
              have wraps := expansion_wraps settings levels site.deeper _ _ _ e'
                (again.trans isCustom) (by rw [registry_worldFor]; exact found)
                (arities ▸ admitted) expansionWords (inside again) ran
              dsimp only at about
              rw [EvalError.leaving_of_not_concerns wraps] at about
              cases about

end

/-! ## Series of evaluations -/

/-- An evaluation against a fact, after other things that happen to the registry. -/
structure Visit where
  before : List Interruption := []
  rows : List Row := []
  fact : Fact

/-- The world that an evaluation finds. -/
def Visit.enter (v : Visit) (w : World) : World :=
  { v.before.foldl Interruption.apply w with fact := v.fact }

/-- What an evaluation found, gave and left. -/
structure Visit.Run where
  rows : List Row
  found : World
  result : Except EvalError Value
  left : World

/-- An instance evaluated at one visit after the other, whether it fails or not. -/
def Instance.runs (settings : Settings) : List Visit → Instance → World → List Visit.Run
  | [], _, _ => []
  | v :: visits, i, w =>
    let after := i.evaluate settings v.rows (v.enter w)
    ⟨v.rows, v.enter w, after.1, after.2.2⟩ :: after.2.1.runs settings visits after.2.2

theorem Visit.enter_withLog (v : Visit) (w : World) (log : List Record) :
    ∃ log', v.enter (w.withLog log) = (v.enter w).withLog log' := by
  obtain ⟨before, rows, fact⟩ := v
  unfold enter
  dsimp only
  induction before generalizing w log with
  | nil => exact ⟨log, rfl⟩
  | cons e before ih =>
      obtain ⟨log', same⟩ := e.apply_withLog w log
      rw [List.foldl_cons, List.foldl_cons, same]
      exact ih (e.apply w) log'

/-- The native operators of a registry. -/
def Registry.IsNative (r : Registry) (run : Native) : Prop :=
  ∃ d ∈ r.custom, d.body = .native run

/-- What a call gives with one level more than `limit`, set against what its body gives with
`limit` levels in its place: the same value, or errors with the same cause up to the limit, of
which that of the call went through one term more, and happened one level deeper.  Contexts that
a native operator put into the error it reports are the operator's own. -/
inductive Inlines (natives : Native → Prop) (limit : Nat) (call : Term) (rows : Nat) :
    Except EvalError Value → Except EvalError Value → Prop
  | value (v : Value) : Inlines natives limit call rows (.ok v) (.ok v)
  | failure {e e' : EvalError} (own reported : List CallContext) :
      (e.rootCause = e'.rootCause ∨
        e.rootCause = .recursionLimit (limit + 1) ∧ e'.rootCause = .recursionLimit limit) →
      e.breadcrumb = call.text :: e'.breadcrumb →
      e.contexts = ⟨0, call.name, rows⟩ ::
        own.map (fun c => { c with depth := c.depth + 1 }) ++ reported →
      e'.contexts = own ++ reported →
      (reported = [] ∨ ∃ cause : EvalError, cause.ReportedBy natives ∧ cause.contexts = reported) →
      Inlines natives limit call rows (.error e) (.error e')

/-- Two evaluations with such results, which leave the same fact and the same registry: the
worlds differ only in what is logged. -/
structure Visit.Run.Inlines (limit : Nat) (call : Term) (run run' : Visit.Run) : Prop where
  result : FactScan.Inlines run.found.registry.IsNative limit call run.rows.length run.result
    run'.result
  left : ∃ log, run'.left = run.left.withLog log

theorem EvalError.Deeper.inlines {natives : Native → Prop} {limits : Bool → Nat} {limit : Nat}
    {e e' : EvalError} (deeper : EvalError.Deeper natives limits 1 e e')
    (above : limits true = limit + 1) (below : limits false = limit) (call : Term) (rows : Nat) :
    Inlines natives limit call rows (.error (.evaluation call.text ⟨0, call.name, rows⟩ e))
      (.error e') := by
  obtain ⟨own, reported, contexts, contexts', origin⟩ := deeper.contexts_cases
  refine .failure own reported ?_ ?_ ?_ contexts' origin
  · rw [← above, ← below]
    exact deeper.rootCause_cases
  · rw [breadcrumb, deeper.breadcrumb_eq]
  · rw [EvalError.contexts, contexts]
    rfl

/-! ## Calls in place -/

/-- The settings with one level more. -/
def Settings.raised (settings : Settings) : Settings :=
  { settings with maxDepth := settings.maxDepth + 1 }

/-- One evaluation of a call runs the expansion, one level deeper, and keeps it. -/
theorem Instance.evaluate_expression {name : String} {d : Definition} {body i : Instance}
    {w : World} (isCustom : i.term.operator = .custom name)
    (found : w.registry.lookup? name = some d) (isTerm : d.body = .expression body)
    (admitted : d.arity.admits i.term.arity = true) (settings : Settings) (rows : List Row) :
    let expansion := d.expansionFor body i.term i.memory
    let ran := evalAt settings settings.maxDepth ⟨rows, 1⟩ expansion.term
      ⟨expansion.memory, d.worldFor i.term i.memory (w.note (.dispatched 0 i.term))⟩
    i.evaluate settings rows w =
      (ran.1.mapError (·.leaving ⟨rows, 0⟩ i.term),
        ⟨i.term, i.memory.setBlock (some (.expansion d.generation expansion.term ran.2.memory))⟩,
        ran.2.world) := by
  intro expansion ran
  rw [evaluate, FactScan.evaluate, evalAt_succ, dispatch_custom isCustom found,
    Act.mapError_apply, Definition.run_expression isTerm admitted, Act.inExpansion_apply]
  rfl

/-- An instance one level deeper, with one level more, and at the top. -/
theorem Instance.endsDeeper (i : Instance) (settings : Settings) (rows : List Row) (w : World)
    (log : List Record) :
    Act.EndsDeeper w.registry.IsNative
      (fun b => (bif b then settings.raised else settings).maxDepth) 1
      (evalAt settings.raised settings.raised.maxDepth ⟨rows, 1⟩ i.term ⟨i.memory, w⟩)
      (FactScan.evaluate settings rows i.term ⟨i.memory, w.withLog log⟩) :=
  evalAt_deepens (fun b => bif b then settings.raised else settings) rfl (settings.maxDepth + 1)
    rows 0 i.term ⟨i.memory, w⟩ log
    fun d member _ isNative => ⟨d, member, isNative⟩

/-- An instance of a call, and an instance of its body that is what the next call runs. -/
structure Instance.InPlace (d : Definition) (body : Instance) (call : Term) (i i' : Instance) :
    Prop where
  term : i.term = call
  expansion : d.expansionFor body call i.memory = i'
  unrolls : i.memory.Unrolls d body.term call

section

variable {name : String} {d : Definition} {body : Instance} {call : Term}
variable (isCustom : call.operator = .custom name) (free : Builtin.ofName? name = none)
variable (isTerm : d.body = .expression body) (admitted : d.arity.admits call.arity = true)
variable (words : call.UsesOnly .words) (bodyWords : body.term.UsesOnly .words)
include isCustom free isTerm admitted words bodyWords

/-- **One evaluation of a call, and of its body in its place.** -/
theorem Instance.InPlace.evaluate {i i' : Instance} (inPlace : InPlace d body call i i')
    (settings : Settings) (rows : List Row) (w : World) (log : List Record)
    (found : w.registry.lookup? name = some d) :
    let run := i.evaluate settings.raised rows w
    let run' := i'.evaluate settings rows (w.withLog log)
    Inlines w.registry.IsNative settings.maxDepth call rows.length run.1 run'.1 ∧
      InPlace d body call run.2.1 run'.2.1 ∧ ∃ log', run'.2.2 = run.2.2.withLog log' := by
  obtain ⟨rfl, isExpansion, unrolls⟩ := inPlace
  have unrolls' : (i.evaluate settings.raised rows w).2.1.memory.Unrolls d body.term i.term :=
    evalAt_unrolls isTerm settings.raised (settings.raised.maxDepth + 1) ⟨rows, 0⟩ i.term
      ⟨i.memory, w⟩ isCustom found unrolls
  rw [Instance.evaluate_expression isCustom found isTerm admitted settings.raised rows]
    at unrolls' ⊢
  -- The world in which the call runs the body is the one that the body in place finds.
  obtain ⟨log', start⟩ : ∃ log', w.withLog log =
      (d.worldFor i.term i.memory (w.note (.dispatched 0 i.term))).withLog log' := by
    unfold Definition.worldFor
    split <;> exact ⟨log, rfl⟩
  have registry : (d.worldFor i.term i.memory (w.note (.dispatched 0 i.term))).registry =
      w.registry := d.registry_worldFor _ _ _
  rw [start, Instance.evaluate]
  generalize d.worldFor i.term i.memory (w.note (.dispatched 0 i.term)) = w₁ at registry unrolls' ⊢
  have wraps := fun e => Definition.expansion_wraps isTerm free bodyWords settings.raised
    settings.raised.maxDepth ⟨rows, 1⟩ i.term i.memory w₁ e isCustom (registry ▸ found) admitted
    words unrolls
  rw [isExpansion] at wraps unrolls' ⊢
  have ends := i'.endsDeeper settings rows w₁ log'
  rw [registry] at ends
  generalize evalAt settings.raised settings.raised.maxDepth ⟨rows, 1⟩ i'.term ⟨i'.memory, w₁⟩ = x
    at unrolls' wraps ends ⊢
  generalize FactScan.evaluate settings rows i'.term ⟨i'.memory, w₁.withLog log'⟩ = y at ends ⊢
  cases ends with
  | ok inside => exact ⟨.value _, ⟨rfl, d.expansionFor_of_block _ _ rfl, unrolls'⟩, _, rfl⟩
  | @error e e' _ _ inside deeper =>
      refine ⟨?_, ⟨rfl, d.expansionFor_of_block _ _ rfl, unrolls'⟩, _, rfl⟩
      show Inlines _ _ _ _ (.error (e.leaving ⟨rows, 0⟩ i.term)) (.error e')
      rw [EvalError.leaving_of_not_concerns (wraps e rfl)]
      exact deeper.inlines rfl rfl i.term rows.length

/-- A series of evaluations, from worlds that differ only in what is logged. -/
theorem Instance.InPlace.runs (settings : Settings) (visits : List Visit) :
    ∀ {i i' : Instance} (w : World) (log : List Record), InPlace d body call i i' →
      (∀ run ∈ i.runs settings.raised visits w, run.found.registry.lookup? name = some d) →
      List.Forall₂ (Visit.Run.Inlines settings.maxDepth call)
        (i.runs settings.raised visits w) (i'.runs settings visits (w.withLog log)) := by
  induction visits with
  | nil => exact fun _ _ _ _ => .nil
  | cons v visits ih =>
      intro i i' w log inPlace standing
      dsimp only [Instance.runs] at standing ⊢
      obtain ⟨log', entered⟩ := v.enter_withLog w log
      rw [entered]
      obtain ⟨result, inPlace', log'', left⟩ := inPlace.evaluate isCustom free isTerm admitted
        words bodyWords settings v.rows (v.enter w) log' (standing _ List.mem_cons_self)
      refine .cons ⟨result, log'', left⟩ ?_
      rw [left]
      exact ih _ _ inPlace' fun run later => standing run (List.mem_cons_of_mem _ later)

end

/-- **Calling an operator that a term defines is running its body in place.**  Take a call, not
evaluated yet, of such an operator with operands that its arity admits, all operators and fields
in it and in the body being named by words, and any series of evaluations of the call, against
any facts and rows and with any other changes of the registry in between, as long as each finds
the operator with the same definition.  With one level more, the call gives at each evaluation
what an instance of the body with its operands filled in gives: the same value, or an error with
the same cause, up to the limit, and one term and one depth more; and both leave the same fact
and the same registry. -/
theorem Instance.call_inlined {name : String} {d : Definition} {body : Instance}
    {args : List Operand} (free : Builtin.ofName? name = none) (isTerm : d.body = .expression body)
    (admitted : d.arity.admits args.length = true)
    (words : (Term.mk (.custom name) args).UsesOnly .words) (bodyWords : body.term.UsesOnly .words)
    (settings : Settings) (visits : List Visit) (w : World) :
    let call : Instance := ⟨.mk (.custom name) args, .blank⟩
    (∀ run ∈ call.runs settings.raised visits w, run.found.registry.lookup? name = some d) →
      List.Forall₂ (Visit.Run.Inlines settings.maxDepth call.term)
        (call.runs settings.raised visits w) ((body.instantiate call).runs settings visits w) := by
  intro call standing
  have unmade : d.expansionFor body call.term call.memory = body.instantiate call :=
    d.expansionFor_of_not_isKept body call.term rfl
  have isCustom : call.term.operator = .custom name := rfl
  exact InPlace.runs isCustom free isTerm admitted words bodyWords settings visits w w.log
    ⟨rfl, unmade, .of_block_none rfl⟩ standing

/-- Two evaluations of `(last k)`, where `last` is `(prev $0)`: the second one gives what the first
one found. -/
theorem Instance.call_inlined_last :
    let last : Definition := .ofTerm "last" ⟨.mk (.builtin .previous) [.placeholder 0], .blank⟩
    let body : Instance := Instance.fresh ⟨.mk (.builtin .previous) [.placeholder 0], .blank⟩
    let call : Instance := ⟨.mk (.custom "last") [.field "k"], .blank⟩
    let w : World := { registry := { Registry.standard with custom := [last] } }
    let visits : List Visit :=
      [{ fact := .memory [("k", [.integer 1])] }, { fact := .memory [("k", [.integer 2])] }]
    (Builtin.ofName? "last" = none ∧ last.body = .expression body ∧ last.arity.admits 1 = true ∧
        call.term.UsesOnly .words ∧ body.term.UsesOnly .words ∧
        ∀ run ∈ call.runs (Settings.raised {}) visits w,
          run.found.registry.lookup? "last" = some last) ∧
      (call.runs (Settings.raised {}) visits w).map (·.result) =
        [.ok .nil, .ok (.scalar (.integer 1))] ∧
      List.Forall₂ (Visit.Run.Inlines (Settings.maxDepth {}) call.term)
        (call.runs (Settings.raised {}) visits w)
        ((body.instantiate call).runs {} visits w) := by
  intro last body call w visits
  have free : Builtin.ofName? "last" = none := by decide
  have words : call.term.UsesOnly .words := by
    refine Term.usesOnly_mk.2 ⟨⟨rfl, fun name member => ?_⟩, fun o member t carried => ?_⟩
    · cases List.mem_singleton.1 member
      rfl
    · cases List.mem_singleton.1 member
      cases carried
  have bodyWords : body.term.UsesOnly .words := by
    refine Term.usesOnly_mk.2 ⟨⟨rfl, fun name member => ?_⟩, fun o member t carried => ?_⟩
    · cases List.mem_singleton.1 member
    · cases List.mem_singleton.1 member
      cases carried
  have standing : ∀ run ∈ call.runs (Settings.raised {}) visits w,
      run.found.registry.lookup? "last" = some last := by
    intro run member
    rcases List.mem_cons.1 member with rfl | member
    · rfl
    · cases List.mem_singleton.1 member
      rfl
  exact ⟨⟨free, rfl, rfl, words, bodyWords, standing⟩, rfl,
    call_inlined free rfl rfl words bodyWords {} visits w standing⟩

end FactScan
