/-
# FactScan.Proofs.ExpansionCache — the kept expansion of a custom operator is never stale

A term of a custom operator keeps the body with its own operands filled in, under the number
of the definition it was made from.  Here that cache is set against a machine without
numbers (`Holding`): it holds at most one filled-in body, made at the first call that the
current definition accepts, and drops it when the definition was replaced or removed, which
it reads off the log.

* `World.follows_lasting`: between two moments either nothing happened to a name, and it
  means the same, or its definition is newer than all that were there before.
* `Mirrors`: the machine holds a body exactly when the kept expansion is of the current
  definition, and then it is that expansion.
* `evaluate_mirrors`, `run_mirrors`: one evaluation, and a whole series of evaluations and
  other changes of the registry, give the same values, errors and worlds.
-/
import FactScan.Proofs.WorldChanges

namespace FactScan

set_option autoImplicit false

/-! ## What can happen to a name -/

namespace World

/-- Whether an operator was defined, replaced or removed between two moments. -/
def changed (name : String) (before after : World) : Bool :=
  (before.since after).any (·.changes name)

/-- The definition of a name is still the one it was. -/
def Unchanged (name : String) (before after : World) : Prop :=
  after.registry.lookup? name = before.registry.lookup? name

/-- The definition of a name, if there is one, was made after the first moment. -/
def Renewed (name : String) (before after : World) : Prop :=
  ∀ d, after.registry.lookup? name = some d →
    before.nextGeneration ≤ d.generation ∧ d.generation < after.nextGeneration

/-- What lies between two moments, for one name: the log tells whether it means the same. -/
def Follows (name : String) (before after : World) : Prop :=
  before.nextGeneration ≤ after.nextGeneration ∧
    ∃ new, after.log = new ++ before.log ∧
      (if new.any (·.changes name) then Renewed name before after
        else Unchanged name before after)

variable {name : String}

/-- Changes of the fact, the log and the counter alone. -/
theorem Follows.of_registry {before after : World} (new : List Record)
    (same : after.registry = before.registry)
    (later : before.nextGeneration ≤ after.nextGeneration)
    (grown : after.log = new ++ before.log) (quiet : new.any (·.changes name) = false) :
    Follows name before after := by
  refine ⟨later, new, grown, ?_⟩
  rw [quiet, if_neg Bool.false_ne_true, Unchanged, same]

theorem Follows.refl (w : World) : Follows name w w :=
  .of_registry [] rfl (Nat.le_refl _) (List.nil_append _).symm rfl

theorem Follows.trans {u v w : World} (first : Follows name u v) (second : Follows name v w) :
    Follows name u w := by
  obtain ⟨laterV, new, grownV, atV⟩ := first
  obtain ⟨laterW, new', grownW, atW⟩ := second
  refine ⟨Nat.le_trans laterV laterW, new' ++ new, by rw [grownW, grownV, List.append_assoc], ?_⟩
  rw [List.any_append]
  cases changedW : new'.any (·.changes name) with
  | true =>
      -- What happened last decides, and numbers only grow.
      rw [changedW, if_pos rfl] at atW
      rw [Bool.true_or, if_pos rfl]
      intro d found
      obtain ⟨made, used⟩ := atW d found
      exact ⟨Nat.le_trans laterV made, used⟩
  | false =>
      rw [changedW, if_neg Bool.false_ne_true] at atW
      rw [Bool.false_or]
      split
      · rename_i changedV
        rw [if_pos changedV] at atV
        intro d found
        obtain ⟨made, used⟩ := atV d (atW ▸ found)
        exact ⟨made, Nat.lt_of_lt_of_le used laterW⟩
      · rename_i quietV
        rw [if_neg quietV] at atV
        exact Eq.trans atW atV

/-- A definition put into the registry. -/
theorem follows_withDefinition (w : World) (d : Definition) :
    Follows name w (w.withDefinition d
      { w.registry with custom := Registry.put (w.numbered d) w.registry.custom }) := by
  refine ⟨Nat.le_succ _, [.defined d], rfl, ?_⟩
  have found (n : String) := Registry.lookup?_put (w.numbered d) w.registry.custom n
  by_cases same : d.name = name
  · have changes : ([Record.defined d].any (·.changes name)) = true := by
      simp [Record.changes, same]
    rw [changes, if_pos rfl]
    intro e at_
    have here : some (w.numbered d) = some e := by
      rw [← at_]
      exact ((found name).trans (if_pos same)).symm
    cases here
    exact ⟨Nat.le_refl _, Nat.lt_succ_self _⟩
  · have quiet : ([Record.defined d].any (·.changes name)) = false := by
      simp [Record.changes, same]
    rw [quiet, if_neg Bool.false_ne_true]
    exact (found name).trans (if_neg same)

theorem follows_define {w w' : World} {d : Definition} (made : w.define d = .ok w') :
    Follows name w w' := by
  obtain ⟨-, -, rfl⟩ := define_eq_ok.1 made
  exact follows_withDefinition w d

theorem follows_redefine {w w' : World} {d : Definition} {replaced : Option Definition}
    (made : w.redefine d = .ok (w', replaced)) : Follows name w w' := by
  obtain ⟨-, -, rfl⟩ := redefine_eq_ok.1 made
  exact follows_withDefinition w d

theorem follows_undefine {w w' : World} {other : String} {removed : Bool}
    (done : w.undefine other = .ok (w', removed)) : Follows name w w' := by
  obtain ⟨-, -, rfl⟩ := undefine_eq_ok.1 done
  have found := Registry.lookup?_filter w.registry other name
  dsimp only
  split
  · refine ⟨Nat.le_refl _, [.undefined other], rfl, ?_⟩
    by_cases same : other = name
    · have changes : ([Record.undefined other].any (·.changes name)) = true := by
        simp [Record.changes, same]
      rw [changes, if_pos rfl]
      intro d at_
      have none_ : some d = none := at_.symm.trans (found.trans (if_pos same.symm))
      cases none_
    · have quiet : ([Record.undefined other].any (·.changes name)) = false := by
        simp [Record.changes, same]
      rw [quiet, if_neg Bool.false_ne_true]
      exact found.trans (if_neg fun h => same h.symm)
  · rename_i missing
    refine ⟨Nat.le_refl _, [], rfl, ?_⟩
    show Unchanged name w _
    refine found.trans ?_
    split
    · rename_i same
      rw [same]
      exact (Option.not_isSome_iff_eq_none.1 missing).symm
    · rfl

/-- **Every evaluation leaves a name with the definition it had, or with a newer one**, and
the log tells which. -/
theorem follows_lasting (name : String) : Lasting (Follows name) where
  refl := .refl
  trans := .trans
  note w r quiet := .of_registry [r] rfl (Nat.le_refl _) rfl (by simp [quiet])
  append _ _ := .of_registry [] rfl (Nat.le_refl _) rfl rfl
  define _ := follows_define
  undefine _ := follows_undefine
  against h := h

theorem Follows.since {before after : World} (follows : Follows name before after) :
    if before.changed name after then Renewed name before after
      else Unchanged name before after := by
  obtain ⟨-, new, grown, at_⟩ := follows
  rw [changed, since_eq grown]
  exact at_

end World

/-! ## The reference machine -/

/-- What the machine holds for one term: the memories of the operands, and the term made
for the current definition of its operator. -/
structure Holding where
  operands : List Memory
  held : Option Instance := none

namespace Holding

/-- The term made for a definition: the one held, or a new one, which is recorded. -/
def expansion (h : Holding) (d : Definition) (body : Instance) (term : Term) (w : World) :
    Instance × World :=
  match h.held with
  | some i => (i, w)
  | none => (body.instantiate ⟨term, .mk none h.operands⟩, w.note (.expanding d.name term.arity))

/-- Call a definition: evaluate the term made for it in place, or hand the values of the
operands to the host. -/
def call (evaluate : Evaluator) (site : Site) (term : Term) (d : Definition) (h : Holding)
    (w : World) : Except EvalError Value × Holding × World :=
  if d.arity.admits term.arity then
    match d.body with
    | .expression body =>
      match h.expansion d body term w with
      | (i, w) =>
        match evaluate site.deeper i.term ⟨i.memory, w⟩ with
        | (r, s) => (r, { h with held := some ⟨i.term, s.memory⟩ }, s.world)
    | .native run =>
      match nativeCall run ⟨.mk none h.operands, w⟩ with
      | (r, s) => (r, { h with operands := s.memory.children }, s.world)
  else (.error (.arity term.name d.arity term.arity term.text), h, w)
where
  nativeCall (run : Native) : Act Value := do
    let args ← resolveAll evaluate site term term.positions
    Act.ofExcept (run args (← Act.fact) site.rows)

/-- Drop the term held if the definition it was made for is gone. -/
def settle (name : String) (before after : World) (h : Holding) : Holding :=
  if before.changed name after then { h with held := none } else h

/-- Evaluate the term `(name args ...)`.  A call finishes with the definition it started
with; what that definition's term is worth is settled afterwards. -/
def evaluate (settings : Settings) (name : String) (args : List Operand) (site : Site)
    (h : Holding) (w : World) : Except EvalError Value × Holding × World :=
  let term : Term := .mk (.custom name) args
  if settings.maxDepth < site.depth then (.error (.recursionLimit settings.maxDepth), h, w)
  else
    let started := w.note (.dispatched site.depth term)
    match started.registry.lookup? name with
    | none => (.error (.unknown term), h, started)
    | some d =>
      match h.call (evalAt settings (settings.maxDepth - site.depth)) site term d started with
      | (r, h, w') => (r.mapError (·.leaving site term), h.settle name w w', w')

end Holding

/-! ## Series of events -/

/-- What else can happen between two evaluations of a term. -/
inductive Interruption where
  | define (d : Definition)
  | redefine (d : Definition)
  | undefine (name : String)
  /-- The evaluation of another term, which may define and remove operators. -/
  | other (settings : Settings) (site : Site) (fact : Fact) (i : Instance)
  /-- Definitions in other registries, which use up numbers. -/
  | elsewhere (count : Nat)

/-- The world after an interruption; one that is refused changes nothing. -/
def Interruption.apply (w : World) : Interruption → World
  | .define d => (w.define d).toOption.getD w
  | .redefine d => ((w.redefine d).toOption.map (·.1)).getD w
  | .undefine name => ((w.undefine name).toOption.map (·.1)).getD w
  | .other settings site fact i =>
    (evalAt settings (settings.maxDepth + 1 - site.depth) site i.term
      ⟨i.memory, { w with fact }⟩).2.world
  | .elsewhere count => { w with nextGeneration := w.nextGeneration + count }

inductive Event where
  /-- The term is evaluated at a site against a fact. -/
  | evaluation (site : Site) (fact : Fact)
  | interruption (e : Interruption)

/-- A way to keep a term between events: how it is evaluated, and what an interruption does
to what is kept. -/
structure Keeper (σ : Type) where
  evaluate : Site → σ → World → Except EvalError Value × σ × World
  settle : World → World → σ → σ

/-- The result of each evaluation with the world it left, and the world in the end. -/
def Keeper.run {σ : Type} (k : Keeper σ) :
    List Event → σ → World → List (Except EvalError Value × World) × World
  | [], _, w => ([], w)
  | .evaluation site fact :: events, s, w =>
    match k.evaluate site s { w with fact } with
    | (r, s, w) =>
      match k.run events s w with
      | (rest, last) => ((r, w) :: rest, last)
  | .interruption e :: events, s, w =>
    k.run events (k.settle w (e.apply w) s) (e.apply w)

/-- The evaluator with its numbered expansions. -/
def Keeper.numbered (settings : Settings) (name : String) (args : List Operand) :
    Keeper Memory where
  evaluate site m w :=
    match evalAt settings (settings.maxDepth + 1 - site.depth) site (.mk (.custom name) args)
      ⟨m, w⟩ with
    | (r, s) => (r, s.memory, s.world)
  settle _ _ m := m

/-- The reference machine. -/
def Keeper.reference (settings : Settings) (name : String) (args : List Operand) :
    Keeper Holding where
  evaluate := Holding.evaluate settings name args
  settle := Holding.settle name

/-! ## The correspondence -/

/-- A memory mirrors what the machine holds: the expansion it keeps is of the current
definition just when the machine holds a term, and then it is that term. -/
structure Mirrors (name : String) (h : Holding) (m : Memory) (w : World) : Prop where
  operands : m.children = h.operands
  /-- Numbers given so far are below the next one. -/
  current : ∀ d, w.registry.lookup? name = some d → d.generation < w.nextGeneration
  kept : ∀ g t u, m.block = some (.expansion g t u) → g < w.nextGeneration
  held : ∀ i, h.held = some i → ∃ d, w.registry.lookup? name = some d ∧
    m.block = some (.expansion d.generation i.term i.memory)
  stale : h.held = none → ∀ d, w.registry.lookup? name = some d → d.isKept m = false

namespace Mirrors

variable {name : String} {h : Holding} {m : Memory} {w : World}

/-- A term that was never evaluated. -/
theorem start {operands : List Memory}
    (current : ∀ d, w.registry.lookup? name = some d → d.generation < w.nextGeneration) :
    Mirrors name ⟨operands, none⟩ (.mk none operands) w where
  operands := rfl
  current := current
  kept := by
    intro g t u block
    cases block
  held := by
    intro i none_
    cases none_
  stale _ d _ := rfl

/-- Fact and log do not matter. -/
theorem elsewhere (mirrors : Mirrors name h m w) {w' : World} (registry : w'.registry = w.registry)
    (next : w'.nextGeneration = w.nextGeneration) : Mirrors name h m w' := by
  refine ⟨mirrors.operands, ?_, ?_, ?_, ?_⟩
  · rw [registry, next]
    exact mirrors.current
  · rw [next]
    exact mirrors.kept
  · rw [registry]
    exact mirrors.held
  · rw [registry]
    exact mirrors.stale

/-- **Settling** what is held after anything that can happen to the name. -/
theorem settle (mirrors : Mirrors name h m w) {w' : World} (follows : w.Follows name w') :
    Mirrors name (h.settle name w w') m w' := by
  have later := follows.1
  have since := follows.since
  unfold Holding.settle
  cases changed : w.changed name w' with
  | true =>
      rw [changed, if_pos rfl] at since
      rw [if_pos rfl]
      refine ⟨mirrors.operands, fun d found => (since d found).2, ?_, ?_, ?_⟩
      · intro g t u block
        exact Nat.lt_of_lt_of_le (mirrors.kept g t u block) later
      · intro i none_
        cases none_
      · intro _ d found
        -- A newer definition has another number than anything kept so far.
        have newer := (since d found).1
        unfold Definition.isKept
        split
        · rename_i g t u block
          have older := mirrors.kept g t u block
          simp only [beq_eq_false_iff_ne, ne_eq]
          omega
        · rfl
  | false =>
      rw [changed, if_neg Bool.false_ne_true] at since
      rw [if_neg Bool.false_ne_true]
      refine ⟨mirrors.operands, ?_, ?_, ?_, ?_⟩
      · intro d found
        exact Nat.lt_of_lt_of_le (mirrors.current d (since ▸ found)) later
      · intro g t u block
        exact Nat.lt_of_lt_of_le (mirrors.kept g t u block) later
      · intro i some_
        obtain ⟨d, found, block⟩ := mirrors.held i some_
        exact ⟨d, since.trans found, block⟩
      · intro none_ d found
        exact mirrors.stale none_ d (since ▸ found)

/-- The machine makes the term that a call runs. -/
theorem expansion_eq (mirrors : Mirrors name h m w) {d : Definition}
    (found : w.registry.lookup? name = some d) (body : Instance) (term : Term) (w' : World) :
    h.expansion d body term w' = (d.expansionFor body term m, d.worldFor term m w') := by
  unfold Holding.expansion Definition.worldFor
  cases held : h.held with
  | some i =>
      obtain ⟨d', found', block⟩ := mirrors.held i held
      obtain rfl : d = d' := Option.some.inj (found.symm.trans found')
      have kept : d.isKept m = true := by simp [Definition.isKept, block]
      have same : d.expansionFor body term m = i := d.expansionFor_of_block body term block
      rw [kept, if_pos rfl, same]
  | none =>
      have new := mirrors.stale held d found
      rw [new, if_neg Bool.false_ne_true, Definition.expansionFor_of_not_isKept d body term new]
      have same : body.instantiate ⟨term, m⟩ = body.instantiate ⟨term, .mk none h.operands⟩ := by
        show Instance.mk _ (body.term.instantiateMemory _ m.children _) = _
        rw [mirrors.operands]
        rfl
      rw [same]

end Mirrors

/-! ## One evaluation -/

/-- The state with another block for the term. -/
def State.withBlock (s : State) (b : Option Block) : State :=
  { s with memory := s.memory.setBlock b }

/-- An act that works on the memories of the operands alone. -/
def Act.IgnoresBlock (α : Type) (act : Unit → Act α) : Prop :=
  ∀ b s r s', act () s = (r, s') → act () (s.withBlock b) = (r, s'.withBlock b)

theorem Act.IgnoresBlock.closed : Act.Closed Act.IgnoresBlock where
  pure a := by
    rintro b s _ _ ⟨⟩
    rfl
  fail _ := by
    rintro b s _ _ ⟨⟩
    rfl
  bind {_ _ act f} ignores next := by
    intro b s r s' ran
    show (act () >>= f ()) _ = _
    rcases Act.bind_cases (act ()) (f ()) s with ⟨a, s₁, ha, hb⟩ | ⟨e, s₁, ha, hb⟩
    · rw [Act.bind_ok (ignores b s _ _ ha)]
      exact next a b s₁ r s' (hb.symm.trans ran)
    · cases hb.symm.trans ran
      exact Act.bind_error (ignores b s _ _ ha) _
  overlay row act ignores := by
    rintro b s _ _ ⟨⟩
    have here := ignores b { s with world := { s.world with fact := .overlay row s.world.fact } }
      _ _ rfl
    show Act.withFact (.overlay row s.world.fact) (act ()) _ = _
    rw [Act.withFact_apply]
    exact congrArg (fun x : _ × State =>
      (x.1, State.mk x.2.memory { x.2.world with fact := s.world.fact })) here
  vacant {_ act} ignores := by
    rintro b s _ _ ⟨⟩
    have here := ignores b { s with world := { s.world with fact := .empty } } _ _ rfl
    show Act.withFact .empty (act ()) _ = _
    rw [Act.withFact_apply]
    exact congrArg (fun x : _ × State =>
      (x.1, State.mk x.2.memory { x.2.world with fact := s.world.fact })) here

theorem Act.IgnoresBlock.looks (field : String) : Act.Looks Act.IgnoresBlock field where
  read := by
    rintro b s _ _ ⟨⟩
    rfl
  holds := by
    rintro b s _ _ ⟨⟩
    rfl

section

variable {name : String} {h : Holding} {m : Memory} {w : World}

theorem Act.IgnoresBlock.fail {α : Type} (e : EvalError) :
    Act.IgnoresBlock α fun _ => Act.fail e := by
  rintro b s _ _ ⟨⟩
  rfl

/-- The operands of a native call, and the call. -/
theorem Holding.nativeCall_ignoresBlock (evaluate : Evaluator) (site : Site) (term : Term)
    (run : Native) :
    Act.IgnoresBlock Value fun _ => Holding.call.nativeCall evaluate site term run := by
  have L := Act.IgnoresBlock.closed
  have child (p : Nat) (c : Term) (rows : List Row) : Act.IgnoresBlock Value fun _ =>
      Act.atChild p (evaluate ⟨rows, site.depth + 1⟩ c) := by
    rintro b s _ _ ⟨⟩
    rfl
  have C : Counterparts Act.IgnoresBlock (fun _ => evaluate) (fun _ => site.depth)
      fun _ => term :=
    .ofTerm (fun p c _ => child p c) (fun _ name _ => Act.IgnoresBlock.looks name)
      (fun _ => .fail _) fun _ _ => .fail _
  have operands : Act.IgnoresBlock (List Value) fun _ =>
      resolveAll evaluate site term term.positions :=
    resolveAll_closed L.toComposes C term.positions
  refine L.bind operands fun values => ?_
  intro b s r s' ran
  replace ran : Act.ofExcept (run values s.world.fact site.rows) s = (r, s') := ran
  show Act.ofExcept (run values s.world.fact site.rows) _ = _
  cases h : run values s.world.fact site.rows with
  | ok v =>
      rw [h] at ran
      cases ran
      rfl
  | error e =>
      rw [h] at ran
      cases ran
      rfl

/-- A call on a memory and on what mirrors it. -/
theorem Holding.call_mirrors (evaluate : Evaluator) (site : Site) (args : List Operand)
    (mirrors : Mirrors name h m w) {d : Definition}
    (found : w.registry.lookup? name = some d) :
    ∃ r h' m' w', h.call evaluate site (.mk (.custom name) args) d w = (r, h', w') ∧
      d.run evaluate site (.mk (.custom name) args) ⟨m, w⟩ = (r, ⟨m', w'⟩) ∧
      Mirrors name h' m' w := by
  generalize made : Term.mk (.custom name) args = term
  cases admitted : d.arity.admits term.arity with
  | false =>
      refine ⟨_, h, m, w, ?_, Definition.run_refused admitted evaluate site ⟨m, w⟩, mirrors⟩
      rw [Holding.call, admitted, if_neg Bool.false_ne_true]
  | true =>
      cases isBody : d.body with
      | expression body =>
          have same := mirrors.expansion_eq found body term w
          have run := Definition.run_expression isBody admitted evaluate site ⟨m, w⟩
          generalize d.expansionFor body term m = i at same run
          generalize d.worldFor term m w = w₁ at same run
          generalize ran : evaluate site.deeper i.term ⟨i.memory, w₁⟩ = result
          obtain ⟨r, s⟩ := result
          refine ⟨r, { h with held := some ⟨i.term, s.memory⟩ },
            m.setBlock (some (.expansion d.generation i.term s.memory)), s.world, ?_, ?_, ?_⟩
          · rw [Holding.call, admitted, if_pos rfl]
            simp only [isBody, same, ran]
          · rw [run, Act.inExpansion_apply]
            simp only [ran]
          · refine ⟨mirrors.operands, mirrors.current, ?_, ?_, ?_⟩
            · intro g t u block
              cases block
              exact mirrors.current d found
            · intro i' some_
              cases some_
              exact ⟨d, found, rfl⟩
            · intro none_
              cases none_
      | native native =>
          have run : d.run evaluate site term =
              Holding.call.nativeCall evaluate site term native :=
            Definition.run_native isBody admitted evaluate site
          have memory : (State.mk (.mk none h.operands) w).withBlock m.block = ⟨m, w⟩ := by
            rw [← mirrors.operands]
            cases m
            rfl
          generalize ran : Holding.call.nativeCall evaluate site term native
            ⟨.mk none h.operands, w⟩ = result
          obtain ⟨r, s⟩ := result
          have ignores := Holding.nativeCall_ignoresBlock evaluate site term native m.block
            _ _ _ ran
          rw [memory] at ignores
          refine ⟨r, { h with operands := s.memory.children }, s.memory.setBlock m.block,
            s.world, ?_, ?_, ?_⟩
          · rw [Holding.call, admitted, if_pos rfl]
            simp only [isBody, ran]
          · rw [run]
            exact ignores
          · exact ⟨rfl, mirrors.current, mirrors.kept, mirrors.held, mirrors.stale⟩

/-- **One evaluation** gives the same value or error and the same world on both sides, and
leaves a memory that mirrors what the machine holds. -/
theorem Keeper.evaluate_mirrors (settings : Settings) (args : List Operand) (site : Site)
    (mirrors : Mirrors name h m w) :
    ∃ r h' m' w', (reference settings name args).evaluate site h w = (r, h', w') ∧
      (numbered settings name args).evaluate site m w = (r, m', w') ∧
      Mirrors name h' m' w' := by
  have follows := evalAt_lasting (World.follows_lasting name) settings
    (settings.maxDepth + 1 - site.depth) site (.mk (.custom name) args) ⟨m, w⟩
  simp only [reference, numbered, Holding.evaluate]
  by_cases deep : settings.maxDepth < site.depth
  · have levels : settings.maxDepth + 1 - site.depth = 0 := by omega
    refine ⟨_, h, m, w, if_pos deep, ?_, mirrors⟩
    rw [levels]
    rfl
  · have levels : settings.maxDepth + 1 - site.depth = settings.maxDepth - site.depth + 1 := by
      omega
    rw [levels, evalAt_succ] at follows ⊢
    rw [if_neg deep]
    generalize started_ : w.note (.dispatched site.depth (.mk (.custom name) args)) = started
    have sameRegistry : started.registry = w.registry := started_ ▸ rfl
    have sameNext : started.nextGeneration = w.nextGeneration := started_ ▸ rfl
    have atStart := mirrors.elsewhere sameRegistry sameNext
    cases found : started.registry.lookup? name with
    | none =>
        refine ⟨_, h, m, started, rfl, ?_, atStart⟩
        rw [dispatch_undefined rfl (sameRegistry ▸ found), started_]
    | some d =>
        obtain ⟨r, h', m', w', called, ran, mirrors'⟩ := Holding.call_mirrors
          (evalAt settings (settings.maxDepth - site.depth)) site args atStart found
        have dispatched : dispatch settings (evalAt settings (settings.maxDepth - site.depth))
            site (.mk (.custom name) args) ⟨m, w⟩ =
              (r.mapError (·.leaving site (.mk (.custom name) args)), ⟨m', w'⟩) := by
          rw [dispatch_custom rfl (sameRegistry ▸ found), started_, Act.mapError, ran]
          cases r <;> rfl
        simp only [dispatched] at follows ⊢
        simp only [called]
        refine ⟨_, _, _, _, rfl, rfl, ?_⟩
        exact (mirrors'.elsewhere sameRegistry.symm sameNext.symm).settle follows

end

/-! ## Series -/

/-- A relation that every change of a registry has, whoever asks for it, relates the two ends
of an interruption. -/
theorem Interruption.lasting {I : World → World → Prop} (T : World.Lasting I)
    (define : ∀ {w w' : World} {d : Definition}, w.define d = .ok w' → I w w')
    (redefine : ∀ {w w' : World} {d : Definition} {replaced : Option Definition},
      w.redefine d = .ok (w', replaced) → I w w')
    (elsewhere : ∀ (w : World) (count : Nat),
      I w { w with nextGeneration := w.nextGeneration + count })
    (against : ∀ {w w' : World} {fact : Fact}, I { w with fact } w' → I w w')
    (w : World) (e : Interruption) : I w (e.apply w) := by
  cases e with
  | define d =>
      show I w ((w.define d).toOption.getD w)
      cases made : w.define d with
      | ok w' => exact define made
      | error _ => exact T.refl w
  | redefine d =>
      show I w (((w.redefine d).toOption.map (·.1)).getD w)
      cases made : w.redefine d with
      | ok r => exact redefine made
      | error _ => exact T.refl w
  | undefine name =>
      show I w (((w.undefine name).toOption.map (·.1)).getD w)
      cases done : w.undefine name with
      | ok r => exact T.undefine trivial done
      | error _ => exact T.refl w
  | other settings site fact i =>
      exact against (evalAt_lasting T settings _ site i.term ⟨i.memory, { w with fact }⟩)
  | elsewhere count => exact elsewhere w count

theorem Interruption.follows (name : String) (w : World) (e : Interruption) :
    w.Follows name (e.apply w) :=
  e.lasting (World.follows_lasting name) World.follows_define World.follows_redefine
    (fun _ count => .of_registry [] rfl (Nat.le_add_right _ count) rfl rfl) (fun follows => follows)
    w

/-- A series of events from a memory and from what mirrors it. -/
theorem Keeper.run_mirrors (settings : Settings) (name : String) (args : List Operand)
    (events : List Event) :
    ∀ {h : Holding} {m : Memory} {w : World}, Mirrors name h m w →
      (numbered settings name args).run events m w =
        (reference settings name args).run events h w := by
  induction events with
  | nil =>
      intro h m w _
      rfl
  | cons event events ih =>
      intro h m w mirrors
      cases event with
      | evaluation site fact =>
          have against : Mirrors name h m { w with fact } := mirrors.elsewhere rfl rfl
          obtain ⟨r, h', m', w', machine, evaluator, mirrors'⟩ :=
            evaluate_mirrors settings args site against
          simp only [run, machine, evaluator, ih mirrors']
      | interruption e =>
          exact ih (mirrors.settle (Interruption.follows name w e))

/-- **The kept expansion is never stale and never loses its state.**  Take a term of a
custom operator that was not evaluated yet, and any series of evaluations of it, at any
sites and against any facts, and of other things that can happen to the registry.  The
numbered expansions give each evaluation the value or error, and the world, that the
reference machine gives it.  Of the numbers of definitions only this much is used, that the
current one was given out already. -/
theorem Keeper.numbered_eq_reference (settings : Settings) (name : String)
    (args : List Operand) (operands : List Memory) (events : List Event) (w : World)
    (current : ∀ d, w.registry.lookup? name = some d → d.generation < w.nextGeneration) :
    (numbered settings name args).run events (.mk none operands) w =
      (reference settings name args).run events ⟨operands, none⟩ w :=
  run_mirrors settings name args events (.start current)

/-- The hypothesis holds of a registry whose only definition was made before. -/
theorem Keeper.numbered_eq_reference_last :
    let last : Definition := .ofTerm "last" ⟨.mk (.builtin .previous) [.placeholder 0], .blank⟩
    let w : World := { registry := { Registry.standard with custom := [last] } }
    let events : List Event :=
      [.evaluation ⟨[], 0⟩ .empty, .interruption (.redefine last), .evaluation ⟨[], 0⟩ .empty]
    (∀ d, w.registry.lookup? "last" = some d → d.generation < w.nextGeneration) ∧
      (numbered {} "last" [.literal (.boolean true)]).run events .blank w =
        (reference {} "last" [.literal (.boolean true)]).run events ⟨[], none⟩ w := by
  intro last w events
  have current : ∀ d, w.registry.lookup? "last" = some d → d.generation < w.nextGeneration := by
    intro d found
    cases found
    decide
  exact ⟨current, numbered_eq_reference {} "last" [.literal (.boolean true)] [] events w current⟩

/-- A redefinition starts over: `prev` remembers nothing after it. -/
example :
    let last : Definition := .ofTerm "last" ⟨.mk (.builtin .previous) [.placeholder 0], .blank⟩
    let w : World := { registry := { Registry.standard with custom := [last] } }
    let call : Event := .evaluation ⟨[], 0⟩ .empty
    (((Keeper.numbered {} "last" [.literal (.boolean true)]).run
      [call, call, .interruption (.redefine last), call] .blank w).1.map
        fun r => r.1.toOption.map Value.isTruthy) =
      [some false, some true, some false] := by
  decide +kernel

end FactScan
