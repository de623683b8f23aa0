/-
# FactScan.Proofs.Dispatch — one evaluation, step by step

What evaluating a term does before and after its operator runs, as equations on states: the
record of the dispatch, the look-up of the operator, and, for an operator that a term
defines, the expansion that runs in its place (`Definition.run_expression`).  A scan is a series
of such evaluations, up to the first that fails.
-/
import FactScan.Engine.Scan
import FactScan.Proofs.Registration

namespace FactScan

set_option autoImplicit false

namespace Act

variable {α β : Type}

/-- A sequence goes on after success and stops after failure. -/
theorem bind_cases (act : Act α) (f : α → Act β) (s : State) :
    (∃ a s₁, act s = (.ok a, s₁) ∧ (act >>= f) s = f a s₁) ∨
      ∃ e s₁, act s = (.error e, s₁) ∧ (act >>= f) s = (.error e, s₁) := by
  rcases h : act s with ⟨_ | _, s₁⟩
  · exact .inr ⟨_, _, rfl, bind_error h f⟩
  · exact .inl ⟨_, _, rfl, bind_ok h f⟩

/-- The parts of a sequence that succeeds. -/
theorem bind_eq_ok {act : Act α} {f : α → Act β} {s s₂ : State} {b : β}
    (h : (act >>= f) s = (.ok b, s₂)) :
    ∃ a s₁, act s = (.ok a, s₁) ∧ f a s₁ = (.ok b, s₂) := by
  rcases bind_cases act f s with ⟨a, s₁, ha, hb⟩ | ⟨e, s₁, ha, hb⟩
  · exact ⟨a, s₁, ha, hb ▸ h⟩
  · rw [hb] at h
    cases h

theorem bind_fst_error {act : Act α} {f : α → Act β} {s : State} {e : EvalError}
    (failed : (act s).1 = .error e) : ((act >>= f) s).1 = .error e := by
  rcases h : act s with ⟨r, s'⟩
  rw [h] at failed
  cases failed
  rw [bind_error h]

@[simp] theorem fail_apply (e : EvalError) (s : State) : (fail e : Act α) s = (.error e, s) := rfl

@[simp] theorem note_apply (r : Record) (s : State) :
    note r s = (.ok (), { s with world := s.world.note r }) := rfl

theorem withFact_apply (fact : Fact) (act : Act α) (s : State) :
    withFact fact act s =
      ((act { s with world := { s.world with fact } }).1,
        { memory := (act { s with world := { s.world with fact } }).2.memory,
          world := { (act { s with world := { s.world with fact } }).2.world with
            fact := s.world.fact } }) := rfl

theorem atChild_apply (p : Nat) (act : Act α) (s : State) :
    atChild p act s =
      ((act { s with memory := s.memory.child p }).1,
        { memory := s.memory.setChild p (act { s with memory := s.memory.child p }).2.memory,
          world := (act { s with memory := s.memory.child p }).2.world }) := rfl

theorem inExpansion_apply (g : Nat) (body : Term) (m : Memory) (act : Act α) (s : State) :
    inExpansion g body m act s =
      ((act { s with memory := m }).1,
        { memory := s.memory.setBlock
            (some (.expansion g body (act { s with memory := m }).2.memory)),
          world := (act { s with memory := m }).2.world }) := rfl

/-- Changing the error changes nothing else. -/
theorem mapError_apply (f : EvalError → EvalError) (act : Act α) (s : State) :
    mapError f act s = ((act s).1.mapError f, (act s).2) := by
  unfold mapError
  rcases act s with ⟨_ | _, s'⟩ <;> rfl

theorem mapError_ok {f : EvalError → EvalError} {act : Act α} {s s₁ : State} {a : α} :
    mapError f act s = (.ok a, s₁) ↔ act s = (.ok a, s₁) := by
  unfold mapError
  rcases act s with ⟨_ | _, s'⟩ <;> simp

theorem mapError_fst_error (f : EvalError → EvalError) {act : Act α} {s : State} {e : EvalError}
    (failed : (act s).1 = .error e) : (mapError f act s).1 = .error (f e) := by
  rw [mapError_apply, failed]
  rfl

theorem mapError_state (f : EvalError → EvalError) (act : Act α) (s : State) :
    (mapError f act s).2 = (act s).2 := by
  rw [mapError_apply]

/-- A change of the world that is made, or refused. -/
theorem change_ok {f : World → Except EvalError World} {s : State} {w : World}
    (made : f s.world = .ok w) : change f s = (.ok (), { s with world := w }) := by
  rw [change, made]

theorem change_error {f : World → Except EvalError World} {s : State} {e : EvalError}
    (refused : f s.world = .error e) : change f s = (.error e, s) := by
  rw [change, refused]

/-- Removing an operator, as a change of the world. -/
theorem undefine_ok {s : State} {name : String} {r : World × Bool}
    (done : s.world.undefine name = .ok r) :
    change (fun w => (w.undefine name).map (·.1)) s = (.ok (), { s with world := r.1 }) :=
  change_ok (congrArg (Except.map Prod.fst) done)

theorem undefine_error {s : State} {name : String} {e : EvalError}
    (refused : s.world.undefine name = .error e) :
    change (fun w => (w.undefine name).map (·.1)) s = (.error e, s) :=
  change_error (congrArg (Except.map Prod.fst) refused)

end Act

/-! ## Operators that act on memory and registry -/

theorem Operators.exchange_apply (v : Value) (s : State) :
    exchange v s =
      (.ok (previousOf s.memory.block),
        { s with memory := s.memory.setBlock (some (.previous v)) }) := rfl

theorem Operators.collect_apply (keys : List (Option Scalar)) (s : State) :
    collect keys s =
      (.ok (keys.all fun key => !(seenOf s.memory.block).contains key),
        { s with
          memory := s.memory.setBlock
            (some (.seen (keys.foldl insertKey (seenOf s.memory.block)))) }) := rfl

theorem Operators.patternOf_apply (source : String) (s : State) :
    patternOf source s =
      match patternHeld? source s.memory.block with
      | some p => (.ok p, s)
      | none =>
          match Pattern.ofSource source with
          | .ok p => (.ok p, { s with memory := s.memory.setBlock (some (.pattern p)) })
          | .error e => (.error (.invalidPattern source e.message), s) := by
  have h : patternOf source s =
      (match patternHeld? source s.memory.block with
        | some p => pure p
        | none =>
            match Pattern.ofSource source with
            | .ok p => do
                Act.setBlock (.pattern p)
                return p
            | .error e => Act.fail (.invalidPattern source e.message) : Act Pattern) s := rfl
  rw [h]
  cases patternHeld? source s.memory.block with
  | some p => rfl
  | none => cases Pattern.ofSource source <;> rfl

/-- What a pattern was compiled from compiles to it again. -/
theorem Pattern.ofSource_source (p : Pattern) : ofSource p.source = .ok p := by
  unfold ofSource
  split
  · exact congrArg Except.ok (Pattern.ext_source rfl)
  · rename_i failed
    rw [p.compiles] at failed
    cases failed

theorem Operators.patternHeld?_eq_some {source : String} {b : Option Block} {p : Pattern} :
    patternHeld? source b = some p ↔ b = some (.pattern p) ∧ p.source = source := by
  unfold patternHeld?
  split
  · rename_i q
    split
    · rename_i same
      constructor
      · rintro ⟨⟩
        exact ⟨rfl, same⟩
      · rintro ⟨⟨⟩, -⟩
        rfl
    · rename_i other
      refine ⟨fun h => (nomatch h), ?_⟩
      rintro ⟨⟨⟩, same⟩
      exact absurd same other
  · rename_i none_
    refine ⟨fun h => (nomatch h), ?_⟩
    rintro ⟨rfl, -⟩
    exact absurd rfl (none_ p)

theorem Memory.setBlock_block (m : Memory) : m.setBlock m.block = m := by
  cases m
  rfl

/-- **The kept pattern is the one that would be compiled again**, so whatever is remembered,
a string has the same pattern, or the same error. -/
theorem Operators.patternOf_eq (source : String) (s : State) :
    patternOf source s =
      match Pattern.ofSource source with
      | .ok p => (.ok p, { s with memory := s.memory.setBlock (some (.pattern p)) })
      | .error e => (.error (.invalidPattern source e.message), s) := by
  rw [patternOf_apply]
  cases held : patternHeld? source s.memory.block with
  | none => rfl
  | some p =>
      obtain ⟨block, rfl⟩ := patternHeld?_eq_some.1 held
      rw [Pattern.ofSource_source]
      dsimp only
      rw [← block, Memory.setBlock_block]

/-- Why an operator refuses a term before it looks at any operand's value. -/
inductive EvalError.RaisedFor (t : Term) : EvalError → Prop
  | unknown : RaisedFor t (.unknown t)
  | arity (expected : Arity) : RaisedFor t (.arity t.name expected t.arity t.text)
  | operand (position : Nat) (expected : String) :
      RaisedFor t (.wrongOperand t position expected)

section

variable {site : Site} {term : Term} {e : EvalError}

theorem EvalError.RaisedFor.concerns_eq (raised : e.RaisedFor term) (text : String) :
    e.concerns text = (term.text == text) := by
  cases raised with
  | unknown => rfl
  | arity expected => rfl
  | operand position expected => rfl

theorem EvalError.IsLocal.concerns_eq_false (own : e.IsLocal) (text : String) :
    e.concerns text = false := by
  cases e <;> first | rfl | exact own.elim

theorem EvalError.leaving_of_concerns (own : e.concerns term.text = true) :
    e.leaving site term = e := if_pos own

theorem EvalError.leaving_of_not_concerns (other : e.concerns term.text = false) :
    e.leaving site term = .evaluation term.text ⟨site.depth, term.name, site.rows.length⟩ e := by
  unfold leaving
  rw [other, if_neg Bool.false_ne_true]

/-- A term that an error leaves is not its cause. -/
@[simp] theorem EvalError.rootCause_leaving (site : Site) (term : Term) (e : EvalError) :
    (e.leaving site term).rootCause = e.rootCause := by
  unfold leaving
  split <;> rfl

end

theorem checkArity_of_admits {term : Term} {expected : Arity}
    (admitted : expected.admits term.arity = true) : checkArity term expected = pure () :=
  if_pos admitted

theorem checkArity_exactly {term : Term} {n : Nat} (other : term.arity ≠ n) :
    checkArity term (.exactly n) =
      .fail (.arity term.name (.exactly n) term.arity term.text) :=
  if_neg fun admitted => other (beq_iff_eq.1 admitted)

theorem carriedTerm_of_carried {term t : Term} {p : Nat}
    (carried : (term.operand? p).bind Operand.carried? = some t) :
    carriedTerm term p = pure t := by
  unfold carriedTerm
  rw [carried]
  rfl

theorem checkArity_cases (term : Term) (expected : Arity) :
    checkArity term expected = pure () ∨
      checkArity term expected = .fail (.arity term.name expected term.arity term.text) := by
  unfold checkArity
  split
  · exact .inl rfl
  · exact .inr rfl

/-- The name at a position, a bare word or a string. -/
def Term.symbol? (t : Term) (p : Nat) : Option String :=
  match t.operand? p with
  | some (.field name) => some name
  | some (.literal (.string name)) => some name
  | _ => none

theorem symbol_eq (t : Term) (p : Nat) :
    symbol t p =
      match t.symbol? p with
      | some name => pure name
      | none => .fail (.wrongOperand t p "symbol") := by
  unfold symbol Term.symbol?
  cases t.operand? p with
  | none => rfl
  | some o =>
      cases o with
      | literal s => cases s <;> rfl
      | _ => rfl

theorem carriedTerm_cases (term : Term) (p : Nat) :
    (∃ t, (term.operand? p).bind Operand.carried? = some t ∧ carriedTerm term p = pure t) ∨
      carriedTerm term p = .fail (.wrongOperand term p "term") := by
  unfold carriedTerm
  split
  · rename_i t h
    exact .inl ⟨t, h, rfl⟩
  · exact .inr rfl

/-- A nested term is evaluated one level deeper, on its own memory. -/
theorem resolve_nested {evaluate : Evaluator} {site : Site} {t c : Term} {p : Nat}
    (operand : t.operand? p = some (.nested c)) (s : State) :
    resolve evaluate site t p s =
      let ran := evaluate site.deeper c ⟨s.memory.child p, s.world⟩
      (ran.1.map Value.normalized, ⟨s.memory.setChild p ran.2.memory, ran.2.world⟩) := by
  have child := Act.atChild_apply p (evaluate site.deeper c) s
  unfold resolve
  rw [operand]
  revert child
  dsimp only
  generalize evaluate site.deeper c ⟨s.memory.child p, s.world⟩ = ran
  obtain ⟨r, s'⟩ := ran
  intro child
  cases r with
  | error e => exact Act.bind_error child _
  | ok v => exact Act.bind_ok child _

/-! ### Definitions -/

theorem Definition.make_cases (name : String) (body : Term) :
    countOf body < UInt64.size ∧ (∀ m, make name ⟨body, m⟩ = .ok (.ofTerm name ⟨body, m⟩)) ∨
      UInt64.size ≤ countOf body ∧
        ∀ m, make name ⟨body, m⟩ = .error (.abort "attempt to add with overflow") := by
  rcases Nat.lt_or_ge (countOf body) UInt64.size with fits | past
  · exact .inl ⟨fits, fun m => if_pos fits⟩
  · exact .inr ⟨past, fun m => if_neg (Nat.not_lt.2 past)⟩

/-- The operands of a term are those of a `defn`: a name, and a body whose operands can be
counted. -/
structure Term.Defines (t : Term) (name : String) (body : Term) : Prop where
  arity : t.arity = 2
  symbol : t.symbol? 0 = some name
  carried : (t.operand? 1).bind Operand.carried? = some body
  counted : Definition.countOf body < UInt64.size

/-- Why a `defn` fails for its operands: the first thing that is wrong with them. -/
inductive Term.DefinesNothing (t : Term) : EvalError → Prop
  | arity : t.arity ≠ 2 → DefinesNothing t (.arity t.name (.exactly 2) t.arity t.text)
  | symbol : t.arity = 2 → t.symbol? 0 = none → DefinesNothing t (.wrongOperand t 0 "symbol")
  | term {name : String} : t.arity = 2 → t.symbol? 0 = some name →
      (t.operand? 1).bind Operand.carried? = none → DefinesNothing t (.wrongOperand t 1 "term")
  | count {name : String} {body : Term} : t.arity = 2 → t.symbol? 0 = some name →
      (t.operand? 1).bind Operand.carried? = some body →
      UInt64.size ≤ Definition.countOf body →
      DefinesNothing t (.abort "attempt to add with overflow")

theorem Term.DefinesNothing.origin {t : Term} {e : EvalError} (nothing : t.DefinesNothing e) :
    e.IsLocal ∨ e.RaisedFor t := by
  cases nothing with
  | arity => exact .inr (.arity (.exactly 2))
  | symbol => exact .inr (.operand 0 "symbol")
  | term => exact .inr (.operand 1 "term")
  | count => exact .inl trivial

/-- `defn` fails for its operands, whatever the world, or registers the body it carries. -/
theorem Operators.define_cases (t : Term) :
    (∃ e, t.DefinesNothing e ∧ ∀ s, define t s = (.error e, s)) ∨
      ∃ name body, t.Defines name body ∧ ∀ s, define t s =
        match s.world.define (.ofTerm name ⟨body, s.memory.child 1⟩) with
        | .ok w => (.ok (.boolean true), { s with world := w })
        | .error e => (.error e, s) := by
  by_cases arity : t.arity = 2
  rotate_left
  · refine .inl ⟨_, .arity arity, fun s => ?_⟩
    unfold define
    rw [checkArity_exactly arity]
    rfl
  have admitted : checkArity t (.exactly 2) = pure () := checkArity_of_admits (beq_iff_eq.2 arity)
  cases named : t.symbol? 0 with
  | none =>
      refine .inl ⟨_, .symbol arity named, fun s => ?_⟩
      unfold define
      rw [admitted, symbol_eq, named]
      rfl
  | some name =>
      cases carried : (t.operand? 1).bind Operand.carried? with
      | none =>
          refine .inl ⟨_, .term arity named carried, fun s => ?_⟩
          unfold define carriedTerm
          rw [admitted, symbol_eq, named, carried]
          rfl
      | some body =>
          have run (s : State) : define t s =
              (Act.ofExcept (Definition.make name ⟨body, s.memory.child 1⟩) >>= fun d => do
                Act.change (·.define d)
                return .boolean true : Act Value) s := by
            unfold define
            rw [admitted, symbol_eq, named, carriedTerm_of_carried carried]
            rfl
          rcases Definition.make_cases name body with ⟨counted, make⟩ | ⟨past, make⟩
          · refine .inr ⟨name, body, ⟨arity, named, carried, counted⟩, fun s => ?_⟩
            rw [run, make]
            cases made : s.world.define (.ofTerm name ⟨body, s.memory.child 1⟩) with
            | ok w => exact Act.bind_ok (Act.change_ok made) _
            | error e => exact Act.bind_error (Act.change_error made) _
          · refine .inl ⟨_, .count arity named carried past, fun s => ?_⟩
            rw [run, make]
            rfl

/-! ## Expansions -/

namespace Definition

variable (d : Definition) (body : Instance) (term : Term)

/-- Whether the expansion a term remembers is of this very definition. -/
def isKept (m : Memory) : Bool :=
  match m.block with
  | some (.expansion generation _ _) => generation == d.generation
  | _ => false

/-- The expansion that a call runs: the one remembered, or a new one. -/
def expansionFor (m : Memory) : Instance :=
  match m.block with
  | some (.expansion generation t u) =>
      if generation = d.generation then ⟨t, u⟩ else body.instantiate ⟨term, m⟩
  | _ => body.instantiate ⟨term, m⟩

/-- The world in which the expansion runs: filling in a new one is recorded. -/
def worldFor (m : Memory) (w : World) : World :=
  if d.isKept m then w else w.note (.expanding d.name term.arity)

theorem worldFor_cases (m : Memory) (w : World) :
    d.worldFor term m w = w ∨ d.worldFor term m w = w.note (.expanding d.name term.arity) := by
  unfold worldFor
  split
  · exact .inl rfl
  · exact .inr rfl

@[simp] theorem fact_worldFor (m : Memory) (w : World) : (d.worldFor term m w).fact = w.fact := by
  rcases d.worldFor_cases term m w with same | noted
  · rw [same]
  · rw [noted]
    rfl

@[simp] theorem registry_worldFor (m : Memory) (w : World) :
    (d.worldFor term m w).registry = w.registry := by
  rcases d.worldFor_cases term m w with same | noted
  · rw [same]
  · rw [noted]
    rfl

@[simp] theorem nextGeneration_worldFor (m : Memory) (w : World) :
    (d.worldFor term m w).nextGeneration = w.nextGeneration := by
  rcases d.worldFor_cases term m w with same | noted
  · rw [same]
  · rw [noted]
    rfl

theorem expansion_apply (s : State) :
    expansion d body term s =
      (.ok (d.expansionFor body term s.memory),
        { s with world := d.worldFor term s.memory s.world }) := by
  have fresh : expansion.expand d body term s =
      (.ok (body.instantiate ⟨term, s.memory⟩),
        { s with world := s.world.note (.expanding d.name term.arity) }) := rfl
  have h : expansion d body term s =
      (match s.memory.block with
        | some (.expansion generation t memory) =>
            if generation = d.generation then pure ⟨t, memory⟩ else expansion.expand d body term
        | _ => expansion.expand d body term : Act Instance) s := rfl
  rw [h, expansionFor, worldFor, isKept]
  rcases s.memory.block with _ | (_ | _ | _ | ⟨generation, t, memory⟩)
  case some.expansion =>
    by_cases same : generation = d.generation
    · simp [same]
    · simp [same, fresh]
  all_goals exact fresh

theorem expansionFor_of_isKept {m : Memory} (kept : d.isKept m = true) :
    m.block = some (.expansion d.generation (d.expansionFor body term m).term
      (d.expansionFor body term m).memory) := by
  unfold isKept at kept
  unfold expansionFor
  rcases h : m.block with _ | (_ | _ | _ | ⟨generation, t, memory⟩)
  case some.expansion =>
    simp only [h, beq_iff_eq] at kept
    simp [kept]
  all_goals simp [h] at kept

theorem expansionFor_of_block {m : Memory} {t : Term} {u : Memory}
    (block : m.block = some (.expansion d.generation t u)) :
    d.expansionFor body term m = ⟨t, u⟩ := by
  simp [expansionFor, block]

theorem expansionFor_of_not_isKept {m : Memory} (new : d.isKept m = false) :
    d.expansionFor body term m = body.instantiate ⟨term, m⟩ := by
  unfold isKept at new
  unfold expansionFor
  rcases h : m.block with _ | (_ | _ | _ | ⟨generation, t, memory⟩)
  case some.expansion =>
    simp only [h, beq_eq_false_iff_ne, ne_eq] at new
    simp [new]
  all_goals rfl

variable {d body term}

/-- **A call of an operator that a term defines** runs the expansion one level deeper, on
the expansion's own memory, and keeps the expansion with what it remembers then. -/
theorem run_expression (isTerm : d.body = .expression body)
    (admitted : d.arity.admits term.arity = true) (evaluate : Evaluator) (site : Site)
    (s : State) :
    d.run evaluate site term s =
      Act.inExpansion d.generation (d.expansionFor body term s.memory).term
        (d.expansionFor body term s.memory).memory
        (evaluate site.deeper (d.expansionFor body term s.memory).term)
        { s with world := d.worldFor term s.memory s.world } := by
  have ok : checkArity term d.arity = Act.pure () := checkArity_of_admits admitted
  unfold Definition.run
  simp only [isTerm, ok]
  exact Act.bind_ok (expansion_apply d body term s) _

/-- A call with too few or too many operands fails before anything else. -/
theorem run_refused (refused : d.arity.admits term.arity = false) (evaluate : Evaluator)
    (site : Site) (s : State) :
    d.run evaluate site term s =
      (.error (.arity term.name d.arity term.arity term.text), s) := by
  unfold Definition.run
  exact Act.bind_error (by simp [checkArity, refused]) _

theorem run_native {run : Native} (isNative : d.body = .native run)
    (admitted : d.arity.admits term.arity = true) (evaluate : Evaluator) (site : Site) :
    d.run evaluate site term = (do
      let args ← resolveAll evaluate site term term.positions
      Act.ofExcept (run args (← Act.fact) site.rows)) := by
  have ok : checkArity term d.arity = Act.pure () := checkArity_of_admits admitted
  unfold Definition.run
  simp only [isNative, ok]
  rfl

end Definition

/-! ## Dispatch -/

theorem Registry.standard_hosts (b : Builtin) : Registry.standard.hosts b = true := by
  cases b with
  | compare c => cases c <;> decide
  | arithmetic a => cases a <;> decide
  | _ => decide

section

variable {settings : Settings} {evaluate : Evaluator} {site : Site} {term : Term}

theorem dispatch_builtin {b : Builtin} {s : State} (isBuiltin : term.operator = .builtin b)
    (hosted : s.world.registry.hosts b = true) :
    dispatch settings evaluate site term s =
      Act.mapError (·.leaving site term) (b.run settings evaluate site term)
        { s with world := s.world.note (.dispatched site.depth term) } := by
  have h : dispatch settings evaluate site term s =
      (if s.world.registry.hosts b then
        Act.mapError (·.leaving site term) (b.run settings evaluate site term)
      else Act.fail (.unknown term) : Act Value)
        { s with world := s.world.note (.dispatched site.depth term) } := by
    unfold dispatch
    rw [isBuiltin]
    rfl
  rw [h, hosted, if_pos rfl]

theorem dispatch_unhosted {b : Builtin} {s : State} (isBuiltin : term.operator = .builtin b)
    (unhosted : s.world.registry.hosts b = false) :
    dispatch settings evaluate site term s =
      (.error (.unknown term),
        { s with world := s.world.note (.dispatched site.depth term) }) := by
  have h : dispatch settings evaluate site term s =
      (if s.world.registry.hosts b then
        Act.mapError (·.leaving site term) (b.run settings evaluate site term)
      else Act.fail (.unknown term) : Act Value)
        { s with world := s.world.note (.dispatched site.depth term) } := by
    unfold dispatch
    rw [isBuiltin]
    rfl
  rw [h, unhosted]
  rfl

/-- An operator that works something out for itself: its value, or the error with the context of
the term. -/
theorem dispatch_local {α : Type} {b : Builtin} {s : State} {r : Except EvalError α} {f : α → Value}
    (isBuiltin : term.operator = .builtin b) (hosted : s.world.registry.hosts b = true)
    (own : ∀ e, r = .error e → e.IsLocal)
    (run : ∀ s', (b.run settings evaluate site term s').1 = r.map f) :
    (dispatch settings evaluate site term s).1 =
      (r.map f).mapError (.evaluation term.text ⟨site.depth, term.name, site.rows.length⟩) := by
  rw [dispatch_builtin isBuiltin hosted, Act.mapError_apply, run]
  cases result : r with
  | ok v => rfl
  | error e =>
      exact congrArg Except.error
        (EvalError.leaving_of_not_concerns ((own e result).concerns_eq_false term.text))

/-- Only what is hosted has a value. -/
theorem hosts_of_dispatch {b : Builtin} {s s' : State} {v : Value}
    (isBuiltin : term.operator = .builtin b)
    (ran : dispatch settings evaluate site term s = (.ok v, s')) :
    s.world.registry.hosts b = true := by
  cases hosted : s.world.registry.hosts b with
  | true => rfl
  | false =>
      rw [dispatch_unhosted isBuiltin hosted] at ran
      cases ran

theorem dispatch_custom {name : String} {d : Definition} {s : State}
    (isCustom : term.operator = .custom name) (found : s.world.registry.lookup? name = some d) :
    dispatch settings evaluate site term s =
      Act.mapError (·.leaving site term) (d.run evaluate site term)
        { s with world := s.world.note (.dispatched site.depth term) } := by
  have same : (s.world.note (.dispatched site.depth term)).registry.lookup? name = some d := found
  unfold dispatch
  rw [isCustom]
  simp only [bind, Act.bind, Act.note, Act.registry, same]

theorem dispatch_undefined {name : String} {s : State}
    (isCustom : term.operator = .custom name) (missing : s.world.registry.lookup? name = none) :
    dispatch settings evaluate site term s =
      (.error (.unknown term),
        { s with world := s.world.note (.dispatched site.depth term) }) := by
  have same : (s.world.note (.dispatched site.depth term)).registry.lookup? name = none := missing
  unfold dispatch
  rw [isCustom]
  simp only [bind, Act.bind, Act.note, Act.registry, same, Act.fail]

end

/-! ## Instances and scans -/

/-- What is left of a scan after a first value and fact. -/
def ScanResult.after (v : Value) (fact : Fact) (rest : ScanResult) : ScanResult :=
  { rest with values := rest.values.map (v :: ·), facts := fact :: rest.facts }

section

variable {settings : Settings} {rows : List Row} {fact : Fact} {facts : List Fact}
variable {i : Instance} {w : World} {s : State}

/-- The evaluation behind a value of an instance. -/
theorem Instance.evaluate_ok {v : Value} (ran : (i.evaluate settings rows w).1 = .ok v) :
    ∃ s, FactScan.evaluate settings rows i.term ⟨i.memory, w⟩ = (.ok v, s) ∧
      (i.evaluate settings rows w).2.2 = s.world := by
  unfold Instance.evaluate at ran ⊢
  rcases step : FactScan.evaluate settings rows i.term ⟨i.memory, w⟩ with ⟨result, s⟩
  rw [step] at ran
  obtain rfl : result = .ok v := ran
  exact ⟨s, rfl, rfl⟩

theorem Instance.scan_ok {v : Value}
    (ran : FactScan.evaluate settings rows i.term ⟨i.memory, { w with fact }⟩ = (.ok v, s)) :
    i.scan settings rows (fact :: facts) w =
      (Instance.scan settings rows facts ⟨i.term, s.memory⟩ s.world).after v s.world.fact := by
  rw [Instance.scan, Instance.evaluate, ran]
  rfl

theorem Instance.scan_error {e : EvalError}
    (ran : FactScan.evaluate settings rows i.term ⟨i.memory, { w with fact }⟩ = (.error e, s)) :
    i.scan settings rows (fact :: facts) w =
      ⟨.error e, ⟨i.term, s.memory⟩, s.world.fact :: facts, s.world⟩ := by
  rw [Instance.scan, Instance.evaluate, ran]

end

end FactScan
