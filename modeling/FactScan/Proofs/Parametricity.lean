/-
# FactScan.Proofs.Parametricity — operators treat all evaluators alike

A built-in operator gets at its operands only through the evaluator it is given, and does
the rest in a few kinds of steps.  So a property of acts that is closed under those steps
(`Act.Closed`), and that the evaluations of the operands have, is a property of every
operator: `Builtin.run_closed`.

The property is one of *families* of acts.  A family over `Unit` is a single act, which
gives invariants; one over `Bool` compares two evaluations, of one term or of two terms
whose operands correspond (`Counterparts`); one over `Evaluator` says how a result depends
on the results of operands.  Every later induction over evaluation is an instance.
-/
import FactScan.Engine.Evaluate

namespace FactScan

set_option autoImplicit false

/-- An error that an operator raises by itself and that names no term. -/
def EvalError.IsLocal : EvalError → Prop
  | .unknownOperator .. | .arity .. | .operandType .. | .evaluation .. | .recursionLimit _
  | .host _ => False
  | _ => True

/-! ## Closed properties -/

/-- A property of families of acts that single steps have and sequences keep. -/
structure Act.Composes {ι : Type} (Q : (α : Type) → (ι → Act α) → Prop) : Prop where
  pure {α : Type} (a : α) : Q α fun _ => Pure.pure a
  bind {α β : Type} {act : ι → Act α} {f : ι → α → Act β} :
    Q α act → (∀ a, Q β fun i => f i a) → Q β fun i => act i >>= f i
  fail {α : Type} {e : EvalError} : e.IsLocal → Q α fun _ => Act.fail e

/-- A property of families of acts that the steps common to all operators have and keep.  Only
`agg` puts other facts in the place of the one there is. -/
structure Act.Closed {ι : Type} (Q : (α : Type) → (ι → Act α) → Prop) : Prop
    extends Act.Composes Q where
  overlay {α : Type} (row : Row) {act : ι → Act α} :
    Q α act → Q α fun i => do Act.withFact (.overlay row (← Act.fact)) (act i)
  vacant {α : Type} {act : ι → Act α} : Q α act → Q α fun i => Act.withFact .empty (act i)

/-- Looking up a field has the property.  Operators look up only fields that are operands of
their terms. -/
structure Act.Looks {ι : Type} (Q : (α : Type) → (ι → Act α) → Prop) (field : String) : Prop where
  read : Q Value fun _ => do return (← Act.fact).read field
  holds : Q Bool fun _ => do return (← Act.fact).holds field

variable {ι : Type}

section

variable {Q : (α : Type) → (ι → Act α) → Prop}

/-- The operands at one position of each of several terms, alike in kind and content except
that nested terms may differ where their evaluations have the property. -/
inductive Operand.Alike (Q : (α : Type) → (ι → Act α) → Prop) (evaluate : ι → Evaluator)
    (depth : ι → Nat) (position : ι → Nat) (operand : ι → Option Operand) : Prop
  | missing : (∀ i, operand i = none) → Alike Q evaluate depth position operand
  | literal (s : Scalar) : (∀ i, operand i = some (.literal s)) →
      (∀ t rows, s = .term t →
        Q Value fun i => Act.atChild (position i) (evaluate i ⟨rows, depth i + 1⟩ t)) →
      Alike Q evaluate depth position operand
  | field (name : String) : (∀ i, operand i = some (.field name)) → Act.Looks Q name →
      Alike Q evaluate depth position operand
  | placeholder (n : UInt64) : (∀ i, operand i = some (.placeholder n)) →
      Alike Q evaluate depth position operand
  | nested (t : ι → Term) : (∀ i, operand i = some (.nested (t i))) →
      (∀ rows, Q Value fun i =>
        Act.atChild (position i) (evaluate i ⟨rows, depth i + 1⟩ (t i))) →
      Alike Q evaluate depth position operand

/-- Terms with the same number of operands that correspond one by one, and whose misuse is
reported alike. -/
structure Counterparts (Q : (α : Type) → (ι → Act α) → Prop) (evaluate : ι → Evaluator)
    (depth : ι → Nat) (term : ι → Term) : Prop where
  arity : ∃ n, ∀ i, (term i).arity = n
  operand (p : Nat) : Operand.Alike Q evaluate depth (fun _ => p) fun i => (term i).operand? p
  wrongArity (expected : Arity) :
    Q Unit fun i => .fail (.arity (term i).name expected (term i).arity (term i).text)
  wrongOperand {α : Type} (p : Nat) (expected : String) :
    Q α fun i => .fail (.wrongOperand (term i) p expected)

/-- The steps that only some operators take. -/
structure Builtin.Permitted (Q : (α : Type) → (ι → Act α) → Prop) (level : Level)
    (term : ι → Term) (b : Builtin) : Prop where
  exchange : b = .previous → ∀ v, Q Value fun _ => Operators.exchange v
  collect : b = .unique → ∀ keys, Q Bool fun _ => Operators.collect keys
  pattern : b = .isMatch → ∀ source, Q Pattern fun _ => Operators.patternOf source
  append : b = .assign → ∀ field, (∀ i, (term i).operand? 0 = some (.field field)) →
    ∀ s, Q Unit fun _ => Act.append field s
  define : b = .define → Q Value fun i => Operators.define (term i)
  undefine : b = .undefine → ∀ name,
    Q Unit fun _ => Act.change fun w => (w.undefine name).map (·.1)
  kept : b = .aggregate → ∀ k n, Q Unit fun _ => Act.note (.kept k n)
  traced : b = .traced → ∀ v, Q Unit fun i => Act.note (.traced level (term i) v)

/-- Steps of a single term have all that follows from what they have. -/
theorem Builtin.Permitted.imp {κ : Type} [Inhabited κ] {R : (α : Type) → (κ → Act α) → Prop}
    {level : Level} {t : Term} {b : Builtin} (permitted : b.Permitted Q level fun _ => t)
    (weaker : ∀ {α : Type} {act : Act α}, Q α (fun _ => act) → R α fun _ => act) :
    b.Permitted R level fun _ => t where
  exchange is v := weaker (permitted.exchange is v)
  collect is keys := weaker (permitted.collect is keys)
  pattern is source := weaker (permitted.pattern is source)
  append is field named s := weaker (permitted.append is field (fun _ => named default) s)
  define is := weaker (permitted.define is)
  undefine is name := weaker (permitted.undefine is name)
  kept is k n := weaker (permitted.kept is k n)
  traced is v := weaker (permitted.traced is v)

/-! ## Steps that look at no operand -/

namespace Act.Composes

variable {α β : Type}

/-- What follows a look at a field may depend on what the field holds. -/
theorem readThen (L : Act.Composes Q) {field : String} (look : Act.Looks Q field)
    {f : ι → Value → Act β} (next : ∀ v, Q β fun i => f i v) :
    Q β fun i => Act.fact >>= fun x => f i (x.read field) := by
  have h := L.bind look.read next
  exact h

theorem holdsThen (L : Act.Composes Q) {field : String} (look : Act.Looks Q field)
    {f : ι → Bool → Act β} (next : ∀ b, Q β fun i => f i b) :
    Q β fun i => Act.fact >>= fun x => f i (x.holds field) := by
  have h := L.bind look.holds next
  exact h

theorem ofExcept (L : Act.Composes Q) {r : Except EvalError α}
    (loc : ∀ e, r = .error e → e.IsLocal) : Q α fun _ => Act.ofExcept r := by
  cases r with
  | ok a => exact L.pure a
  | error e => exact L.fail (loc e rfl)

theorem single (L : Act.Composes Q) (operator : String) (v : Value) :
    Q (Option Scalar) fun _ => FactScan.single operator v := by
  unfold FactScan.single
  split
  · exact L.pure none
  · exact L.pure (some _)
  · exact L.fail trivial

theorem integer (L : Act.Composes Q) (s : Scalar) : Q Int64 fun _ => FactScan.integer s := by
  unfold FactScan.integer
  split
  · exact L.pure _
  · exact L.fail trivial

end Act.Composes

/-! ## Errors of plain computations -/

theorem Arithmetic.apply_error_isLocal (op : Arithmetic) (a b : Scalar) (e : EvalError)
    (h : op.apply a b = .error e) : e.IsLocal := by
  unfold Arithmetic.apply Arithmetic.onIntegers Arithmetic.onFloats at h
  repeat' split at h
  all_goals cases h
  all_goals trivial

theorem sumFrom_error_isLocal (total : Scalar) (items : List Scalar) (e : EvalError)
    (h : sumFrom total items = .error e) : e.IsLocal := by
  induction items generalizing total with
  | nil => simp [sumFrom] at h
  | cons s rest ih =>
      simp only [sumFrom] at h
      split at h
      · split at h
        · exact ih _ h
        · rename_i he
          cases h
          exact Arithmetic.apply_error_isLocal _ _ _ _ he
      · cases h
        trivial

theorem extremum_error_isLocal (wanted : Ordering) (best : Option Scalar) (items : List Scalar)
    (e : EvalError) (h : extremum wanted best items = .error e) : e.IsLocal := by
  induction items generalizing best with
  | nil => simp [extremum] at h
  | cons s rest ih =>
      cases best with
      | none => exact ih _ h
      | some best =>
          simp only [extremum] at h
          split at h
          · exact ih _ h
          · cases h
            trivial

theorem Comparison.holdsSome_error_isLocal (c : Comparison) (pairs : List (Scalar × Scalar))
    (e : EvalError) (h : c.holdsSome pairs = .error e) : e.IsLocal := by
  induction pairs with
  | nil => simp [Comparison.holdsSome] at h
  | cons pair rest ih =>
      simp only [Comparison.holdsSome] at h
      split at h
      · cases h
      · exact ih h
      · rename_i he
        cases h
        unfold Comparison.holds at he
        repeat' split at he
        all_goals cases he
        all_goals trivial

theorem Comparison.values_error_isLocal (c : Comparison) (left right : Value) (e : EvalError)
    (h : c.values left right = .error e) : e.IsLocal := by
  unfold Comparison.values at h
  split at h
  · cases h
  · split at h
    · cases hs : Comparison.eq.holdsSome (Comparison.pairs left right) with
      | ok b => simp [hs, Except.map] at h
      | error e' =>
          simp only [hs, Except.map, Except.error.injEq] at h
          subst h
          exact Comparison.holdsSome_error_isLocal _ _ _ hs
    · exact Comparison.holdsSome_error_isLocal _ _ _ h

end

/-! ## Operands -/

section

variable {Q : (α : Type) → (ι → Act α) → Prop} {evaluate : ι → Evaluator} {depth : ι → Nat}
variable {term : ι → Term} {rows : List Row}

theorem checkArity_closed (L : Act.Composes Q) (C : Counterparts Q evaluate depth term)
    (expected : Arity) : Q Unit fun i => checkArity (term i) expected := by
  obtain ⟨n, same⟩ := C.arity
  have wrong := C.wrongArity expected
  unfold checkArity
  simp only [same] at wrong ⊢
  split
  · exact L.pure ()
  · exact wrong

/-- Resolving operands that correspond, which may stand at different positions. -/
theorem resolve_closed_of_alike (L : Act.Composes Q) {position : ι → Nat}
    (alike : Operand.Alike Q evaluate depth position fun i => (term i).operand? (position i))
    (wrong : Q Value fun i => .fail (.wrongOperand (term i) (position i) "value")) :
    Q Value fun i => resolve (evaluate i) ⟨rows, depth i⟩ (term i) (position i) := by
  unfold resolve
  cases alike with
  | missing h => simpa only [h] using wrong
  | literal s h _ => simpa only [h] using L.pure _
  | field name h look =>
      simp only [h]
      exact L.readThen look fun v => L.pure v.normalized
  | placeholder n h => simpa only [h] using wrong
  | nested t h child =>
      simp only [h]
      exact L.bind (child rows) fun v => L.pure v.normalized

theorem resolve_closed (L : Act.Composes Q) (C : Counterparts Q evaluate depth term) (p : Nat) :
    Q Value fun i => resolve (evaluate i) ⟨rows, depth i⟩ (term i) p :=
  resolve_closed_of_alike L (C.operand p) (C.wrongOperand p "value")

theorem resolveAll_closed (L : Act.Composes Q) (C : Counterparts Q evaluate depth term) :
    ∀ ps, Q (List Value) fun i => resolveAll (evaluate i) ⟨rows, depth i⟩ (term i) ps
  | [] => L.pure []
  | p :: ps => by
      unfold resolveAll
      refine L.bind (resolve_closed L C p) fun v => ?_
      exact L.bind (resolveAll_closed L C ps) fun vs => L.pure (v :: vs)

/-- What follows on the field at a position, which may be looked up. -/
theorem fieldName_then {β : Type} (C : Counterparts Q evaluate depth term) (p : Nat)
    {f : ι → String → Act β}
    (next : ∀ name, (∀ i, (term i).operand? p = some (.field name)) → Act.Looks Q name →
      Q β fun i => f i name) :
    Q β fun i => fieldName (term i) p >>= f i := by
  have wrong := C.wrongOperand (α := β) p "field reference"
  unfold fieldName
  cases C.operand p with
  | field name h look =>
      simp only [h]
      exact next name h look
  | missing h =>
      simp only [h]
      exact wrong
  | literal s h _ =>
      simp only [h]
      exact wrong
  | placeholder n h =>
      simp only [h]
      exact wrong
  | nested t h _ =>
      simp only [h]
      exact wrong

theorem symbol_closed (L : Act.Composes Q) (C : Counterparts Q evaluate depth term) (p : Nat) :
    Q String fun i => symbol (term i) p := by
  have wrong := C.wrongOperand (α := String) p "symbol"
  unfold symbol
  cases C.operand p with
  | field name h _ =>
      simp only [h]
      exact L.pure name
  | literal s h _ =>
      simp only [h]
      cases s with
      | string name => exact L.pure name
      | _ => exact wrong
  | missing h => simpa only [h] using wrong
  | placeholder n h => simpa only [h] using wrong
  | nested t h _ => simpa only [h] using wrong

/-- One term corresponds to itself under all evaluators that have the property on the terms
it carries. -/
theorem Counterparts.ofTerm {t : Term}
    (child : ∀ p c, (t.operand? p).bind Operand.carried? = some c →
      ∀ rows, Q Value fun i => Act.atChild p (evaluate i ⟨rows, depth i + 1⟩ c))
    (look : ∀ p name, t.operand? p = some (.field name) → Act.Looks Q name)
    (wrongArity : ∀ expected, Q Unit fun _ => .fail (.arity t.name expected t.arity t.text))
    (wrongOperand : ∀ {α : Type} (p : Nat) (expected : String),
      Q α fun _ => .fail (.wrongOperand t p expected)) :
    Counterparts Q evaluate depth fun _ => t where
  arity := ⟨t.arity, fun _ => rfl⟩
  wrongArity := wrongArity
  wrongOperand := wrongOperand
  operand p := by
    cases h : t.operand? p with
    | none => exact .missing fun _ => rfl
    | some o =>
        have child := child p
        simp only [h, Option.bind_some] at child
        cases o with
        | field name => exact .field name (fun _ => rfl) (look p name h)
        | placeholder n => exact .placeholder n fun _ => rfl
        | nested c => exact .nested (fun _ => c) (fun _ => rfl) (child c rfl)
        | literal s =>
            refine .literal s (fun _ => rfl) fun c rows same => ?_
            subst same
            exact child c rfl rows

/-- What follows on terms carried at a position, if it has the property for every choice of
rows to evaluate them over. -/
theorem carriedTerm_closed {β : Type} (C : Counterparts Q evaluate depth term) (p : Nat)
    {f : ι → Term → Act β}
    (next : ∀ t : ι → Term,
      (∀ rows, Q Value fun i => Act.atChild p (evaluate i ⟨rows, depth i + 1⟩ (t i))) →
      Q β fun i => f i (t i)) :
    Q β fun i => carriedTerm (term i) p >>= f i := by
  have wrong := C.wrongOperand (α := β) p "term"
  have failing : ∀ o : Option Operand, o.bind Operand.carried? = none →
      (∀ i, (term i).operand? p = o) → Q β fun i => carriedTerm (term i) p >>= f i := by
    intro o none_ h
    unfold carriedTerm
    simp only [h, none_]
    exact wrong
  cases C.operand p with
  | missing h => exact failing _ rfl h
  | field name h _ => exact failing _ rfl h
  | placeholder n h => exact failing _ rfl h
  | nested t h child =>
      unfold carriedTerm
      simp only [h]
      exact next t child
  | literal s h child =>
      cases s with
      | term t =>
          unfold carriedTerm
          simp only [h]
          exact next (fun _ => t) fun rows => child t rows rfl
      | _ => exact failing _ rfl h

/-! ## Operators -/

namespace Operators

variable (L : Act.Composes Q) (C : Counterparts Q evaluate depth term)
include L C

theorem present_closed : Q Value fun i => present (term i) := by
  unfold present
  refine L.bind (checkArity_closed L C _) fun _ => ?_
  refine fieldName_then C 0 fun field _ look => ?_
  exact L.holdsThen look fun b => L.pure (Value.boolean b)

theorem absent_closed : Q Value fun i => absent (term i) := by
  unfold absent
  refine L.bind (checkArity_closed L C _) fun _ => ?_
  refine fieldName_then C 0 fun field _ look => ?_
  exact L.holdsThen look fun b => L.pure (Value.boolean !b)

/-- Operators that compute a value from that of their only operand. -/
theorem ofOperand_closed (f : Value → Value) :
    Q Value fun i => do
      checkArity (term i) (.exactly 1)
      return f (← resolve (evaluate i) ⟨rows, depth i⟩ (term i) 0) := by
  refine L.bind (checkArity_closed L C _) fun _ => ?_
  exact L.bind (resolve_closed L C 0) fun v => L.pure (f v)

theorem either_closed : Q Value fun i => either (evaluate i) ⟨rows, depth i⟩ (term i) := by
  unfold either
  refine L.bind (checkArity_closed L C _) fun _ => ?_
  refine L.bind (resolve_closed L C 0) fun a => ?_
  split
  · exact L.bind (resolve_closed L C 1) fun b => L.pure b.unwrapped
  · exact L.pure a.unwrapped

theorem item_closed : Q Value fun i => item (evaluate i) ⟨rows, depth i⟩ (term i) := by
  unfold item
  refine L.bind (checkArity_closed L C _) fun _ => ?_
  refine L.bind (resolve_closed L C 0) fun index => ?_
  refine L.bind (resolve_closed L C 1) fun sequence => ?_
  refine L.bind (L.single "at" index) fun index => ?_
  cases index with
  | none => exact L.pure _
  | some index =>
      dsimp only
      split
      · exact L.pure _
      · refine L.bind (L.integer index) fun n => ?_
        split
        · exact L.pure _
        · exact L.fail trivial

theorem const_closed : Q Value fun i => const (term i) := by
  have wrong := C.wrongOperand (α := Value) 0 "literal"
  unfold const
  refine L.bind (checkArity_closed L C _) fun _ => ?_
  cases C.operand 0 with
  | literal s h _ =>
      simp only [h]
      exact L.pure (Value.scalar s)
  | missing h => simpa only [h] using wrong
  | field name h _ => simpa only [h] using wrong
  | placeholder n h => simpa only [h] using wrong
  | nested t h _ => simpa only [h] using wrong

theorem anyIs_closed (wanted : Bool) :
    ∀ ps, Q Bool fun i => anyIs (evaluate i) ⟨rows, depth i⟩ (term i) wanted ps
  | [] => L.pure false
  | p :: ps => by
      unfold anyIs
      refine L.bind (resolve_closed L C p) fun v => ?_
      split
      · exact L.pure true
      · exact anyIs_closed wanted ps

omit L in
theorem positions_eq : ∃ ps, ∀ i, (term i).positions = ps := by
  obtain ⟨n, same⟩ := C.arity
  exact ⟨List.range n, fun i => by rw [Term.positions, same]⟩

theorem and_closed : Q Value fun i => and (evaluate i) ⟨rows, depth i⟩ (term i) := by
  obtain ⟨ps, same⟩ := positions_eq C
  unfold and
  simp only [same]
  refine L.bind (checkArity_closed L C _) fun _ => ?_
  exact L.bind (anyIs_closed L C false ps) fun b => L.pure (Value.boolean !b)

theorem or_closed : Q Value fun i => or (evaluate i) ⟨rows, depth i⟩ (term i) := by
  obtain ⟨ps, same⟩ := positions_eq C
  unfold or
  simp only [same]
  refine L.bind (checkArity_closed L C _) fun _ => ?_
  exact L.bind (anyIs_closed L C true ps) fun b => L.pure (Value.boolean b)

theorem comparison_closed (c : Comparison) :
    Q Value fun i => c.run (evaluate i) ⟨rows, depth i⟩ (term i) := by
  unfold Comparison.run
  refine L.bind (checkArity_closed L C _) fun _ => ?_
  refine L.bind (resolve_closed L C 0) fun left => ?_
  refine L.bind (resolve_closed L C 1) fun right => ?_
  exact L.bind (L.ofExcept (c.values_error_isLocal left right)) fun b => L.pure (Value.boolean b)

theorem arithmetic_closed (op : Arithmetic) :
    Q Value fun i => op.run (evaluate i) ⟨rows, depth i⟩ (term i) := by
  unfold Arithmetic.run
  refine L.bind (checkArity_closed L C _) fun _ => ?_
  refine L.bind (resolve_closed L C 0) fun left => ?_
  refine L.bind (resolve_closed L C 1) fun right => ?_
  refine L.bind (L.single op.name left) fun a => ?_
  refine L.bind (L.single op.name right) fun b => ?_
  cases a with
  | none => exact L.pure Value.nil
  | some a =>
      cases b with
      | none => exact L.pure Value.nil
      | some b =>
          exact L.bind (L.ofExcept (op.apply_error_isLocal a b)) fun s => L.pure (Value.scalar s)

/-! ### Operators over rows -/

theorem extreme_closed (wanted : Ordering) :
    Q Value fun i => extreme ⟨rows, depth i⟩ (term i) wanted := by
  unfold extreme
  refine L.bind (checkArity_closed L C _) fun _ => ?_
  refine fieldName_then C 0 fun field _ _ => ?_
  refine L.bind (L.ofExcept (extremum_error_isLocal wanted none (column rows field)))
    fun best => ?_
  cases best with
  | none => exact L.pure Value.nil
  | some s => exact L.pure (Value.scalar s)

theorem count_closed : Q Value fun i => count ⟨rows, depth i⟩ (term i) := by
  obtain ⟨n, same⟩ := C.arity
  unfold count
  refine L.bind (checkArity_closed L C _) fun _ => ?_
  simp only [same]
  split
  · exact L.pure _
  · exact fieldName_then C 0 fun field _ _ => L.pure _

theorem nth_closed : Q Value fun i => nth (evaluate i) ⟨rows, depth i⟩ (term i) := by
  unfold nth
  refine L.bind (checkArity_closed L C _) fun _ => ?_
  refine L.bind (resolve_closed L C 0) fun index => ?_
  refine L.bind (L.single "nth" index) fun index => ?_
  cases index with
  | none => exact L.fail trivial
  | some index =>
      refine L.bind (L.integer index) fun n => ?_
      refine fieldName_then C 1 fun field _ _ => ?_
      dsimp only
      split
      · exact L.pure _
      · exact L.fail trivial

theorem first_closed : Q Value fun i => first ⟨rows, depth i⟩ (term i) := by
  unfold first
  refine L.bind (checkArity_closed L C _) fun _ => ?_
  refine fieldName_then C 0 fun field _ _ => ?_
  cases rows with
  | nil => exact L.pure Value.nil
  | cons row _ => exact L.pure (row.read field)

theorem sumFields_closed :
    ∀ total ps, Q Scalar fun i => sumFields ⟨rows, depth i⟩ (term i) total ps
  | total, [] => L.pure total
  | total, p :: ps => by
      unfold sumFields
      refine fieldName_then C p fun field _ _ => ?_
      refine L.bind (L.ofExcept (sumFrom_error_isLocal total (column rows field)))
        fun total => ?_
      exact sumFields_closed total ps

theorem sum_closed : Q Value fun i => sum ⟨rows, depth i⟩ (term i) := by
  obtain ⟨ps, same⟩ := positions_eq C
  unfold sum
  simp only [same]
  refine L.bind (checkArity_closed L C _) fun _ => ?_
  exact L.bind (sumFields_closed L C _ ps) fun s => L.pure (Value.scalar s)

omit L C in
theorem keptRows_closed (L : Act.Closed Q) {selector : ι → Term}
    (child : Q Value fun i =>
      Act.atChild 0 (evaluate i ⟨rows, depth i + 1⟩ (selector i))) :
    ∀ some_, Q (List Row) fun i => keptRows (evaluate i) ⟨rows, depth i⟩ (selector i) some_
  | [] => L.pure []
  | row :: rest => by
      unfold keptRows
      have first := L.bind (L.overlay row child)
        (f := fun i v => do
          let others ← keptRows (evaluate i) ⟨rows, depth i⟩ (selector i) rest
          return if v.isTruthy then row :: others else others)
        fun v => L.bind (keptRows_closed L child rest) fun others => L.pure _
      exact first

omit L in
theorem aggregate_closed (L : Act.Closed Q) (note : ∀ k n, Q Unit fun _ => Act.note (.kept k n)) :
    Q Value fun i => aggregate (evaluate i) ⟨rows, depth i⟩ (term i) := by
  unfold aggregate
  refine L.bind (checkArity_closed L.toComposes C _) fun _ => ?_
  refine carriedTerm_closed C 0 fun selector child => ?_
  refine L.bind (keptRows_closed L (child rows) rows) fun kept => ?_
  refine L.bind (note kept.length rows.length) fun _ => ?_
  exact carriedTerm_closed C 1 fun value child => L.vacant (child kept)

/-! ### Operators that leave something behind -/

theorem assign_closed
    (append : ∀ field, (∀ i, (term i).operand? 0 = some (.field field)) →
      ∀ s, Q Unit fun _ => Act.append field s) :
    Q Value fun i => assign (evaluate i) ⟨rows, depth i⟩ (term i) := by
  have appendAll : ∀ field, (∀ i, (term i).operand? 0 = some (.field field)) →
      ∀ items, Q Unit fun _ : ι => appendAll field items := by
    intro field named items
    induction items with
    | nil => exact L.pure ()
    | cons s rest ih => exact L.bind (append field named s) fun _ => ih
  unfold assign
  refine L.bind (checkArity_closed L C _) fun _ => ?_
  refine fieldName_then C 0 fun field named _ => ?_
  refine L.bind (resolve_closed L C 1) fun v => ?_
  exact L.bind (appendAll field named v.items) fun _ => L.pure _

theorem isMatch_closed (pattern : ∀ source, Q Pattern fun _ => patternOf source) :
    Q Value fun i => isMatch (evaluate i) ⟨rows, depth i⟩ (term i) := by
  unfold isMatch
  refine L.bind (checkArity_closed L C _) fun _ => ?_
  refine L.bind (resolve_closed L C 0) fun subject => ?_
  refine L.bind (resolve_closed L C 1) fun source => ?_
  refine L.bind (L.single "matches" subject) fun subject => ?_
  refine L.bind (L.single "matches" source) fun source => ?_
  match subject, source with
  | none, _ => exact L.pure _
  | some _, none => exact L.pure _
  | some (.string text), some (.string source) =>
      exact L.bind (pattern source) fun p => L.pure _
  | some (.string text), some (.regex p) => exact L.pure _
  | some (.string _), some (.integer _) | some (.string _), some (.float _)
  | some (.string _), some (.boolean _) | some (.string _), some (.timestamp _)
  | some (.string _), some (.term _) => exact L.fail trivial
  | some (.integer _), some _ | some (.float _), some _ | some (.boolean _), some _
  | some (.timestamp _), some _ | some (.regex _), some _ | some (.term _), some _ =>
      exact L.fail trivial

theorem undefine_closed
    (undefine : ∀ name, Q Unit fun _ => Act.change fun w => (w.undefine name).map (·.1)) :
    Q Value fun i => Operators.undefine (term i) := by
  unfold Operators.undefine
  refine L.bind (checkArity_closed L C _) fun _ => ?_
  refine L.bind (symbol_closed L C 0) fun name => ?_
  exact L.bind (undefine name) fun _ => L.pure _

theorem traced_closed (level : Level)
    (note : ∀ v, Q Unit fun i => Act.note (.traced level (term i) v)) :
    Q Value fun i => traced (evaluate i) ⟨rows, depth i⟩ (term i) level := by
  have unwrapped : Q Value fun i => do
      return (← resolve (evaluate i) ⟨rows, depth i⟩ (term i) 0).unwrapped :=
    L.bind (resolve_closed L C 0) fun v => L.pure v.unwrapped
  have value : Q Value fun i => tracedValue (evaluate i) ⟨rows, depth i⟩ (term i) := by
    unfold tracedValue
    cases C.operand 0 with
    | nested t h child =>
        simp only [h]
        exact child rows
    | missing h => simpa only [h] using unwrapped
    | literal s h _ => simpa only [h] using unwrapped
    | field name h _ => simpa only [h] using unwrapped
    | placeholder n h => simpa only [h] using unwrapped
  unfold traced
  refine L.bind (checkArity_closed L C _) fun _ => ?_
  refine L.bind value fun v => ?_
  exact L.bind (note v) fun _ => L.pure v

end Operators

/-- An operator that leaves the fact in its place composes what its operands' evaluations do
with steps of its own. -/
theorem Builtin.run_composed (L : Act.Composes Q) (C : Counterparts Q evaluate depth term)
    (settings : Settings) {b : Builtin} (other : b ≠ .aggregate)
    (P : b.Permitted Q settings.traceLevel term) :
    Q Value fun i => b.run settings (evaluate i) ⟨rows, depth i⟩ (term i) := by
  cases b with
  | present => exact Operators.present_closed L C
  | absent => exact Operators.absent_closed L C
  | isNil => exact Operators.ofOperand_closed L C fun v => .boolean v.isNil
  | either => exact Operators.either_closed L C
  | item => exact Operators.item_closed L C
  | previous =>
      refine L.bind (checkArity_closed L C _) fun _ => ?_
      exact L.bind (resolve_closed L C 0) fun v => P.exchange rfl v.unwrapped
  | unique =>
      refine L.bind (checkArity_closed L C _) fun _ => ?_
      refine L.bind (resolve_closed L C 0) fun v => ?_
      exact L.bind (P.collect rfl _) fun b => L.pure (Value.boolean b)
  | many => exact Operators.ofOperand_closed L C fun v => .boolean (1 < v.length)
  | one => exact Operators.ofOperand_closed L C fun v => .boolean (v.length = 1)
  | size => exact Operators.ofOperand_closed L C fun v => .integer v.length
  | kind => exact Operators.ofOperand_closed L C fun v => .scalar (.string v.unwrapped.typeName)
  | assign => exact Operators.assign_closed L C (P.append rfl)
  | isMatch => exact Operators.isMatch_closed L C (P.pattern rfl)
  | define => exact P.define rfl
  | undefine => exact Operators.undefine_closed L C (P.undefine rfl)
  | least => exact Operators.extreme_closed L C .lt
  | greatest => exact Operators.extreme_closed L C .gt
  | count => exact Operators.count_closed L C
  | nth => exact Operators.nth_closed L C
  | first => exact Operators.first_closed L C
  | sum => exact Operators.sum_closed L C
  | traced => exact Operators.traced_closed L C settings.traceLevel (P.traced rfl)
  | aggregate => exact absurd rfl other
  | const => exact Operators.const_closed L C
  | compare c => exact Operators.comparison_closed L C c
  | arithmetic a => exact Operators.arithmetic_closed L C a
  | and => exact Operators.and_closed L C
  | or => exact Operators.or_closed L C
  | not => exact Operators.ofOperand_closed L C fun v => .boolean !v.isTruthy

/-- **A closed property that the operands' evaluations have is one of every operator**, if
it allows the steps that only this operator takes. -/
theorem Builtin.run_closed (L : Act.Closed Q) (C : Counterparts Q evaluate depth term)
    (settings : Settings) (b : Builtin) (P : b.Permitted Q settings.traceLevel term) :
    Q Value fun i => b.run settings (evaluate i) ⟨rows, depth i⟩ (term i) := by
  by_cases is : b = .aggregate
  · subst is
    exact Operators.aggregate_closed C L (P.kept rfl)
  · exact run_composed L.toComposes C settings is P

end

end FactScan
