/-
# FactScan.Proofs.Facts.Clients — facts and rows are interchangeable

A program can hold a fact itself, as a fact in memory or as a row, or leave a fact in memory
with the host and share it under a number.  Whichever it does, and whatever it evaluates
against the fact one after the other (`Client.run`), it cannot tell:

* `Client.step_alike`: programs that hold facts that read the same, evaluating the same, get
  the same value or error and hold such facts again;
* `Client.run_interchangeable`: so the fact, the shared fact and the row from one document
  are as good as one another.

Functions of the host are taken to see of a fact what they can ask it (`Sight.whole`): the
values of its fields.
-/
import Mathlib.Logic.Function.Basic
import FactScan.Proofs.Facts.Loading
import FactScan.Proofs.Facts.Sight
import FactScan.Proofs.Hosts

namespace FactScan

set_option autoImplicit false

/-- Evaluations against facts that read the same in all fields, both or neither of which take
appends, with functions of the host that see no more. -/
theorem Instance.evaluate_agree (settings : Settings) (rows : List Row) (i : Instance) {w : World}
    {x' : Fact} (sees : w.registry.SeesOnly .whole) (agree : w.fact.AgreeOn Sight.whole.field x') :
    let first := i.evaluate settings rows w
    let second := i.evaluate settings rows (w.facing x')
    first.1 = second.1 ∧ first.2.1 = second.2.1 ∧ first.2.2.registry.SeesOnly .whole ∧
      second.2.2 = first.2.2.facing second.2.2.fact ∧
      first.2.2.fact.AgreeOn Sight.whole.field second.2.2.fact := by
  have all : ∀ name, Sight.whole.vocabulary.field name := fun _ => trivial
  have uses := State.usesOnly_of_all (fun _ => trivial) all (fun _ => trivial) ⟨i.memory, w⟩ i.term
  exact i.evaluate_alike settings ⟨i.term.usesOnly_of_all (fun _ => trivial) all, uses.memory⟩
    uses.registry sees agree (List.forall₂_same.2 fun row _ => rfl)

/-! ## Clients -/

/-- Where a program has its fact: with itself, or with the host under a number. -/
inductive Holder where
  | own (x : Fact)
  | shared (id : Nat)

/-- A program with its instances and the fact that it evaluates them against. -/
structure Client where
  host : Host
  pool : Nat → Instance
  holder : Holder

/-- An evaluation of one of the instances. -/
structure Turn where
  engine : Engine
  rows : List Row
  index : Nat

namespace Client

/-- The fact that is held. -/
def fact (s : Client) : Fact :=
  match s.holder with
  | .own x => x
  | .shared id => s.host.fact id

/-- Evaluate an instance against the fact that is held. -/
def step (turn : Turn) (s : Client) : Except EvalError Value × Client :=
  let i := s.pool turn.index
  match s.holder with
  | .own x =>
    match i.evaluate turn.engine.settings turn.rows (s.host.world turn.engine.registry x) with
    | (r, i, w) =>
      (r, ⟨s.host.absorb turn.engine.registry w, Function.update s.pool turn.index i, .own w.fact⟩)
  | .shared id =>
    match s.host.evaluate turn.engine turn.rows i id with
    | (r, i, host) => (r, ⟨host, Function.update s.pool turn.index i, .shared id⟩)

/-- Evaluate one after the other: the values and errors, and what becomes of the program. -/
def run : List Turn → Client → List (Except EvalError Value) × Client
  | [], s => ([], s)
  | turn :: rest, s =>
    let (r, s) := s.step turn
    let (rs, s) := run rest s
    (r :: rs, s)

/-- A number under which the host keeps a fact. -/
def IsGiven (s : Client) : Prop :=
  match s.holder with
  | .own _ => True
  | .shared id => id < s.host.facts.length

/-- The world that an evaluation begins in. -/
def world (s : Client) (engine : Engine) : World := s.host.world engine.registry s.fact

/-- Wherever the fact is, an evaluation is of the instance in the pool against it. -/
theorem step_eq {s : Client} (given : s.IsGiven) (turn : Turn) :
    let after := (s.pool turn.index).evaluate turn.engine.settings turn.rows (s.world turn.engine)
    let s' := (s.step turn).2
    (s.step turn).1 = after.1 ∧ s'.pool = Function.update s.pool turn.index after.2.1 ∧
      s'.fact = after.2.2.fact ∧ s'.IsGiven ∧
      ∃ facts, s'.host = { s.host.absorb turn.engine.registry after.2.2 with facts } := by
  obtain ⟨host, pool, holder⟩ := s
  cases holder with
  | own x => exact ⟨rfl, rfl, rfl, trivial, _, rfl⟩
  | shared id =>
      refine ⟨rfl, rfl, ?_, ?_, _, rfl⟩
      · show ((host.facts.set id _)[id]?).getD .empty = _
        rw [List.getElem?_set_self given]
        rfl
      · show id < (host.facts.set id _).length
        rw [List.length_set]
        exact given

/-- Programs that differ at most in where they hold facts that read the same. -/
structure Alike (s s' : Client) : Prop where
  pool : s'.pool = s.pool
  host : ∃ facts, s'.host = { s.host with facts }
  fact : s.fact.AgreeOn Sight.whole.field s'.fact
  given : s.IsGiven ∧ s'.IsGiven
  sees (id : Nat) : (s.host.registry id).SeesOnly .whole

/-- **One evaluation cannot tell alike programs apart**, and leaves them alike. -/
theorem step_alike {s s' : Client} (alike : s.Alike s') (turn : Turn) :
    (s'.step turn).1 = (s.step turn).1 ∧ (s.step turn).2.Alike (s'.step turn).2 := by
  obtain ⟨pool, ⟨facts, host⟩, agree, ⟨given, given'⟩, sees⟩ := alike
  obtain ⟨result, pooled, held, again, left, hosted⟩ := step_eq given turn
  obtain ⟨result', pooled', held', again', left', hosted'⟩ := step_eq given' turn
  -- Both evaluate one instance, in worlds that differ at most in the fact.
  have facing : s'.world turn.engine = (s.world turn.engine).facing s'.fact := by
    unfold world
    rw [host]
    rfl
  rw [facing, pool] at result' pooled' held' hosted'
  obtain ⟨sameResult, sameInstance, sees', sameWorld, agree'⟩ :=
    Instance.evaluate_agree turn.engine.settings turn.rows (s.pool turn.index)
      (w := s.world turn.engine) (sees turn.engine.registry) agree
  rw [← sameResult] at result'
  rw [← sameInstance] at pooled'
  rw [sameWorld] at hosted'
  refine ⟨result'.trans result.symm, pooled'.trans pooled.symm, ⟨left', ?host⟩, ?fact,
    ⟨again, again'⟩, fun id => ?sees⟩
  case host =>
    rw [hosted', hosted, host]
    rfl
  case fact =>
    rw [held, held']
    exact agree'
  case sees =>
    rw [hosted]
    exact Host.forall_registry_absorb sees sees' turn.engine.registry id

/-- **No sequence of evaluations can tell alike programs apart.** -/
theorem run_alike (turns : List Turn) {s s' : Client} (alike : s.Alike s') :
    (run turns s').1 = (run turns s).1 ∧ (run turns s).2.Alike (run turns s').2 := by
  induction turns generalizing s s' with
  | nil => exact ⟨rfl, alike⟩
  | cons turn rest ih =>
      obtain ⟨result, after⟩ := step_alike alike turn
      obtain ⟨results, last⟩ := ih after
      exact ⟨congrArg₂ List.cons result results, last⟩

theorem Alike.reads {s s' : Client} (alike : s.Alike s') (field : String) :
    s'.fact.read field = s.fact.read field ∧ s'.fact.holds field = s.fact.holds field :=
  ⟨(alike.fact.read trivial).symm, (alike.fact.holds trivial).symm⟩

/-- **Facts and rows are interchangeable.**  A document is a fact in memory or a row, or neither
with the same error.  And if it is, then a program with any instances, on a host with any
registries, that evaluates whatever it likes gets the same values and errors, and reads the
same in every field of its fact after them, whether it holds the fact in memory, shares it
with the host, or holds the row. -/
theorem run_interchangeable {j : Json} (map : j.IsMap) :
    (∃ e, Histories.ofJson j = .error e ∧ Row.ofJson j = .error e) ∨
    ∃ h r, Histories.ofJson j = .ok h ∧ Row.ofJson j = .ok r ∧
      ∀ (host : Host) (pool : Nat → Instance) (turns : List Turn),
        (∀ id, (host.registry id).SeesOnly .whole) →
        let (id, sharing) := host.addFact (.memory h)
        let memory := run turns ⟨host, pool, .own (.memory h)⟩
        let shared := run turns ⟨sharing, pool, .shared id⟩
        let row := run turns ⟨host, pool, .own (.row r)⟩
        (shared.1 = memory.1 ∧ row.1 = memory.1) ∧ ∀ field,
          (shared.2.fact.read field = memory.2.fact.read field ∧
            shared.2.fact.holds field = memory.2.fact.holds field) ∧
          (row.2.fact.read field = memory.2.fact.read field ∧
            row.2.fact.holds field = memory.2.fact.holds field) := by
  refine (Row.ofJson_agrees map).imp_right ?_
  rintro ⟨h, r, isFact, isRow, same⟩
  refine ⟨h, r, isFact, isRow, fun host pool turns sees => ?_⟩
  have shared : Alike ⟨host, pool, .own (.memory h)⟩
      ⟨(host.addFact (.memory h)).2, pool, .shared (host.addFact (.memory h)).1⟩ := by
    refine ⟨rfl, ⟨_, rfl⟩, ?_, ⟨trivial, ?_⟩, sees⟩
    · show Fact.AgreeOn _ _ (((host.facts ++ [Fact.memory h])[host.facts.length]?).getD .empty)
      rw [List.getElem?_concat_length]
      exact .refl _
    · show host.facts.length < (host.facts ++ [Fact.memory h]).length
      rw [List.length_append]
      exact Nat.lt_succ_self _
  have row : Alike ⟨host, pool, .own (.memory h)⟩ ⟨host, pool, .own (.row r)⟩ :=
    ⟨rfl, ⟨_, rfl⟩, ⟨fun {name} _ => same name, rfl⟩, ⟨trivial, trivial⟩, sees⟩
  obtain ⟨sharedAnswers, sharedAfter⟩ := run_alike turns shared
  obtain ⟨rowAnswers, rowAfter⟩ := run_alike turns row
  exact ⟨⟨sharedAnswers, rowAnswers⟩, fun field => ⟨sharedAfter.reads field, rowAfter.reads field⟩⟩

/-- A fact with one scalar, from an array with nothing beside it: `(as k 2)` makes it two, which
`(many k)` then finds, however the fact is held. -/
theorem run_interchangeable_many :
    let j : Json :=
      .object [("k", .array [.integer 1, .null]), ("n", .null), ("z", .array [])]
    let host : Host := {}
    let pool : Nat → Instance := fun index =>
      if index = 0 then ⟨.mk (.builtin .assign) [.field "k", .literal (.integer 2)], .blank⟩
      else ⟨.mk (.builtin .many) [.field "k"], .blank⟩
    let turns : List Turn := [⟨⟨Host.common, {}⟩, [], 0⟩, ⟨⟨Host.common, {}⟩, [], 1⟩]
    j.IsMap ∧ (∀ id, (host.registry id).SeesOnly .whole) ∧
    ∃ h r, Histories.ofJson j = .ok h ∧ Row.ofJson j = .ok r ∧
      let (id, sharing) := host.addFact (.memory h)
      let memory := run turns ⟨host, pool, .own (.memory h)⟩
      let shared := run turns ⟨sharing, pool, .shared id⟩
      let row := run turns ⟨host, pool, .own (.row r)⟩
      memory.1 = [.ok (.boolean true), .ok (.boolean true)] ∧
      (shared.1 = memory.1 ∧ row.1 = memory.1) ∧ ∀ field,
        (shared.2.fact.read field = memory.2.fact.read field ∧
          shared.2.fact.holds field = memory.2.fact.holds field) ∧
        (row.2.fact.read field = memory.2.fact.read field ∧
          row.2.fact.holds field = memory.2.fact.holds field) := by
  intro j host pool turns
  have map : j.IsMap := by
    show ["k", "n", "z"].Nodup
    decide
  have sees (id : Nat) : (host.registry id).SeesOnly .whole := by
    match id with
    | 0 => exact fun d member => absurd member List.not_mem_nil
    | _ + 1 => exact fun d member => absurd member List.not_mem_nil
  rcases run_interchangeable map with ⟨e, isFact, -⟩ | ⟨h, r, isFact, isRow, same⟩
  · cases isFact
  · refine ⟨map, sees, h, r, isFact, isRow, ?_, same host pool turns sees⟩
    cases isFact
    rfl

end Client

end FactScan
