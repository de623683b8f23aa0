/-
# FactScan.Proofs.Facts.Unnamed — fields that nobody names do not matter

Nothing but fields that stand in the evaluated term, in what it remembers or in the body of a
definition can make a difference to an evaluation, or be changed by it, where no function of a
host can look further.

* `Instance.evaluate_unnamed`: evaluations against facts and over rows that agree on those
  fields have one outcome, and leave all other fields alone;
* `Instance.evaluate_readOnly_differs`: agreement on values is not enough if only one of the
  facts takes appends.
-/
import FactScan.Proofs.DepthLimit
import FactScan.Proofs.Facts.Sight

namespace FactScan

set_option autoImplicit false

/-- Rows are alike that agree on the fields. -/
def Sight.ofFields (S : String → Prop) : Sight where
  field := S
  row := Row.AgreeOn S
  agree := id

theorem Registry.IsNativeFree.seesOnly {r : Registry} (free : r.IsNativeFree) (S : Sight) :
    r.SeesOnly S := by
  intro d member run is
  obtain ⟨body, isBody⟩ := free d member
  rw [isBody] at is
  cases is

/-- All fields but the named ones read the same at two moments. -/
theorem World.sameUnnamed_lasting (V : Vocabulary) {operators : Builtin → Prop} :
    Lasting (fun w w' => ∀ name, ¬ V.field name → w'.fact.read name = w.fact.read name)
      V.appends operators where
  refl _ _ _ := rfl
  trans first second name unnamed := (second name unnamed).trans (first name unnamed)
  note _ _ _ _ _ := rfl
  append {_ field _ _} named appended name unnamed := by
    have other : name ≠ field := fun same => unnamed (same ▸ named.2)
    rw [Fact.read_append appended, if_neg other]
  define _ made name _ := by rw [fact_of_define made]
  undefine _ done name _ := by rw [fact_of_undefine done]
  against _ _ _ := rfl

/-- **Fields that nobody names do not matter.**  Let the fields that an instance and all
definitions name be among certain ones, and none of the definitions be a function of the host.
Then against facts that agree on these fields and over rows that do, the instance comes to the
same value or error, remembers the same, and leaves the same world but for the facts, which
agree again; and every other field has the value it had. -/
theorem Instance.evaluate_unnamed (settings : Settings) {S : String → Prop} {i : Instance}
    {w : World} {x' : Fact} {rows rows' : List Row} (uses : i.UsesOnly { field := S })
    (bodies : w.registry.UsesOnly { field := S }) (free : w.registry.IsNativeFree)
    (facts : w.fact.AgreeOn S x') (alike : List.Forall₂ (Row.AgreeOn S) rows rows') :
    let first := i.evaluate settings rows w
    let second := i.evaluate settings rows' { w with fact := x' }
    first.1 = second.1 ∧ first.2.1 = second.2.1 ∧
      { first.2.2 with fact := second.2.2.fact } = second.2.2 ∧
      first.2.2.fact.AgreeOn S second.2.2.fact ∧
      ∀ name, ¬ S name → first.2.2.fact.read name = w.fact.read name ∧
        second.2.2.fact.read name = x'.read name := by
  intro first second
  obtain ⟨result, instance_, -, world, agree⟩ :=
    i.evaluate_alike settings (S := .ofFields S) uses bodies (free.seesOnly _) facts alike
  have unnamed (rows : List Row) (x : Fact) := (evalAt_within
    (World.sameUnnamed_lasting { field := S }) (fun _ => trivial) settings (settings.maxDepth + 1)
    ⟨rows, 0⟩ i.term uses.term ⟨i.memory, w.facing x⟩ ⟨uses.memory, bodies⟩).2
  exact ⟨result, instance_, world.symm, agree, fun name other =>
    ⟨unnamed rows w.fact name other, unnamed rows' x' name other⟩⟩

/-- `(as k (first k))` names `k` alone: against a fact in memory and a row that hold the same
there, over rows that do. -/
theorem Instance.evaluate_unnamed_first :
    let i : Instance := ⟨.mk (.builtin .assign)
      [.field "k", .nested (.mk (.builtin .first) [.field "k"])], .blank⟩
    let zero : Scalar := .integer 0
    let one : Scalar := .integer 1
    let w : World := { fact := .memory [("k", [zero]), ("z", [one])] }
    let rows : List Row := [[("k", .scalar one), ("z", .scalar zero)]]
    let first := i.evaluate {} rows w
    let second := i.evaluate {} [[("k", .scalar one)]] { w with fact := .row [("k", .scalar zero)] }
    first.1 = .ok (.boolean true) ∧ (first.2.2.fact.read "k").items = [zero, one] ∧
    first.1 = second.1 ∧ first.2.1 = second.2.1 ∧
      { first.2.2 with fact := second.2.2.fact } = second.2.2 ∧
      first.2.2.fact.AgreeOn (· = "k") second.2.2.fact ∧
      ∀ name, name ≠ "k" → first.2.2.fact.read name = w.fact.read name ∧
        second.2.2.fact.read name = .nil := by
  intro i zero one w rows first second
  have uses : i.UsesOnly { field := (· = "k") } := by
    refine ⟨?_, Memory.usesOnly_blank _⟩
    intro u inside
    simp only [i, Term.walkAll, Operand.listWalkAll, Operand.walkAll, List.append_nil,
      List.nil_append, List.mem_cons, List.not_mem_nil, or_false] at inside
    rcases inside with rfl | rfl <;>
      exact ⟨trivial, fun name member => by simpa [Term.operands] using member⟩
  have facts : w.fact.AgreeOn (· = "k") (.row [("k", .scalar zero)]) := by
    refine ⟨fun named => ?_, rfl⟩
    subst named
    rfl
  have alike : List.Forall₂ (Row.AgreeOn (· = "k")) rows [[("k", .scalar one)]] := by
    refine .cons (fun name named => ?_) .nil
    subst named
    rfl
  obtain ⟨result, memory, world, agree, unnamed⟩ :=
    Instance.evaluate_unnamed {} uses (fun d member => absurd member List.not_mem_nil)
      (fun d member => absurd member List.not_mem_nil) facts alike
  refine ⟨rfl, rfl, result, memory, world, agree, fun name other => ?_⟩
  obtain ⟨first, second⟩ := unnamed name other
  refine ⟨first, second.trans ?_⟩
  show ((Fields.get? name [("k", Value.scalar zero)]).getD .nil) = .nil
  rw [Fields.get?, if_neg (Ne.symm other)]
  rfl

/-- Two facts of which every field reads the same, and yet `(as k 1)` succeeds with one and
fails with the other, for that one is only for reading. -/
theorem Instance.evaluate_readOnly_differs :
    let i : Instance := ⟨.mk (.builtin .assign) [.field "k", .literal (.integer 1)], .blank⟩
    (∀ name, (Fact.memory []).read name = Fact.empty.read name) ∧
    (i.evaluate {} [] { fact := .memory [] }).1 = .ok (.boolean true) ∧
    (i.evaluate {} [] { fact := .empty }).1 =
      .error (.evaluation "(as k 1)" ⟨0, "as", 0⟩ (.readOnlyFact "k")) :=
  ⟨fun _ => rfl, rfl, rfl⟩

end FactScan
