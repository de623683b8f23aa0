/-
# FactScan.Proofs.Simplify.Hosting — simplification where not everything is hosted

The rules put `(const x)` in the place of terms, and none of them asks whether `const` is
hosted.  Where it is, simplification brings in no other operator
(`Term.Throughout.simplifyAt`), and a simplified term can be evaluated wherever the original
can (`Instance.simplify_hosted`).  Where it is not, an engine that hosts logic alone evaluates
`(not true)`, but not what it simplifies that to (`Instance.simplify_unhosted`).

Two more ways to lose an operator have nothing to do with what is hosted, and are why
evaluation is spoken of under further conditions: an operand that is dropped may have defined
the operator, as a term carried as data (`Instance.simplify_drops_data`) or in the body of a
definition that holds a `defn` (`Instance.simplify_drops_definition`).
-/
import FactScan.Proofs.Simplify.Rules

namespace FactScan

set_option autoImplicit false

/-- The built-in operators of a term and all terms inside it, nested or carried as data. -/
def Term.builtins (t : Term) : List Builtin := t.walkAll.filterMap (·.operator.builtin?)

theorem Term.mem_builtins {b : Builtin} {t : Term} :
    b ∈ t.builtins ↔ ∃ u ∈ t.walkAll, u.operator = .builtin b := by
  rw [Term.builtins, List.mem_filterMap]
  refine exists_congr fun u => and_congr_right fun _ => ?_
  cases u.operator <;> simp [Operator.builtin?]

/-- What a hook puts in the place of a term uses built-in operators of that term, or hosted
ones. -/
def Registry.HooksHosted (r : Registry) : Prop :=
  ∀ d ∈ r.custom, ∀ hook, d.hook = some hook → ∀ i j, hook i = some j →
    ∀ b ∈ j.term.builtins, b ∈ i.term.builtins ∨ r.hosts b = true

/-! ## Operators of simplified terms -/

section

variable {settings : Settings} {registry : Registry}

/-- **Simplification brings in no operator but `const`**, and what hooks bring in: what holds
throughout a term, and of `const`, holds throughout its simplified form. -/
theorem Term.Throughout.simplifyAt {P : Operator → Prop} (const : P (.builtin .const))
    (hooks : ∀ d ∈ registry.custom, ∀ hook, d.hook = some hook → ∀ i j, hook i = some j →
      i.term.Throughout P → j.term.Throughout P)
    {t : Term} (all : t.Throughout P) (depth : Nat) (m : Memory) :
    (t.simplifyAt settings registry depth m).term.Throughout P := by
  have compositional : Simplify.Compositional (fun _ t => t.Throughout P) (fun _ op => P op)
      fun _ o => ∀ c, o.carried? = some c → c.Throughout P :=
    { term := Term.throughout_mk
      nested := by simp [Operand.carried?]
      const := fun _ => const
      made := fun {_ a} made c carried => by
        cases a with
        | term _ => cases made
        | _ => cases carried
      raised := id }
  exact compositional.simplifyAt (fun d member hook hooked _ => hooks d member hook hooked) all m

/-- Where `const` is hosted, built-in operators that are not hosted come from the original. -/
theorem Term.builtins_simplifyAt (hosted : registry.hosts .const = true)
    (hooks : registry.HooksHosted) (t : Term) (depth : Nat) (m : Memory) :
    ∀ b ∈ (t.simplifyAt settings registry depth m).term.builtins,
      b ∈ t.builtins ∨ registry.hosts b = true := by
  let allowed (op : Operator) : Prop :=
    ∀ b, op = .builtin b → b ∈ t.builtins ∨ registry.hosts b = true
  have all : t.Throughout allowed :=
    fun u inside b isBuiltin => .inl (Term.mem_builtins.2 ⟨u, inside, isBuiltin⟩)
  have simplified : (t.simplifyAt settings registry depth m).term.Throughout allowed := by
    refine all.simplifyAt ?_ ?_ depth m
    · rintro b ⟨⟩
      exact .inr hosted
    · intro d member hook hooked i j gives all u inside b isBuiltin
      rcases hooks d member hook hooked i j gives b
        (Term.mem_builtins.2 ⟨u, inside, isBuiltin⟩) with used | hosts
      · obtain ⟨u', inside', isBuiltin'⟩ := Term.mem_builtins.1 used
        exact all u' inside' b isBuiltin'
      · exact .inr hosts
  intro b used
  obtain ⟨u, inside, isBuiltin⟩ := Term.mem_builtins.1 used
  exact simplified u inside b isBuiltin

end

/-! ## Evaluation of simplified terms -/

/-- **Simplification needs no family that is not hosted, once `const` is.**  Take an engine
that hosts `const`, and besides any built-in operators, in whatever families.

Every built-in operator of a simplified term occurs in the original or is hosted, if that goes
for what hooks put in.  And if the original has a value, on any fact and rows, then the
simplified term has it, too, and does not fail for want of an operator.  This is for engines
without hooks in which no body of a definition holds a `defn`, also not of those made on the
way, and for terms that carry nothing as data that could do more than give a value. -/
theorem Instance.simplify_hosted (settings : Settings) (rows : List Row) (i : Instance)
    (w : World) (hosted : w.registry.hosts .const = true) :
    let simplified := i.simplify settings w.registry
    (w.registry.HooksHosted → ∀ b ∈ simplified.term.builtins,
      b ∈ i.term.builtins ∨ w.registry.hosts b = true) ∧
    ((∀ d ∈ w.registry.custom, d.hook = none) → (∀ d ∈ w.registry.custom, d.IsTame) →
      (Operand.nested i.term).CarriesInert →
      ∀ v, (i.fresh.evaluate settings rows w).1 = .ok v →
        (∀ d, Record.defined d ∈ (i.fresh.evaluate settings rows w).2.2.log → d.IsTame) →
        (simplified.evaluate settings rows w).1 = .ok v) := by
  intro simplified
  refine ⟨fun hooks => Term.builtins_simplifyAt hosted hooks i.term 0 i.memory, ?_⟩
  intro hookless tame carries v ran registered
  have refines : Refines settings i.fresh simplified :=
    Term.simplifyAt_inertly hookless i.term carries 0 i.memory
  obtain ⟨s, step, world⟩ := Instance.evaluate_ok ran
  rw [world] at registered
  obtain ⟨s', step', -, -⟩ := Refines.standsIn settings (settings.maxDepth + 1) _ _ refines
    ⟨rows, 0⟩ w w v s (.refl w) ⟨hosted, tame⟩ step (World.tame_of_log registered)
  rw [Instance.evaluate, FactScan.evaluate, step']

/-- An engine without comparisons: `(and (unique 7) (either (not true) (lt 2 1)))` does not
reach the comparison, and becomes `(and (unique 7) (const false))`. -/
theorem Instance.simplify_hosted_partly :
    let registry : Registry := (({} : Registry).install .core).install .logical
    let negation : Term := .mk (.builtin .not) [.literal (.boolean true)]
    let comparison : Term := .mk (.builtin (.compare .lt)) [.literal (.integer 2),
      .literal (.integer 1)]
    let i : Instance := ⟨.mk (.builtin .and)
      [.nested (.mk (.builtin .unique) [.literal (.integer 7)]),
        .nested (.mk (.builtin .either) [.nested negation, .nested comparison])], .blank⟩
    let w : World := { registry }
    let simplified := i.simplify {} registry
    registry.hosts .const = true ∧ registry.hosts (.compare .lt) = false ∧
    simplified.term = .mk (.builtin .and)
      [.nested (.mk (.builtin .unique) [.literal (.integer 7)]),
        .nested (.constantOf (.boolean false))] ∧
    (∀ b ∈ simplified.term.builtins, b ∈ i.term.builtins ∨ registry.hosts b = true) ∧
    (i.fresh.evaluate {} [] w).1 = .ok (.boolean false) ∧
    (simplified.evaluate {} [] w).1 = .ok (.boolean false) := by
  intro registry negation comparison i w simplified
  obtain ⟨builtins, value⟩ := Instance.simplify_hosted {} [] i w rfl
  have plain : i.term.IsPlain := by
    intro u inside c member
    simp only [i, negation, comparison, Term.walk, Operand.walk, Operand.listWalk,
      List.append_nil, List.nil_append, List.cons_append, List.mem_cons, List.not_mem_nil,
      or_false] at inside
    rcases inside with rfl | rfl | rfl | rfl | rfl <;> simp [Term.operands] at member
  have quiet : (i.fresh.evaluate {} [] w).2.2.log.all (·.definition?.isNone) = true := rfl
  have none_ : ∀ d, d ∉ registry.custom := fun d => List.not_mem_nil
  refine ⟨rfl, rfl, rfl, builtins fun d member => absurd member (none_ d), rfl, ?_⟩
  refine value (fun d member => absurd member (none_ d)) (fun d member => absurd member (none_ d))
    (Operand.carriesInert_of_isPlain (o := .nested i.term) plain) _ rfl fun d member => ?_
  cases List.all_eq_true.1 quiet _ member

/-- An engine that hosts logic alone evaluates `(not true)`, but not the `(const false)` that
simplification makes of it. -/
theorem Instance.simplify_unhosted :
    let registry : Registry := ({} : Registry).install .logical
    let i : Instance := ⟨.mk (.builtin .not) [.literal (.boolean true)], .blank⟩
    let w : World := { registry }
    let simplified := i.simplify {} registry
    (i.evaluate {} [] w).1 = .ok (.boolean false) ∧
    simplified.term = .constantOf (.boolean false) ∧ .const ∈ simplified.term.builtins ∧
    .const ∉ i.term.builtins ∧ registry.hosts .const = false ∧
    (simplified.evaluate {} [] w).1 = .error (.unknownOperator "const" "(const false)") := by
  intro registry i w simplified
  exact ⟨rfl, rfl, by decide, by decide, rfl, rfl⟩

/-- What an evaluation failed for, if it did. -/
def rootCause? : Except EvalError Value → Option EvalError
  | .ok _ => none
  | .error e => some e.rootCause

/-- `(and (or (agg (exists k) (defn foo (count))) true) (foo))`, where `agg` carries the
definition as data: the disjunction, taken for pure, is dropped, and `foo` with it. -/
theorem Instance.simplify_drops_data :
    let definition : Term := .mk (.builtin .define) [.field "foo",
      .nested (.mk (.builtin .count) [])]
    let aggregate : Term := .mk (.builtin .aggregate)
      [.nested (.mk (.builtin .present) [.field "k"]), .literal (.term definition)]
    let i : Instance := ⟨.mk (.builtin .and)
      [.nested (.mk (.builtin .or) [.nested aggregate, .literal (.boolean true)]),
        .nested (.mk (.custom "foo") [])], .blank⟩
    let simplified := i.simplify {} .standard
    (i.evaluate {} [] {}).1.toOption.map Value.isTruthy = some true ∧
    rootCause? (simplified.evaluate {} [] {}).1 = some (.unknownOperator "foo" "(foo)") := by
  intro definition aggregate i simplified
  exact ⟨by decide +kernel, by decide +kernel⟩

/-- With `make` for `(defn foo $0)`, the body that `(make (and (or (size $0) true) $1))` defines
is simplified before it is one, and drops its first operand.  So `(foo (defn bar (count)) true)`
defines `bar` no more. -/
theorem Instance.simplify_drops_definition :
    let make : Definition := .ofTerm "make"
      ⟨.mk (.builtin .define) [.field "foo", .placeholder 0], .blank⟩
    let w : World := { registry := { Registry.standard with custom := [make] } }
    let body : Term := .mk (.builtin .and)
      [.nested (.mk (.builtin .or) [.nested (.mk (.builtin .size) [.placeholder 0]),
        .literal (.boolean true)]), .placeholder 1]
    let definition : Term := .mk (.builtin .define) [.field "bar",
      .nested (.mk (.builtin .count) [])]
    let i : Instance := ⟨.mk (.builtin .and) [.nested (.mk (.custom "make") [.nested body]),
      .nested (.mk (.custom "foo") [.nested definition, .literal (.boolean true)]),
      .nested (.mk (.custom "bar") [])], .blank⟩
    let simplified := i.simplify {} w.registry
    (i.evaluate {} [] w).1.toOption.map Value.isTruthy = some true ∧
    rootCause? (simplified.evaluate {} [] w).1 = some (.unknownOperator "bar" "(bar)") := by
  intro make w body definition i simplified
  exact ⟨by decide +kernel, by decide +kernel⟩

end FactScan
