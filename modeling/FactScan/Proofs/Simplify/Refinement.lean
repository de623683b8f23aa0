/-
# FactScan.Proofs.Simplify.Refinement — instances that can stand for others

`Refines settings i j` says that `j` can be evaluated in the place of `i`: the two have the
same shape and operands that refine one another, down to the expansions they keep, or `j`
lacks operands of a junction that never decide, or `j` is the constant that `i` is worth.
It is made to be closed under what an evaluation does to instances: forgetting
(`Refines.fresh`), and filling in the operands of a body (`Refines.instantiate`).
-/
import FactScan.Engine.Simplify
import FactScan.Proofs.Simplify.Agreement
import FactScan.Proofs.Terms

namespace FactScan

set_option autoImplicit false

/-- An operand without the term nested in it. -/
def Operand.shape : Operand → Option Operand
  | .nested _ => none
  | o => some o

/-- A block without the expansion in it. -/
def Block.outline : Block → Block ⊕ Nat
  | .expansion generation _ _ => .inr generation
  | b => .inl b

/-- An act that changes nothing but the log, and gives what is said if it succeeds. -/
def Act.Returns {α : Type} (act : Act α) (P : α → Prop) : Prop :=
  ∀ s a s', act s = (.ok a, s') → P a ∧ s.world.Agrees s'.world

/-- A term that is worth a scalar, wherever it can be evaluated at all. -/
def Term.IsWorth (settings : Settings) (t : Term) (a : Scalar) : Prop :=
  ∀ levels site, (evalAt settings levels site t).Returns (· = .scalar a)

/-- What is left of the operands of a junction, position by position; `place` says where a
remaining operand stood.  Neutral constants are dropped, and all after an absorbing one. -/
inductive Thinned (absorbing : Bool) (operands : List Operand) (place : Nat → Nat) :
    List Nat → List Nat → Prop
  | nil : Thinned absorbing operands place [] []
  | keep (k : Nat) {ps ks : List Nat} : Thinned absorbing operands place ps ks →
      Thinned absorbing operands place (place k :: ps) (k :: ks)
  | drop (p : Nat) (a : Scalar) {ps ks : List Nat} :
      operands[p]?.bind Operand.constant? = some a → a.isTruthy ≠ absorbing →
      (∀ k, place k ≠ p) → Thinned absorbing operands place ps ks →
      Thinned absorbing operands place (p :: ps) ks
  | stop (k : Nat) (a : Scalar) (ps : List Nat) :
      operands[place k]?.bind Operand.constant? = some a → a.isTruthy = absorbing →
      Thinned absorbing operands place (place k :: ps) [k]

/-- `and` and `or`, by the value that absorbs them. -/
def Builtin.junction (absorbing : Bool) : Builtin := if absorbing then .or else .and

/-- An instance that can be evaluated in the place of another. -/
inductive Refines (settings : Settings) : Instance → Instance → Prop
  | refl (i : Instance) : Refines settings i i
  | trans {i j k : Instance} : Refines settings i j → Refines settings j k →
      Refines settings i k
  | alike {op : Operator} {os os' : List Operand} {m m' : Memory} :
      op ≠ .builtin .define → os.map Operand.shape = os'.map Operand.shape →
      (∀ p t t', os[p]?.bind Operand.carried? = some t →
        os'[p]?.bind Operand.carried? = some t' →
        Refines settings ⟨t, m.child p⟩ ⟨t', m'.child p⟩) →
      m.block.map Block.outline = m'.block.map Block.outline →
      (∀ g t u g' t' u', m.block = some (.expansion g t u) →
        m'.block = some (.expansion g' t' u') → Refines settings ⟨t, u⟩ ⟨t', u'⟩) →
      Refines settings ⟨.mk op os, m⟩ ⟨.mk op os', m'⟩
  | thinned {absorbing : Bool} {place : Nat → Nat} {os os' : List Operand} {m m' : Memory} :
      place.Injective → os' ≠ [] →
      Thinned absorbing os place (List.range os.length) (List.range os'.length) →
      (∀ k, k < os'.length → os'[k]? = os[place k]?) →
      (∀ k t t', os[place k]?.bind Operand.carried? = some t →
        os'[k]?.bind Operand.carried? = some t' →
        Refines settings ⟨t, m.child (place k)⟩ ⟨t', m'.child k⟩) →
      Refines settings ⟨.mk (.builtin (.junction absorbing)) os, m⟩
        ⟨.mk (.builtin (.junction absorbing)) os', m'⟩
  | constant {t : Term} {a : Scalar} {m m' : Memory} : t.IsWorth settings a →
      Refines settings ⟨t, m⟩ ⟨.constantOf a, m'⟩

/-! ## Operands of one shape -/

theorem Operand.shape_eq {os os' : List Operand} (same : os.map shape = os'.map shape) (p : Nat) :
    os[p]?.map shape = os'[p]?.map shape := by
  rw [← List.getElem?_map, ← List.getElem?_map, same]

/-- Operands of one shape: two nested terms, or one operand twice. -/
theorem Operand.shape_cases {o o' : Operand} (same : o.shape = o'.shape) :
    (∃ t t', o = .nested t ∧ o' = .nested t') ∨ o = o' := by
  cases o <;> cases o' <;> simp_all [Operand.shape]

namespace Refines

variable {settings : Settings}

/-- The operands of one instance refine those of another, with the memories they are given;
`place` says where an operand of the second stands in the first. -/
def Operands (settings : Settings) (place : Nat → Nat) (os os' : List Operand)
    (ms ms' : Nat → Memory) : Prop :=
  ∀ k t t', os[place k]?.bind Operand.carried? = some t →
    os'[k]?.bind Operand.carried? = some t' →
    Refines settings ⟨t, ms (place k)⟩ ⟨t', ms' k⟩

/-- The blocks of two instances: the same, or expansions of one definition that refine one
another. -/
structure Blocks (settings : Settings) (b b' : Option Block) : Prop where
  outline : b.map Block.outline = b'.map Block.outline
  held : ∀ g t u g' t' u', b = some (.expansion g t u) → b' = some (.expansion g' t' u') →
    Refines settings ⟨t, u⟩ ⟨t', u'⟩

/-- Instances that were not evaluated yet. -/
theorem unevaluated {op : Operator} {os os' : List Operand} {m m' : Memory}
    (other : op ≠ .builtin .define) (same : os.map Operand.shape = os'.map Operand.shape)
    (operands : Operands settings id os os' m.child m'.child) (none_ : m.block = none)
    (none_' : m'.block = none) : Refines settings ⟨.mk op os, m⟩ ⟨.mk op os', m'⟩ := by
  refine .alike other same operands (by rw [none_, none_']) ?_
  intro g t u g' t' u' some_
  rw [none_] at some_
  cases some_

/-- The memory that a copy of an operand gets: a new one for a nested term, the old one for
a term carried as data. -/
theorem freshOperand {o o' : Operand} (same : o.shape = o'.shape) {t t' : Term}
    (at_ : o.carried? = some t) (at_' : o'.carried? = some t') {m m' : Memory}
    (kept : Refines settings ⟨t, m⟩ ⟨t', m'⟩)
    (copied : Refines settings (Instance.fresh ⟨t, m⟩) (Instance.fresh ⟨t', m'⟩)) :
    Refines settings ⟨t, o.freshMemory m⟩ ⟨t', o'.freshMemory m'⟩ := by
  rcases Operand.shape_cases same with ⟨u, u', rfl, rfl⟩ | rfl
  · cases at_
    cases at_'
    exact copied
  · rcases Operand.carried?_cases at_ with rfl | rfl
    · cases at_'
      exact copied
    · cases at_'
      exact kept

/-- **Copies that start over** refine one another when the originals do. -/
theorem fresh {i j : Instance} (refines : Refines settings i j) :
    Refines settings i.fresh j.fresh := by
  induction refines with
  | refl i => exact .refl _
  | trans _ _ first second => exact .trans first second
  | constant worth => exact .constant worth
  | @alike op os os' m m' other same operands _ _ copied _ =>
      refine unevaluated other same ?_ rfl rfl
      intro p t t' at_ at_'
      rw [id_eq] at at_ ⊢
      have shape := Operand.shape_eq same p
      obtain ⟨o, h, carried⟩ := Option.bind_eq_some_iff.1 at_
      obtain ⟨o', h', carried'⟩ := Option.bind_eq_some_iff.1 at_'
      rw [h, h'] at shape
      rw [Term.child_freshMemory, Term.child_freshMemory, h, h']
      exact freshOperand (Option.some.inj shape) carried carried' (operands p t t' at_ at_')
        (copied p t t' at_ at_')
  | @thinned absorbing place os os' m m' injective some_ thin kept operands copied =>
      refine .thinned injective some_ thin kept ?_
      intro k t t' at_ at_'
      obtain ⟨o, h, carried⟩ := Option.bind_eq_some_iff.1 at_
      obtain ⟨o', h', carried'⟩ := Option.bind_eq_some_iff.1 at_'
      have same := kept k (List.getElem?_eq_some_iff.1 h').1
      obtain rfl : o' = o := Option.some.inj (h'.symm.trans (same.trans h))
      rw [Term.child_freshMemory, Term.child_freshMemory, h, h']
      exact freshOperand rfl carried carried' (operands k t t' at_ at_') (copied k t t' at_ at_')

section

variable {args args' : List Operand} {given given' : List Memory}

/-- What stands for a placeholder. -/
theorem instantiate_placeholder (same : args.map Operand.shape = args'.map Operand.shape)
    (operands : Operands settings id args args' (given.getD · .blank) (given'.getD · .blank))
    (n : UInt64) (m : Memory) :
    let o := Operand.placeholder n
    (o.instantiate args).shape = (o.instantiate args').shape ∧
      ∀ t t', (o.instantiate args).carried? = some t → (o.instantiate args').carried? = some t' →
        Refines settings ⟨t, o.instantiateMemory args given m⟩
          ⟨t', o.instantiateMemory args' given' m⟩ := by
  have shape := Operand.shape_eq same n.toNat
  have below := operands n.toNat
  rw [id_eq] at below
  simp only [Operand.instantiate, Operand.instantiateMemory]
  cases h : args[n.toNat]? with
  | none =>
      rw [h, Option.map_none, eq_comm, Option.map_eq_none_iff] at shape
      rw [shape]
      refine ⟨rfl, ?_⟩
      rintro t t' ⟨⟩
  | some o =>
      cases h' : args'[n.toNat]? with
      | none =>
          rw [h, h'] at shape
          cases shape
      | some o' =>
          rw [h, h'] at shape below
          have shape := Option.some.inj shape
          refine ⟨shape, ?_⟩
          intro t t' carried carried'
          have kept := below t t' carried carried'
          exact freshOperand shape carried carried' kept kept.fresh

/-- **A body filled in** with operands that refine one another, if it defines nothing. -/
theorem instantiate (same : args.map Operand.shape = args'.map Operand.shape)
    (operands : Operands settings id args args' (given.getD · .blank) (given'.getD · .blank))
    {body : Term} (tame : ∀ t ∈ body.walk, t.operator ≠ .builtin .define) (m : Memory) :
    Refines settings ⟨body.instantiate args, body.instantiateMemory args given m⟩
      ⟨body.instantiate args', body.instantiateMemory args' given' m⟩ := by
  induction body using Term.nested_induction generalizing m with
  | step op os ih =>
      have other : op ≠ .builtin .define := tame _ (Term.self_mem_walk _)
      have below : ∀ t, .nested t ∈ os → ∀ u ∈ t.walk, u.operator ≠ .builtin .define :=
        fun t member u inside => tame u (Term.mem_walk.2 (.inr ⟨t, member, inside⟩))
      rw [Term.instantiate, Term.instantiate, Operand.listInstantiate_eq_map,
        Operand.listInstantiate_eq_map]
      refine unevaluated other ?_ ?_ rfl rfl
      · rw [List.map_map, List.map_map]
        refine List.map_congr_left fun o _ => ?_
        cases o with
        | placeholder n => exact (instantiate_placeholder same operands n .blank).1
        | _ => rfl
      · intro p t t' at_ at_'
        rw [id_eq] at at_ ⊢
        rw [Term.child_instantiateMemory, Term.child_instantiateMemory]
        cases h : os[p]? with
        | none => simp [h] at at_
        | some o =>
            have member := List.mem_of_getElem? h
            simp only [List.getElem?_map, h, Option.map_some, Option.bind_some] at at_ at_'
            simp only [Option.map_some, Option.getD_some]
            cases o with
            | placeholder n =>
                exact (instantiate_placeholder same operands n (m.child p)).2 t t' at_ at_'
            | nested u =>
                cases at_
                cases at_'
                exact ih u member (below u member) (m.child p)
            | field name => cases at_
            | literal a =>
                -- A term carried by the body is the same on both sides.
                cases a with
                | term u =>
                    cases at_
                    cases at_'
                    exact .refl _
                | _ => cases at_

end

end Refines

end FactScan
