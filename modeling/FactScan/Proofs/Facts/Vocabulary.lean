/-
# FactScan.Proofs.Facts.Vocabulary — what an evaluation can name

The operators and fields that an evaluation names stand in the evaluated term, in the terms
inside it, in the expansions it remembers, or in the bodies of definitions; nothing else
is ever made.  So if all of these keep to a vocabulary (`State.UsesOnly`), they do so after
the evaluation, and what happens to the world in between is limited to what the vocabulary
allows: `evalAt_within`.

This is the counterpart of `evalAt_lasting` for relations that not every append keeps.  One
step is `dispatch_within`.  A vocabulary can also limit the values that `prev` remembers, but
that needs to be known of what operands give, so here it has to allow all of them.
-/
import FactScan.Proofs.Interchange

namespace FactScan

set_option autoImplicit false

/-- Operators and fields that terms may name, and values that `prev` may remember. -/
structure Vocabulary where
  operator : Operator → Prop := fun _ => True
  field : String → Prop := fun _ => True
  remembered : Value → Prop := fun _ => True

/-- Fields to which a term of the vocabulary may append. -/
def Vocabulary.appends (V : Vocabulary) (field : String) : Prop :=
  V.operator (.builtin .assign) ∧ V.field field

/-- Built-in operators that a term of the vocabulary may be of. -/
def Vocabulary.comesTo (V : Vocabulary) (b : Builtin) : Prop := V.operator (.builtin b)

variable {V : Vocabulary}

/-! ## Terms -/

/-- A term and all terms inside it, nested or carried as data, name only operators and fields
of a vocabulary. -/
def Term.UsesOnly (V : Vocabulary) (t : Term) : Prop :=
  ∀ u ∈ t.walkAll, V.operator u.operator ∧ ∀ name, .field name ∈ u.operands → V.field name

namespace Term

theorem usesOnly_mk {op : Operator} {operands : List Operand} :
    (Term.mk op operands).UsesOnly V ↔
      (V.operator op ∧ ∀ name, .field name ∈ operands → V.field name) ∧
        ∀ o ∈ operands, ∀ t, o.carried? = some t → t.UsesOnly V :=
  forall_walkAll_mk

namespace UsesOnly

variable {t c : Term} {p : Nat}

theorem operator (uses : t.UsesOnly V) : V.operator t.operator := by
  cases t
  exact (usesOnly_mk.1 uses).1.1

theorem field (uses : t.UsesOnly V) {name : String} (at_ : t.operand? p = some (.field name)) :
    V.field name := by
  cases t
  exact (usesOnly_mk.1 uses).1.2 name (List.mem_of_getElem? at_)

theorem carried (uses : t.UsesOnly V) (at_ : (t.operand? p).bind Operand.carried? = some c) :
    c.UsesOnly V := by
  obtain ⟨o, found, carried⟩ := Option.bind_eq_some_iff.1 at_
  cases t
  exact (usesOnly_mk.1 uses).2 o (List.mem_of_getElem? found) c carried

/-- A field that stands in a body filled in stood there before, or is an operand given. -/
theorem field_instantiate {caller : Term} (given : caller.UsesOnly V) {operands : List Operand}
    (own : ∀ name, .field name ∈ operands → V.field name) {name : String}
    (member : .field name ∈ operands.map (Operand.instantiate caller.operands)) :
    V.field name := by
  obtain ⟨o, inside, same⟩ := List.mem_map.1 member
  cases o with
  | field n =>
      cases same
      exact own name inside
  | placeholder i =>
      unfold Operand.instantiate at same
      cases found : caller.operands[i.toNat]? with
      | none =>
          rw [found] at same
          cases same
      | some arg =>
          rw [found, Option.getD_some] at same
          exact given.field (found.trans (congrArg some same))
  | nested t => cases same
  | literal s => cases s <;> cases same

/-- A body filled in with the operands of a calling term. -/
theorem instantiate {caller : Term} (given : caller.UsesOnly V) (uses : t.UsesOnly V) :
    (t.instantiate caller.operands).UsesOnly V := by
  induction t using Term.nested_induction with
  | step op operands ih =>
      obtain ⟨⟨named, own⟩, below⟩ := usesOnly_mk.1 uses
      rw [Term.instantiate, Operand.listInstantiate_eq_map]
      refine usesOnly_mk.2 ⟨⟨named, fun name => given.field_instantiate own⟩, ?_⟩
      intro o member c carried
      obtain ⟨o, inside, rfl⟩ := List.mem_map.1 member
      rcases Operand.carried?_instantiate carried with
        ⟨t, rfl, rfl⟩ | rfl | ⟨i, arg, rfl, found, carried⟩
      · exact ih t inside (below _ inside t rfl)
      · exact below _ inside c rfl
      · exact given.carried (p := i.toNat) (Option.bind_eq_some_iff.2 ⟨arg, found, carried⟩)

end UsesOnly

end Term

/-! ## Memories -/

/-- The expansions remembered by a term and the terms inside it name only operators and
fields of a vocabulary, and `prev` remembers only values of it. -/
inductive Memory.UsesOnly (V : Vocabulary) : Term → Memory → Prop
  | intro {t : Term} {m : Memory} :
      (∀ v, m.block = some (.previous v) → V.remembered v) →
      (∀ g e u, m.block = some (.expansion g e u) → e.UsesOnly V) →
      (∀ g e u, m.block = some (.expansion g e u) → UsesOnly V e u) →
      (∀ p c, (t.operand? p).bind Operand.carried? = some c → UsesOnly V c (m.child p)) →
      UsesOnly V t m

namespace Memory

theorem usesOnly_blank (t : Term) : UsesOnly V t .blank := by
  induction t using Term.carried_induction with
  | step op operands ih =>
      refine .intro nofun nofun nofun fun p c carried => ?_
      obtain ⟨o, at_, carried⟩ := Option.bind_eq_some_iff.1 carried
      rw [child_blank]
      exact ih o (List.mem_of_getElem? at_) c carried

namespace UsesOnly

variable {t c : Term} {m k : Memory} {p : Nat}

theorem remembered (uses : UsesOnly V t m) {v : Value} (block : m.block = some (.previous v)) :
    V.remembered v := by
  cases uses with
  | intro previous _ _ _ => exact previous v block

theorem expansion (uses : UsesOnly V t m) {g : Nat} {e : Term} {u : Memory}
    (block : m.block = some (.expansion g e u)) : e.UsesOnly V ∧ UsesOnly V e u := by
  cases uses with
  | intro _ terms memories _ => exact ⟨terms g e u block, memories g e u block⟩

theorem child (uses : UsesOnly V t m) (carried : (t.operand? p).bind Operand.carried? = some c) :
    UsesOnly V c (m.child p) := by
  cases uses with
  | intro _ _ _ children => exact children p c carried

theorem setChild (uses : UsesOnly V t m)
    (carried : (t.operand? p).bind Operand.carried? = some c) (inside : UsesOnly V c k) :
    UsesOnly V t (m.setChild p k) := by
  refine .intro (fun v => uses.remembered) (fun g e u block => (uses.expansion block).1)
    (fun g e u block => (uses.expansion block).2) fun q c' carried' => ?_
  rw [child_setChild]
  split
  · rename_i here
    subst here
    cases carried.symm.trans carried'
    exact inside
  · exact uses.child carried'

/-- A block that is neither the value of `prev` nor an expansion. -/
theorem setBlock (uses : UsesOnly V t m) {b : Block} (noValue : ∀ v, b ≠ .previous v)
    (noExpansion : ∀ g e u, b ≠ .expansion g e u) : UsesOnly V t (m.setBlock (some b)) :=
  .intro (fun v block => absurd (Option.some.inj block) (noValue v))
    (fun g e u block => absurd (Option.some.inj block) (noExpansion g e u))
    (fun g e u block => absurd (Option.some.inj block) (noExpansion g e u))
    fun _ _ carried => uses.child carried

theorem setPrevious (uses : UsesOnly V t m) {v : Value} (known : V.remembered v) :
    UsesOnly V t (m.setBlock (some (.previous v))) :=
  .intro (fun v' block => by cases block; exact known) nofun nofun
    fun _ _ carried => uses.child carried

theorem setExpansion (uses : UsesOnly V t m) {e : Term} {u : Memory} (body : e.UsesOnly V)
    (inside : UsesOnly V e u) (g : Nat) : UsesOnly V t (m.setBlock (some (.expansion g e u))) :=
  .intro nofun (fun g' e' u' block => by cases block; exact body)
    (fun g' e' u' block => by cases block; exact inside) fun _ _ carried => uses.child carried

theorem copying : Copying (fun t m _ => UsesOnly V t m) fun t m _ => UsesOnly V t m where
  vacant block _ children := by
    refine .intro ?_ ?_ ?_ children <;> simp [block]
  nested uses at_ := uses.child (by rw [at_]; rfl)
  data uses at_ := uses.child (by rw [at_]; rfl)

end UsesOnly

end Memory

structure Instance.UsesOnly (V : Vocabulary) (i : Instance) : Prop where
  term : i.term.UsesOnly V
  memory : i.memory.UsesOnly V i.term

namespace Instance.UsesOnly

variable {i caller : Instance}

theorem fresh (uses : i.UsesOnly V) : i.fresh.UsesOnly V :=
  ⟨uses.term, Memory.UsesOnly.copying.fresh i.term i.memory i.memory uses.memory⟩

theorem instantiate (uses : i.UsesOnly V) (given : caller.UsesOnly V) :
    (i.instantiate caller).UsesOnly V :=
  ⟨given.term.instantiate uses.term,
    Memory.UsesOnly.copying.instantiate (l := caller.memory) given.memory i.term i.memory i.memory
      uses.memory⟩

end Instance.UsesOnly

/-! ## Registries and states -/

/-- The bodies of all definitions name only operators and fields of a vocabulary. -/
def Registry.UsesOnly (V : Vocabulary) (r : Registry) : Prop :=
  ∀ d ∈ r.custom, ∀ body, d.body = .expression body → body.UsesOnly V

/-- So do a term's memory and the registry. -/
structure State.UsesOnly (V : Vocabulary) (t : Term) (s : State) : Prop where
  memory : s.memory.UsesOnly V t
  registry : s.world.registry.UsesOnly V

/-! ### Vocabularies of everything -/

section

variable (operator : ∀ op, V.operator op) (field : ∀ name, V.field name)
  (remembered : ∀ v, V.remembered v)
include operator field

theorem Term.usesOnly_of_all (t : Term) : t.UsesOnly V :=
  fun u _ => ⟨operator u.operator, fun name _ => field name⟩

include remembered

theorem Memory.usesOnly_of_all : ∀ (m : Memory) (t : Term), m.UsesOnly V t
  | .mk block children, t => by
      refine .intro (fun v _ => remembered v) (fun _ e _ _ => e.usesOnly_of_all operator field)
        (fun g e u isBlock => ?_) fun p c _ => ?_
      · cases isBlock
        exact usesOnly_of_all u e
      · show UsesOnly V c (children.getD p blank)
        rw [List.getD_eq_getElem?_getD]
        cases at_ : children[p]? with
        | none => exact usesOnly_blank c
        | some k =>
            have member := List.mem_of_getElem? at_
            exact usesOnly_of_all k c

theorem State.usesOnly_of_all (s : State) (t : Term) : s.UsesOnly V t :=
  ⟨s.memory.usesOnly_of_all operator field remembered t, fun _ _ body _ =>
    ⟨body.term.usesOnly_of_all operator field,
      body.memory.usesOnly_of_all operator field remembered body.term⟩⟩

end

theorem Registry.UsesOnly.define {w w' : World} (uses : w.registry.UsesOnly V) {name : String}
    {body : Instance} (inside : body.UsesOnly V)
    (made : w.define (.ofTerm name body) = .ok w') : w'.registry.UsesOnly V := by
  refine World.forall_define uses made fun given is => ?_
  cases is
  exact inside.fresh

theorem Registry.UsesOnly.undefine {w w' : World} (uses : w.registry.UsesOnly V) {name : String}
    {removed : Bool} (done : w.undefine name = .ok (w', removed)) : w'.registry.UsesOnly V :=
  World.forall_undefine uses done

theorem Definition.expansionFor_usesOnly (d : Definition) {body : Instance} {t : Term} {m : Memory}
    (term : t.UsesOnly V) (uses : m.UsesOnly V t) (inside : body.UsesOnly V) :
    (d.expansionFor body t m).UsesOnly V := by
  cases kept : d.isKept m with
  | true =>
      obtain ⟨term, memory⟩ := uses.expansion (d.expansionFor_of_isKept body t kept)
      exact ⟨term, memory⟩
  | false =>
      rw [d.expansionFor_of_not_isKept body t kept]
      exact inside.instantiate ⟨term, uses⟩

/-! ## Acts -/

namespace Act

/-- An act of a term that keeps to the vocabulary and under which, as long as the state does,
a relation between worlds lasts. -/
def KeepsWithin (V : Vocabulary) (I : World → World → Prop) (t : Term) (α : Type)
    (act : Unit → Act α) : Prop :=
  ∀ s : State, s.UsesOnly V t → (act () s).2.UsesOnly V t ∧ I s.world (act () s).2.world

namespace KeepsWithin

variable {I : World → World → Prop} {t : Term} {α : Type}

/-- For an act that is known to keep the relation, only the vocabulary is left to show. -/
theorem of_keeps {act : Unit → Act α} (keeps : Keeps I α act)
    (uses : ∀ s, s.UsesOnly V t → (act () s).2.UsesOnly V t) : KeepsWithin V I t α act :=
  fun s before => ⟨uses s before, keeps s⟩

/-- An act that leaves the state as it is. -/
theorem of_still (T : World.Lasting I V.appends V.comesTo) {act : Unit → Act α}
    (still : ∀ s, (act () s).2 = s) : KeepsWithin V I t α act := by
  intro s before
  rw [still]
  exact ⟨before, T.refl s.world⟩

/-- What is done against another fact. -/
theorem withFact (T : World.Lasting I V.appends V.comesTo) {act : Unit → Act α}
    (keeps : KeepsWithin V I t α act) (fact : World → Fact) :
    KeepsWithin V I t α fun _ s => Act.withFact (fact s.world) (act ()) s := by
  intro s before
  obtain ⟨after, lasted⟩ := keeps { s with world := { s.world with fact := fact s.world } }
    ⟨before.memory, before.registry⟩
  exact ⟨⟨after.memory, after.registry⟩, T.against lasted⟩

theorem closed (T : World.Lasting I V.appends V.comesTo) (t : Term) :
    Closed (KeepsWithin V I t) where
  pure _ := .of_still T fun _ => rfl
  fail _ := .of_still T fun _ => rfl
  bind {_ _ act f} keeps next := by
    intro s before
    obtain ⟨after, lasted⟩ := keeps s before
    dsimp only
    rcases bind_cases (act ()) (f ()) s with ⟨a, s₁, ran, whole⟩ | ⟨e, s₁, ran, whole⟩
    · rw [ran] at after lasted
      rw [whole]
      obtain ⟨after', lasted'⟩ := next a s₁ after
      exact ⟨after', T.trans lasted lasted'⟩
    · rw [ran] at after lasted
      rw [whole]
      exact ⟨after, lasted⟩
  overlay row _ keeps := keeps.withFact T fun w => .overlay row w.fact
  vacant keeps := keeps.withFact T fun _ => .empty

theorem looks (T : World.Lasting I V.appends V.comesTo) (t : Term) (field : String) :
    Looks (KeepsWithin V I t) field where
  read := .of_still T fun _ => rfl
  holds := .of_still T fun _ => rfl

/-- The steps that only some operators take. -/
theorem permitted (T : World.Lasting I V.appends V.comesTo) (term : t.UsesOnly V) (level : Level)
    {b : Builtin} (operator : t.operator = .builtin b)
    (remembered : b = .previous → ∀ v, V.remembered v) :
    b.Permitted (KeepsWithin V I t) level fun _ => t := by
  have inside : V.comesTo b := show V.operator (.builtin b) from operator ▸ term.operator
  have keeps := Keeps.permitted T level t inside fun is field at_ => by
    subst is
    exact ⟨inside, term.field at_⟩
  refine ⟨fun is v => .of_keeps (keeps.exchange is v) fun s uses => ?exchange,
    fun is keys => .of_keeps (keeps.collect is keys) fun s uses => ?collect,
    fun is source => .of_keeps (keeps.pattern is source) fun s uses => ?pattern,
    fun is field named a => .of_keeps (keeps.append is field named a) fun s uses => ?append,
    fun is => .of_keeps (keeps.define is) fun s uses => ?define,
    fun is name => .of_keeps (keeps.undefine is name) fun s uses => ?undefine,
    fun is k n => .of_keeps (keeps.kept is k n) fun s uses => ⟨uses.memory, uses.registry⟩,
    fun is v => .of_keeps (keeps.traced is v) fun s uses => ⟨uses.memory, uses.registry⟩⟩
  case exchange => exact ⟨uses.memory.setPrevious (remembered is v), uses.registry⟩
  case collect => exact ⟨uses.memory.setBlock nofun nofun, uses.registry⟩
  case pattern =>
    rw [Operators.patternOf_eq]
    cases Pattern.ofSource source with
    | ok p => exact ⟨uses.memory.setBlock nofun nofun, uses.registry⟩
    | error e => exact uses
  case append =>
    unfold Act.append
    cases s.world.fact.append? field a with
    | some fact => exact ⟨uses.memory, uses.registry⟩
    | none => exact uses
  case define =>
    rcases Operators.define_cases t with ⟨e, -, run⟩ | ⟨name, body, defines, run⟩
    · rw [run]
      exact uses
    · rw [run]
      split
      · rename_i made
        have carried := defines.carried
        exact ⟨uses.memory,
          uses.registry.define ⟨term.carried carried, uses.memory.child carried⟩ made⟩
      · exact uses
  case undefine =>
    cases done : s.world.undefine name with
    | ok r =>
        rw [Act.undefine_ok done]
        exact ⟨uses.memory, uses.registry.undefine done⟩
    | error e =>
        rw [Act.undefine_error done]
        exact uses

theorem counterparts (T : World.Lasting I V.appends V.comesTo) {evaluate : Evaluator}
    (below : ∀ site c, c.UsesOnly V → KeepsWithin V I c Value fun _ => evaluate site c)
    (term : t.UsesOnly V) (depth : Nat) :
    Counterparts (KeepsWithin V I t) (fun _ => evaluate) (fun _ => depth) fun _ => t := by
  refine .ofTerm (fun p c carried rows s before => ?_) (fun _ name _ => looks T t name)
    (fun _ => .of_still T fun _ => rfl) fun _ _ => .of_still T fun _ => rfl
  obtain ⟨after, lasted⟩ := below ⟨rows, depth + 1⟩ c (term.carried carried)
    { s with memory := s.memory.child p } ⟨before.memory.child carried, before.registry⟩
  exact ⟨⟨before.memory.setChild carried after.memory, after.registry⟩, lasted⟩

end KeepsWithin

end Act

/-! ## Evaluations -/

section

variable {I : World → World → Prop} (T : World.Lasting I V.appends V.comesTo) {evaluate : Evaluator}
  (below : ∀ site c, c.UsesOnly V → Act.KeepsWithin V I c Value fun _ => evaluate site c)
  {t : Term} (term : t.UsesOnly V)
include T below term

theorem Definition.run_within {d : Definition}
    (inside : ∀ body, d.body = .expression body → body.UsesOnly V) (site : Site) :
    Act.KeepsWithin V I t Value fun _ => d.run evaluate site t := by
  have L := Act.KeepsWithin.closed T t
  cases admitted : d.arity.admits t.arity with
  | false =>
      refine .of_still T fun s => ?_
      show (d.run evaluate site t s).2 = s
      rw [run_refused admitted]
  | true =>
      cases isBody : d.body with
      | expression body =>
          intro s before
          have ⟨term', memory⟩ := d.expansionFor_usesOnly term before.memory (inside body isBody)
          have entered : State.UsesOnly V (d.expansionFor body t s.memory).term
              ⟨(d.expansionFor body t s.memory).memory, d.worldFor t s.memory s.world⟩ :=
            ⟨memory, by rw [d.registry_worldFor]; exact before.registry⟩
          obtain ⟨after, lasted⟩ := below site.deeper _ term' _ entered
          have noted : I s.world (d.worldFor t s.memory s.world) := d.worldFor_lasting T t _ _
          dsimp only
          rw [run_expression isBody admitted]
          exact ⟨⟨before.memory.setExpansion term' after.memory d.generation, after.registry⟩,
            T.trans noted lasted⟩
      | native run =>
          rw [run_native isBody admitted]
          have C := Act.KeepsWithin.counterparts T below term site.depth
          refine L.bind (resolveAll_closed L.toComposes C t.positions) fun args =>
            .of_still T fun s => ?_
          show (Act.ofExcept (run args s.world.fact site.rows) s).2 = s
          cases run args s.world.fact site.rows <;> rfl

/-- **One step keeps to the vocabulary**, and the relation lasts, if the evaluations below do
so. -/
theorem dispatch_within (remembered : ∀ v, V.remembered v) (settings : Settings) (site : Site) :
    Act.KeepsWithin V I t Value fun _ => dispatch settings evaluate site t := by
  intro s before
  have noted : I s.world (s.world.note (.dispatched site.depth t)) :=
    T.note s.world fun _ => rfl
  have entered : State.UsesOnly V t ⟨s.memory, s.world.note (.dispatched site.depth t)⟩ :=
    ⟨before.memory, before.registry⟩
  dsimp only
  cases operator : t.operator with
  | builtin b =>
      cases hosted : s.world.registry.hosts b with
      | false =>
          rw [dispatch_unhosted operator hosted]
          exact ⟨entered, noted⟩
      | true =>
          rw [dispatch_builtin operator hosted, Act.mapError_state]
          have run : Act.KeepsWithin V I t Value fun _ => b.run settings evaluate site t :=
            Builtin.run_closed (Act.KeepsWithin.closed T t)
              (Act.KeepsWithin.counterparts T below term site.depth) settings b
              (Act.KeepsWithin.permitted T term _ operator fun _ => remembered)
          obtain ⟨after, lasted⟩ := run _ entered
          exact ⟨after, T.trans noted lasted⟩
  | custom name =>
      cases found : s.world.registry.lookup? name with
      | none =>
          rw [dispatch_undefined operator found]
          exact ⟨entered, noted⟩
      | some d =>
          rw [dispatch_custom operator found, Act.mapError_state]
          have inside := before.registry d (Registry.mem_of_lookup? found)
          obtain ⟨after, lasted⟩ := Definition.run_within T below term inside site _ entered
          exact ⟨after, T.trans noted lasted⟩

end

/-- **An evaluation keeps to its vocabulary**, and what every change of the world allowed by
the vocabulary has, the evaluation has, whether it succeeds or fails. -/
theorem evalAt_within {I : World → World → Prop} (T : World.Lasting I V.appends V.comesTo)
    (remembered : ∀ v, V.remembered v) (settings : Settings) :
    ∀ levels site t, t.UsesOnly V →
      Act.KeepsWithin V I t Value fun _ => evalAt settings levels site t
  | 0, _, _, _ => .of_still T fun _ => rfl
  | levels + 1, site, _, term =>
      dispatch_within T (evalAt_within T remembered settings levels) term remembered settings site

end FactScan
