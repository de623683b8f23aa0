/-
# FactScan.Proofs.Interchange — memories that are as good as one another

Two evaluations of one term against the same fact, each on a memory of its own.  A relation
of memories that fits the operators (`Memory.Interchange`) makes them come out alike: with
the same result, the same fact, the same operators registered, and memories that are related
again (`evalAt_respects`).  Registries are compared without what the bodies of definitions
remember (`Registry.bare`), for `defn` copies a body together with what terms carried as data
inside it remember.

What a copy remembers is worked out here once for all relations: a copy has no blocks but in
terms carried as data, so a relation of copies follows from one of those (`Memory.Copying`).
-/
import FactScan.Proofs.ExpansionCache
import FactScan.Proofs.Terms

namespace FactScan

set_option autoImplicit false

/-! ## Copies -/

/-- `P` holds of memories without a block if it holds below, and of the memories below
positions with `D`: of those of terms carried as data directly, of those of nested terms
as far as `D` does. -/
structure Memory.Copying (D P : Term → Memory → Memory → Prop) : Prop where
  vacant {t : Term} {m n : Memory} : m.block = none → n.block = none →
    (∀ p c, (t.operand? p).bind Operand.carried? = some c → P c (m.child p) (n.child p)) →
    P t m n
  nested {t : Term} {m n : Memory} {p : Nat} {c : Term} : D t m n →
    t.operand? p = some (.nested c) → D c (m.child p) (n.child p)
  data {t : Term} {m n : Memory} {p : Nat} {c : Term} : D t m n →
    t.operand? p = some (.literal (.term c)) → P c (m.child p) (n.child p)

namespace Memory.Copying

variable {D P : Term → Memory → Memory → Prop}

/-- A fresh copy of an operand. -/
theorem operand (C : Copying D P)
    (fresh : ∀ t m m', D t m m' → P t (t.freshMemory m) (t.freshMemory m')) {t c : Term}
    {m m' : Memory} {p : Nat} {o : Operand} (related : D t m m') (at_ : t.operand? p = some o)
    (carried : o.carried? = some c) :
    P c (o.freshMemory (m.child p)) (o.freshMemory (m'.child p)) := by
  rcases Operand.carried?_cases carried with rfl | rfl
  · exact fresh c _ _ (C.nested related at_)
  · exact C.data related at_

theorem fresh (C : Copying D P) :
    ∀ (t : Term) (m m' : Memory), D t m m' → P t (t.freshMemory m) (t.freshMemory m') := by
  intro t
  induction t using Term.nested_induction with
  | step op operands ih =>
      intro m m' related
      refine C.vacant rfl rfl fun p c carried => ?_
      obtain ⟨o, at_, carried⟩ := Option.bind_eq_some_iff.1 carried
      have found : operands[p]? = some o := at_
      rw [Term.child_freshMemory, Term.child_freshMemory, found]
      rcases Operand.carried?_cases carried with rfl | rfl
      · exact ih c (List.mem_of_getElem? found) _ _ (C.nested related at_)
      · exact C.data related at_

/-- A body filled in with the operands of a calling term. -/
theorem instantiate (C : Copying D P) {caller : Term} {k l : Memory} (given : D caller k l) :
    ∀ (t : Term) (m n : Memory), D t m n →
      P (t.instantiate caller.operands) (t.instantiateMemory caller.operands k.children m)
        (t.instantiateMemory caller.operands l.children n) := by
  intro t
  induction t using Term.nested_induction with
  | step op operands ih =>
      intro m n related
      refine C.vacant rfl rfl fun p c carried => ?_
      obtain ⟨o, at_, carried⟩ := Option.bind_eq_some_iff.1 carried
      rw [Term.instantiate, Operand.listInstantiate_eq_map] at at_
      have found : (operands.map (Operand.instantiate caller.operands))[p]? = some o := at_
      rw [List.getElem?_map, Option.map_eq_some_iff] at found
      obtain ⟨o, found, rfl⟩ := found
      rw [Term.child_instantiateMemory, Term.child_instantiateMemory, found]
      rcases Operand.carried?_instantiate carried with
        ⟨t, rfl, rfl⟩ | rfl | ⟨i, arg, rfl, held, carried⟩
      · exact ih t (List.mem_of_getElem? found) _ _ (C.nested related found)
      · exact C.data related found
      · show P c (Operand.instantiateMemory _ k.children (.placeholder i) (m.child p))
          (Operand.instantiateMemory _ l.children (.placeholder i) (n.child p))
        unfold Operand.instantiateMemory
        rw [held]
        exact C.operand C.fresh given held carried

end Memory.Copying

/-! ## Worlds -/

/-- A body without what it remembers. -/
def Body.bare : Body → Body
  | .expression body => .expression ⟨body.term, .blank⟩
  | .native run => .native run

def Definition.bare (d : Definition) : Definition := { d with body := d.body.bare }

theorem Definition.bare_eq {d d' : Definition} (same : d'.bare = d.bare) :
    d'.name = d.name ∧ d'.body.bare = d.body.bare ∧ d'.arity = d.arity ∧
      d'.generation = d.generation := by
  unfold bare at same
  simp only [Definition.mk.injEq] at same
  exact ⟨same.1, same.2.1, same.2.2.1, same.2.2.2.2⟩

theorem Body.term_of_bare {body body' : Instance}
    (same : (Body.expression body').bare = (Body.expression body).bare) :
    body'.term = body.term := by
  simp only [bare, Body.expression.injEq, Instance.mk.injEq] at same
  exact same.1

theorem Definition.bare_numbered (w : World) (d : Definition) :
    (w.numbered d).bare = { d.bare with generation := w.nextGeneration } := rfl

/-- A registry without what the bodies of its definitions remember. -/
def Registry.bare (r : Registry) : Registry := { r with custom := r.custom.map Definition.bare }

namespace Registry

theorem lookup?_bare (r : Registry) (name : String) :
    r.bare.lookup? name = (r.lookup? name).map Definition.bare := by
  unfold lookup? bare
  dsimp only
  rw [List.find?_map]
  rfl

theorem hosted_of_bare {r r' : Registry} (same : r.bare = r'.bare) : r.hosted = r'.hosted := by
  have same := congrArg hosted same
  exact same

theorem custom_of_bare {r r' : Registry} (same : r.bare = r'.bare) :
    r.custom.map Definition.bare = r'.custom.map Definition.bare := by
  have same := congrArg custom same
  exact same

theorem bare_put (d : Definition) (defs : List Definition) :
    (put d defs).map Definition.bare = put d.bare (defs.map Definition.bare) := by
  induction defs with
  | nil => rfl
  | cons e rest ih =>
      by_cases same : e.name = d.name
      · simp [put, Definition.bare, same]
      · simp only [put, List.map_cons, Definition.bare, beq_iff_eq, same, if_false]
        exact congrArg _ ih

theorem bare_filter (name : String) (defs : List Definition) :
    (defs.filter (·.name != name)).map Definition.bare =
      (defs.map Definition.bare).filter (·.name != name) := by
  rw [List.filter_map]
  rfl

theorem bare_put_eq {r r' : Registry} (same : r.bare = r'.bare) {d d' : Definition}
    (same' : d.bare = d'.bare) :
    bare { r with custom := put d r.custom } = bare { r' with custom := put d' r'.custom } := by
  unfold bare
  dsimp only
  rw [bare_put, bare_put, hosted_of_bare same, custom_of_bare same, same']

theorem bare_filter_eq {r r' : Registry} (same : r.bare = r'.bare) (name : String) :
    bare { r with custom := r.custom.filter (·.name != name) } =
      bare { r' with custom := r'.custom.filter (·.name != name) } := by
  unfold bare
  dsimp only
  rw [bare_filter, bare_filter, hosted_of_bare same, custom_of_bare same]

/-- What stands in a registry under a name stands, bare, in one that is alike. -/
theorem lookup?_of_bare {r r' : Registry} (same : r.bare = r'.bare) {name : String}
    {d : Definition} (found : r.lookup? name = some d) :
    ∃ d', r'.lookup? name = some d' ∧ d'.bare = d.bare := by
  have bare : (r'.lookup? name).map Definition.bare = some d.bare := by
    rw [← lookup?_bare, ← same, lookup?_bare, found]
    rfl
  exact Option.map_eq_some_iff.1 bare

theorem lookup?_eq_none_of_bare {r r' : Registry} (same : r.bare = r'.bare) {name : String}
    (missing : r.lookup? name = none) : r'.lookup? name = none := by
  have bare : (r'.lookup? name).map Definition.bare = none := by
    rw [← lookup?_bare, ← same, lookup?_bare, missing]
    rfl
  exact Option.map_eq_none_iff.1 bare

end Registry

/-- What lies between two moments, for every name. -/
def World.Later (before after : World) : Prop := ∀ name, before.Follows name after

/-- A definition found later was there before, or it has a new number. -/
theorem World.Later.lookup? {before after : World} (later : before.Later after) {name : String}
    {d : Definition} (found : after.registry.lookup? name = some d) :
    before.registry.lookup? name = some d ∨
      before.nextGeneration ≤ d.generation ∧ d.generation < after.nextGeneration := by
  obtain ⟨-, new, -, at_⟩ := later name
  split at at_
  · exact .inr (at_ d found)
  · exact .inl (at_ ▸ found)

theorem World.later_adding (w : World) (d : Definition) : w.Later (w.adding d) :=
  fun _ => follows_withDefinition w d

/-- Worlds with the same fact and, but for what bodies remember, the same definitions under
the same numbers; the memories of the bodies are related. -/
structure World.Paired (M : Term → Memory → Memory → Prop) (w w' : World) : Prop where
  fact : w.fact = w'.fact
  registry : w.registry.bare = w'.registry.bare
  next : w.nextGeneration = w'.nextGeneration
  bodies {name : String} {d d' : Definition} {body body' : Instance} :
    w.registry.lookup? name = some d → w'.registry.lookup? name = some d' →
    d.body = .expression body → d'.body = .expression body' →
    M body.term body.memory body'.memory

/-- A relation of memories, in a world, that the steps of an evaluation keep. -/
structure Memory.Interchange (M : World → Term → Memory → Memory → Prop) : Prop where
  /-- Of the world only the numbers and the registry matter, and of that not what bodies
  remember. -/
  elsewhere {w v : World} {t : Term} {m m' : Memory} : w.registry.bare = v.registry.bare →
    w.nextGeneration = v.nextGeneration → M w t m m' → M v t m m'
  later {w v : World} {t : Term} {m m' : Memory} : w.Later v → M w t m m' → M v t m m'
  child {w : World} {t c : Term} {m m' : Memory} {p : Nat} : M w t m m' →
    (t.operand? p).bind Operand.carried? = some c → M w c (m.child p) (m'.child p)
  setChild {w : World} {t c : Term} {m m' k k' : Memory} {p : Nat} : M w t m m' →
    (t.operand? p).bind Operand.carried? = some c → M w c k k' →
    M w t (m.setChild p k) (m'.setChild p k')
  fresh {w : World} {t : Term} {m m' : Memory} : M w t m m' →
    M w t (t.freshMemory m) (t.freshMemory m')
  previous {w : World} {t : Term} {m m' : Memory} : M w t m m' →
    t.operator = .builtin .previous →
      Operators.previousOf m.block = Operators.previousOf m'.block ∧
      ∀ v, M w t (m.setBlock (some (.previous v))) (m'.setBlock (some (.previous v)))
  seen {w : World} {t : Term} {m m' : Memory} : M w t m m' → t.operator = .builtin .unique →
    Operators.seenOf m.block = Operators.seenOf m'.block ∧
    ∀ keys, M w t (m.setBlock (some (.seen keys))) (m'.setBlock (some (.seen keys)))
  pattern {w : World} {t : Term} {m m' : Memory} : M w t m m' →
    t.operator = .builtin .isMatch → ∀ q,
      M w t (m.setBlock (some (.pattern q))) (m'.setBlock (some (.pattern q)))
  /-- Two calls of one definition, with bodies whose memories are related, run expansions that
  are so, too, and may keep them. -/
  call {w : World} {t : Term} {m m' : Memory} {name : String} {d d' : Definition}
    {body body' : Instance} : M w t m m' → t.operator = .custom name →
    w.registry.lookup? name = some d → d.body = .expression body →
    d'.generation = d.generation → body'.term = body.term →
    M w body.term body.memory body'.memory →
      (d'.expansionFor body' t m').term = (d.expansionFor body t m).term ∧
      M w (d.expansionFor body t m).term (d.expansionFor body t m).memory
        (d'.expansionFor body' t m').memory ∧
      ∀ v k k', w.Later v → M v (d.expansionFor body t m).term k k' →
        M v t
          (m.setBlock (some (.expansion d.generation (d.expansionFor body t m).term k)))
          (m'.setBlock (some (.expansion d.generation (d.expansionFor body t m).term k')))

section

variable {M : World → Term → Memory → Memory → Prop}

namespace World.Paired

variable {w w' v v' : World}

/-- Fact and log do not matter, as long as the facts are the same. -/
theorem elsewhere (I : Memory.Interchange M) (paired : Paired (M w) w w')
    (fact : v.fact = v'.fact) (registry : v.registry = w.registry)
    (next : v.nextGeneration = w.nextGeneration) (registry' : v'.registry = w'.registry)
    (next' : v'.nextGeneration = w'.nextGeneration) : Paired (M v) v v' where
  fact := fact
  registry := by rw [registry, registry', paired.registry]
  next := by rw [next, next', paired.next]
  bodies found found' isTerm isTerm' := by
    rw [registry] at found
    rw [registry'] at found'
    exact I.elsewhere (congrArg Registry.bare registry.symm) next.symm
      (paired.bodies found found' isTerm isTerm')

/-- A world is paired with itself if the memories of its bodies are related to themselves. -/
theorem self {M : Term → Memory → Memory → Prop}
    (bodies : ∀ name d body, w.registry.lookup? name = some d → d.body = .expression body →
      M body.term body.memory body.memory) : Paired M w w where
  fact := rfl
  registry := rfl
  next := rfl
  bodies {name d d' body body'} found found' isTerm isTerm' := by
    cases found.symm.trans found'
    cases isTerm.symm.trans isTerm'
    exact bodies name d body found isTerm

/-- The definitions of a name in the two worlds. -/
theorem lookup? (paired : Paired (M w) w w') {name : String} {d : Definition}
    (found : w.registry.lookup? name = some d) :
    ∃ d', w'.registry.lookup? name = some d' ∧ d'.bare = d.bare :=
  Registry.lookup?_of_bare paired.registry found

/-- A definition with the same body in both worlds. -/
theorem adding (I : Memory.Interchange M) (paired : Paired (M w) w w') {d d' : Definition}
    (same : d.bare = d'.bare)
    (bodies : ∀ body body', d.body = .expression body → d'.body = .expression body' →
      M w body.term body.memory body'.memory) :
    Paired (M (w.adding d)) (w.adding d) (w'.adding d') where
  fact := paired.fact
  registry := by
    refine Registry.bare_put_eq paired.registry ?_
    rw [Definition.bare_numbered, Definition.bare_numbered, same, paired.next]
  next := congrArg (· + 1) paired.next
  bodies {name e e' body body'} found found' isTerm isTerm' := by
    have names : d.name = d'.name := (Definition.bare_eq same).1
    refine I.later (later_adding w d) ?_
    rw [lookup?_adding] at found found'
    by_cases here : d.name = name
    · rw [if_pos here] at found
      rw [if_pos (names ▸ here)] at found'
      cases found
      cases found'
      exact bodies body body' isTerm isTerm'
    · rw [if_neg here] at found
      rw [if_neg (names ▸ here)] at found'
      exact paired.bodies found found' isTerm isTerm'

/-- Defining operators with the same body fails alike, or leaves the worlds paired. -/
theorem define (I : Memory.Interchange M) (paired : Paired (M w) w w') {d d' : Definition}
    (same : d.bare = d'.bare)
    (bodies : ∀ body body', d.body = .expression body → d'.body = .expression body' →
      M w body.term body.memory body'.memory) :
    (∃ e, w.define d = .error e ∧ w'.define d' = .error e) ∨
      w.define d = .ok (w.adding d) ∧ w'.define d' = .ok (w'.adding d') ∧
        Paired (M (w.adding d)) (w.adding d) (w'.adding d') := by
  have names : d.name = d'.name := (Definition.bare_eq same).1
  rw [define_apply, define_apply, ← names]
  rcases Registry.checkName d.name with e | ⟨⟩
  · exact .inl ⟨e, rfl, rfl⟩
  · cases found : w.registry.lookup? d.name with
    | some e =>
        obtain ⟨e', found', -⟩ := paired.lookup? found
        rw [found']
        exact .inl ⟨_, rfl, rfl⟩
    | none =>
        rw [Registry.lookup?_eq_none_of_bare paired.registry found]
        exact .inr ⟨rfl, rfl, paired.adding I same bodies⟩

theorem removing (I : Memory.Interchange M) (paired : Paired (M w) w w') (name : String)
    (later : w.Later (w.removing name)) :
    Paired (M (w.removing name)) (w.removing name) (w'.removing name) where
  fact := by rw [fact_removing, fact_removing, paired.fact]
  registry := by
    rw [registry_removing, registry_removing]
    exact Registry.bare_filter_eq paired.registry name
  next := by rw [nextGeneration_removing, nextGeneration_removing, paired.next]
  bodies {other d d' body body'} found found' isTerm isTerm' := by
    refine I.later later ?_
    rw [registry_removing] at found found'
    have at_ := (Registry.lookup?_filter w.registry name other).symm.trans found
    have at_' := (Registry.lookup?_filter w'.registry name other).symm.trans found'
    split at at_
    · cases at_
    · rename_i different
      rw [if_neg different] at at_'
      exact paired.bodies at_ at_' isTerm isTerm'

/-- Removing an operator fails alike, or leaves the worlds paired. -/
theorem undefine (I : Memory.Interchange M) (paired : Paired (M w) w w') (name : String) :
    (∃ e, w.undefine name = .error e ∧ w'.undefine name = .error e) ∨
      ∃ removed, w.undefine name = .ok (w.removing name, removed) ∧
        w'.undefine name = .ok (w'.removing name, removed) ∧
        Paired (M (w.removing name)) (w.removing name) (w'.removing name) := by
  have done := undefine_apply w name
  rw [undefine_apply w']
  rw [done]
  cases reserved : Builtin.ofName? name with
  | some b => exact .inl ⟨_, rfl, rfl⟩
  | none =>
      rw [reserved] at done
      have later : w.Later (w.removing name) := fun _ => follows_undefine done
      have isSome : (w'.registry.lookup? name).isSome = (w.registry.lookup? name).isSome := by
        cases found : w.registry.lookup? name with
        | some d =>
            obtain ⟨d', found', -⟩ := paired.lookup? found
            rw [found']
            rfl
        | none => rw [Registry.lookup?_eq_none_of_bare paired.registry found]
      rw [isSome]
      exact .inr ⟨_, rfl, rfl, paired.removing I name later⟩

end World.Paired

/-! ## Acts -/

/-- The same result, in states that are related. -/
structure Act.EndAlike (R : State → State → Prop) {α : Type}
    (first second : Except EvalError α × State) : Prop where
  result : first.1 = second.1
  state : R first.2 second.2

/-- Two acts, of which the first is `true`, that come out alike in related states. -/
def Act.Respects (R : State → State → Prop) (α : Type) (act : Bool → Act α) : Prop :=
  ∀ s s', R s s' → EndAlike R (act true s) (act false s')

theorem Act.EndAlike.mapError {R : State → State → Prop} {α : Type} {act act' : Act α}
    {s s' : State} (alike : EndAlike R (act s) (act' s')) (f : EvalError → EvalError) :
    EndAlike R (Act.mapError f act s) (Act.mapError f act' s') := by
  obtain ⟨result, state⟩ := alike
  refine ⟨?_, by rw [mapError_state, mapError_state]; exact state⟩
  unfold Act.mapError
  rcases ran : act s with ⟨r, s₁⟩
  rcases ran' : act' s' with ⟨r', s₁'⟩
  rw [ran, ran'] at result
  cases result
  cases r <;> rfl

/-- A relation of facts that lasts in the scopes operators open. -/
structure Fact.Congruence (F : Fact → Fact → Prop) : Prop where
  overlay (row : Row) {x x' : Fact} : F x x' → F (.overlay row x) (.overlay row x')
  empty : F .empty .empty

theorem Fact.Congruence.eq : Fact.Congruence (· = ·) where
  overlay row _ _ same := congrArg (Fact.overlay row) same
  empty := rfl

namespace Act.Respects

variable {R : State → State → Prop} {F : Fact → Fact → Prop} {α : Type}

/-- An act that does nothing, but to look at the fact. -/
theorem of_still {act : Bool → Act α} {r : Fact → Except EvalError α}
    (alike : ∀ s s', R s s' → r s.world.fact = r s'.world.fact)
    (still : ∀ b s, act b s = (r s.world.fact, s)) : Respects R α act := by
  intro s s' related
  rw [still, still, alike s s' related]
  exact ⟨rfl, related⟩

/-- What is done against facts that are related again. -/
theorem withFact
    (against : ∀ {x x'}, F x x' → ∀ s s', R s s' →
      R { s with world := { s.world with fact := x } }
        { s' with world := { s'.world with fact := x' } })
    {act : Bool → Act α} (inside : Respects R α act) {s s' : State} (related : R s s')
    (outer : F s.world.fact s'.world.fact) {x x' : Fact} (inner : F x x') :
    EndAlike R (Act.withFact x (act true) s) (Act.withFact x' (act false) s') := by
  obtain ⟨result, after⟩ := inside _ _ (against inner s s' related)
  rw [withFact_apply, withFact_apply]
  exact ⟨result, against outer _ _ after⟩

theorem closed (congruence : Fact.Congruence F)
    (fact : ∀ s s', R s s' → F s.world.fact s'.world.fact)
    (against : ∀ {x x'}, F x x' → ∀ s s', R s s' →
      R { s with world := { s.world with fact := x } }
        { s' with world := { s'.world with fact := x' } }) :
    Closed (Respects R) where
  pure a := .of_still (r := fun _ => .ok a) (fun _ _ _ => rfl) fun _ _ => rfl
  fail {_ e} _ := .of_still (r := fun _ => .error e) (fun _ _ _ => rfl) fun _ _ => rfl
  bind {_ _ act f} first next := by
    intro s s' related
    obtain ⟨same, after⟩ := first s s' related
    dsimp only
    rcases bind_cases (act true) (f true) s with ⟨a, s₁, ran, whole⟩ | ⟨e, s₁, ran, whole⟩
    · rw [ran] at same after
      rcases bind_cases (act false) (f false) s' with
        ⟨a', s₁', ran', whole'⟩ | ⟨e', s₁', ran', whole'⟩
      · rw [ran'] at same after
        cases same
        rw [whole, whole']
        exact next a s₁ s₁' after
      · rw [ran'] at same
        cases same
    · rw [ran] at same after
      rcases bind_cases (act false) (f false) s' with
        ⟨a', s₁', ran', whole'⟩ | ⟨e', s₁', ran', whole'⟩
      · rw [ran'] at same
        cases same
      · rw [ran'] at same after
        cases same
        rw [whole, whole']
        exact ⟨rfl, after⟩
  overlay row act inside := by
    intro s s' related
    have outer := fact s s' related
    exact inside.withFact against related outer (congruence.overlay row outer)
  vacant {_ act} inside := by
    intro s s' related
    exact inside.withFact against related (fact s s' related) congruence.empty

theorem looks {field : String} (read : ∀ s s', R s s' →
      s.world.fact.read field = s'.world.fact.read field)
    (holds : ∀ s s', R s s' → s.world.fact.holds field = s'.world.fact.holds field) :
    Looks (Respects R) field where
  read := .of_still (r := fun x => .ok (x.read field))
    (fun s s' related => by rw [read s s' related]) fun _ _ => rfl
  holds := .of_still (r := fun x => .ok (x.holds field))
    (fun s s' related => by rw [holds s s' related]) fun _ _ => rfl

end Act.Respects

/-- States to evaluate a term in: paired worlds, and memories of the term that are related. -/
structure State.Paired (M : World → Term → Memory → Memory → Prop) (t : Term) (s s' : State) :
    Prop where
  world : s.world.Paired (M s.world) s'.world
  memory : M s.world t s.memory s'.memory

namespace State.Paired

variable {t : Term} {s s' : State}

/-- Fact and log do not matter, as long as the facts are the same. -/
theorem elsewhere (I : Memory.Interchange M) (paired : Paired M t s s') {v v' : World}
    (fact : v.fact = v'.fact) (registry : v.registry = s.world.registry)
    (next : v.nextGeneration = s.world.nextGeneration) (registry' : v'.registry = s'.world.registry)
    (next' : v'.nextGeneration = s'.world.nextGeneration) :
    Paired M t { s with world := v } { s' with world := v' } where
  world := paired.world.elsewhere I fact registry next registry' next'
  memory := I.elsewhere (congrArg Registry.bare registry.symm) next.symm paired.memory

theorem note (I : Memory.Interchange M) (paired : Paired M t s s') (r r' : Record) :
    Paired M t { s with world := s.world.note r } { s' with world := s'.world.note r' } :=
  paired.elsewhere I paired.world.fact rfl rfl rfl rfl

theorem against (I : Memory.Interchange M) (fact : Fact) (s s' : State)
    (paired : Paired M t s s') :
    Paired M t { s with world := { s.world with fact } }
      { s' with world := { s'.world with fact } } :=
  paired.elsewhere I rfl rfl rfl rfl rfl

/-- Another block for the term. -/
theorem setBlock (paired : Paired M t s s') {b b' : Option Block}
    (related : M s.world t (s.memory.setBlock b) (s'.memory.setBlock b')) :
    Paired M t { s with memory := s.memory.setBlock b }
      { s' with memory := s'.memory.setBlock b' } :=
  ⟨paired.world, related⟩

end State.Paired

namespace Act.Respects

variable (I : Memory.Interchange M)
include I

theorem closed_paired (t : Term) : Closed (Respects (State.Paired M t)) :=
  closed .eq (fun _ _ paired => paired.world.fact) fun same s s' paired => by
    subst same
    exact State.Paired.against I _ s s' paired

omit I in
theorem looks_paired (t : Term) (field : String) : Looks (Respects (State.Paired M t)) field :=
  looks (fun _ _ paired => by rw [paired.world.fact]) fun _ _ paired => by rw [paired.world.fact]

omit I in
theorem fail {α : Type} {R : State → State → Prop} (e : EvalError) :
    Respects R α fun _ => Act.fail e :=
  fun _ _ related => ⟨rfl, related⟩

/-- `defn` copies a body together with what terms carried inside it remember. -/
theorem define (t : Term) : Respects (State.Paired M t) Value fun _ => Operators.define t := by
  intro s s' paired
  dsimp only
  rcases Operators.define_cases t with ⟨e, _, run⟩ | ⟨name, body, defines, run⟩
  · rw [run, run]
    exact ⟨rfl, paired⟩
  · rw [run, run]
    have bodies := I.fresh (I.child paired.memory defines.carried)
    have same : (Definition.ofTerm name ⟨body, s.memory.child 1⟩).bare =
        (Definition.ofTerm name ⟨body, s'.memory.child 1⟩).bare := rfl
    rcases paired.world.define I same
        (fun _ _ isTerm isTerm' => by cases isTerm; cases isTerm'; exact bodies) with
      ⟨e, failed, failed'⟩ | ⟨made, made', after⟩
    · rw [failed, failed']
      exact ⟨rfl, paired⟩
    · rw [made, made']
      exact ⟨rfl, after, I.later (World.later_adding _ _) paired.memory⟩

/-- The steps that only some operators take. -/
theorem permitted {t : Term} {b : Builtin} (operator : t.operator = .builtin b) (level : Level) :
    b.Permitted (Respects (State.Paired M t)) level fun _ => t where
  exchange is v := by
    intro s s' paired
    subst is
    obtain ⟨same, set⟩ := I.previous paired.memory operator
    dsimp only
    rw [Operators.exchange_apply, Operators.exchange_apply, same]
    exact ⟨rfl, paired.setBlock (set v)⟩
  collect is keys := by
    intro s s' paired
    subst is
    obtain ⟨same, set⟩ := I.seen paired.memory operator
    dsimp only
    rw [Operators.collect_apply, Operators.collect_apply, same]
    exact ⟨rfl, paired.setBlock (set _)⟩
  pattern is source := by
    intro s s' paired
    subst is
    dsimp only
    rw [Operators.patternOf_eq, Operators.patternOf_eq]
    cases Pattern.ofSource source with
    | ok p => exact ⟨rfl, paired.setBlock (I.pattern paired.memory operator p)⟩
    | error e => exact ⟨rfl, paired⟩
  append _ field _ a := by
    intro s s' paired
    dsimp only
    unfold Act.append
    rw [← paired.world.fact]
    cases s.world.fact.append? field a with
    | some fact => exact ⟨rfl, paired.against I fact s s'⟩
    | none => exact ⟨rfl, paired⟩
  define _ := define I t
  undefine _ name := by
    intro s s' paired
    dsimp only
    rcases paired.world.undefine I name with ⟨e, failed, failed'⟩ | ⟨removed, done, done', after⟩
    · rw [Act.undefine_error failed, Act.undefine_error failed']
      exact ⟨rfl, paired⟩
    · rw [Act.undefine_ok done, Act.undefine_ok done']
      exact ⟨rfl, after, I.later (fun _ => World.follows_undefine done) paired.memory⟩
  kept _ k n := fun s s' paired => ⟨rfl, paired.note I _ _⟩
  traced _ v := fun s s' paired => ⟨rfl, paired.note I _ _⟩

/-- What the evaluator below respects, the operands of a term do. -/
theorem atChild {settings : Settings} {levels : Nat} {site : Site} {t c : Term} {p : Nat}
    (carried : (t.operand? p).bind Operand.carried? = some c)
    (below : Respects (State.Paired M c) Value fun _ => evalAt settings levels site c) :
    Respects (State.Paired M t) Value fun _ => Act.atChild p (evalAt settings levels site c) := by
  intro s s' paired
  have inside : State.Paired M c { s with memory := s.memory.child p }
      { s' with memory := s'.memory.child p } :=
    ⟨paired.world, I.child paired.memory carried⟩
  have later : s.world.Later
      (evalAt settings levels site c { s with memory := s.memory.child p }).2.world :=
    fun name => evalAt_lasting (World.follows_lasting name) settings levels site c
      { s with memory := s.memory.child p }
  obtain ⟨same, after⟩ := below _ _ inside
  dsimp only
  rw [atChild_apply, atChild_apply]
  exact ⟨same, after.world, I.setChild (I.later later paired.memory) carried after.memory⟩

theorem counterparts {settings : Settings} {levels : Nat} (depth : Nat) (t : Term)
    (below : ∀ site c, Respects (State.Paired M c) Value fun _ => evalAt settings levels site c) :
    Counterparts (Respects (State.Paired M t)) (fun _ => evalAt settings levels) (fun _ => depth)
      fun _ => t :=
  .ofTerm (fun _ c carried rows => .atChild I carried (below ⟨rows, depth + 1⟩ c))
    (fun _ name _ => looks_paired t name) (fun _ => .fail _) fun _ _ => .fail _

end Act.Respects

/-! ## Evaluations -/

section

variable (I : Memory.Interchange M) {settings : Settings} {levels : Nat}
  (below : ∀ site c, Act.Respects (State.Paired M c) Value fun _ => evalAt settings levels site c)
  {site : Site} {t : Term} {s s' : State} (paired : State.Paired M t s s')
include I below paired

/-- Calls of two definitions by a term, with one number and one body but for what the bodies
remember. -/
theorem Definition.expression_respects {name : String} (isCustom : t.operator = .custom name)
    {d d' : Definition} (found : s.world.registry.lookup? name = some d)
    (found' : s'.world.registry.lookup? name = some d') (generation : d'.generation = d.generation)
    {body body' : Instance} (isBody : d.body = .expression body)
    (isBody' : d'.body = .expression body') (sameBody : body'.term = body.term)
    (admitted : d.arity.admits t.arity = true) (admitted' : d'.arity.admits t.arity = true) :
    Act.EndAlike (State.Paired M t) (d.run (evalAt settings levels) site t s)
      (d'.run (evalAt settings levels) site t s') := by
  rw [run_expression isBody admitted, run_expression isBody' admitted', Act.inExpansion_apply,
    Act.inExpansion_apply, generation]
  obtain ⟨sameTerm, related, kept⟩ := I.call paired.memory isCustom found isBody generation sameBody
    (paired.world.bodies found found' isBody isBody')
  rw [sameTerm]
  generalize (d.expansionFor body t s.memory).term = e at related kept ⊢
  generalize (d.expansionFor body t s.memory).memory = u at related ⊢
  generalize (d'.expansionFor body' t s'.memory).memory = u' at related ⊢
  have called : State.Paired M e ⟨u, s.world⟩ ⟨u', s'.world⟩ := ⟨paired.world, related⟩
  have noted : State.Paired M e ⟨u, d.worldFor t s.memory s.world⟩
      ⟨u', d'.worldFor t s'.memory s'.world⟩ :=
    called.elsewhere I (by simp [paired.world.fact]) (by simp) (by simp) (by simp) (by simp)
  obtain ⟨result, after⟩ := below site.deeper e _ _ noted
  have later : s.world.Later
      (evalAt settings levels site.deeper e ⟨u, d.worldFor t s.memory s.world⟩).2.world :=
    fun name => (d.worldFor_lasting (World.follows_lasting name) t _ _).trans
      (evalAt_lasting (World.follows_lasting name) settings levels site.deeper e
        ⟨u, d.worldFor t s.memory s.world⟩)
  exact ⟨result, after.world, kept _ _ _ later after.memory⟩

/-- Calls of one function of the host. -/
theorem Definition.native_respects {d d' : Definition}
    {native : Native}
    (isBody : d.body = .native native) (isBody' : d'.body = .native native)
    (admitted : d.arity.admits t.arity = true) (admitted' : d'.arity.admits t.arity = true) :
    Act.EndAlike (State.Paired M t) (d.run (evalAt settings levels) site t s)
      (d'.run (evalAt settings levels) site t s') := by
  have L := Act.Respects.closed_paired I t
  have args : Act.Respects (State.Paired M t) (List Value) fun _ =>
      resolveAll (evalAt settings levels) site t t.positions :=
    resolveAll_closed L.toComposes (Act.Respects.counterparts I site.depth t below) t.positions
  rw [run_native isBody admitted, run_native isBody' admitted']
  refine L.bind args (f := fun _ args => Act.fact >>= fun fact =>
    Act.ofExcept (native args fact site.rows)) (fun args => ?_) s s' paired
  refine .of_still (r := fun fact => native args fact site.rows)
    (fun _ _ paired => by rw [paired.world.fact]) fun _ s => ?_
  show Act.ofExcept (native args s.world.fact site.rows) s = _
  cases native args s.world.fact site.rows <;> rfl

/-- A call of a definition, made with the number and the arity of the one in the other world. -/
theorem Definition.run_respects {name : String} (isCustom : t.operator = .custom name)
    {d d' : Definition} (found : s.world.registry.lookup? name = some d)
    (found' : s'.world.registry.lookup? name = some d') (same : d'.bare = d.bare) :
    Act.EndAlike (State.Paired M t) (d.run (evalAt settings levels) site t s)
      (d'.run (evalAt settings levels) site t s') := by
  obtain ⟨-, bodies, arity, generation⟩ := bare_eq same
  cases admitted : d.arity.admits t.arity with
  | false =>
      rw [run_refused admitted, run_refused (arity ▸ admitted), arity]
      exact ⟨rfl, paired⟩
  | true =>
      have admitted' : d'.arity.admits t.arity = true := arity ▸ admitted
      cases isBody : d.body with
      | expression body =>
          cases isBody' : d'.body with
          | native native =>
              rw [isBody, isBody'] at bodies
              cases bodies
          | expression body' =>
              rw [isBody, isBody'] at bodies
              exact expression_respects I below paired isCustom found found' generation isBody
                isBody' (Body.term_of_bare bodies) admitted admitted'
      | native native =>
          cases isBody' : d'.body with
          | expression body' =>
              rw [isBody, isBody'] at bodies
              cases bodies
          | native native' =>
              rw [isBody, isBody'] at bodies
              cases bodies
              exact native_respects I below paired isBody isBody' admitted admitted'

end

/-- **Related memories are as good as one another.**  Evaluating a term in paired worlds gives
the same value or error, and leaves paired worlds and related memories. -/
theorem evalAt_respects (I : Memory.Interchange M) (settings : Settings) :
    ∀ levels site t, Act.Respects (State.Paired M t) Value fun _ => evalAt settings levels site t
  | 0, _, _ => .fail _
  | levels + 1, site, t => by
      have below := evalAt_respects I settings levels
      intro s s' paired
      have noted := paired.note I (.dispatched site.depth t) (.dispatched site.depth t)
      show Act.EndAlike (State.Paired M t) (dispatch settings (evalAt settings levels) site t s)
        (dispatch settings (evalAt settings levels) site t s')
      cases operator : t.operator with
      | builtin b =>
          have hosts : s'.world.registry.hosts b = s.world.registry.hosts b := by
            unfold Registry.hosts
            rw [Registry.hosted_of_bare paired.world.registry]
          cases hosted : s.world.registry.hosts b with
          | false =>
              rw [dispatch_unhosted operator hosted,
                dispatch_unhosted operator (hosts.trans hosted)]
              exact ⟨rfl, noted⟩
          | true =>
              have run : Act.Respects (State.Paired M t) Value fun _ =>
                  b.run settings (evalAt settings levels) site t :=
                Builtin.run_closed (Act.Respects.closed_paired I t)
                  (Act.Respects.counterparts I site.depth t below) settings b
                  (Act.Respects.permitted I operator _)
              rw [dispatch_builtin operator hosted, dispatch_builtin operator (hosts.trans hosted)]
              exact (run _ _ noted).mapError _
      | custom name =>
          cases found : s.world.registry.lookup? name with
          | none =>
              have missing := Registry.lookup?_eq_none_of_bare paired.world.registry found
              rw [dispatch_undefined operator found, dispatch_undefined operator missing]
              exact ⟨rfl, noted⟩
          | some d =>
              obtain ⟨d', found', same⟩ := paired.world.lookup? found
              rw [dispatch_custom operator found, dispatch_custom operator found']
              exact (Definition.run_respects I below noted operator found found' same).mapError _

/-- Scans on related memories have the same values, the same facts afterwards, and leave
paired worlds. -/
theorem Instance.scan_respects (I : Memory.Interchange M) (settings : Settings) (rows : List Row)
    (t : Term) (facts : List Fact) : ∀ {m m' : Memory} {w w' : World},
      State.Paired M t ⟨m, w⟩ ⟨m', w'⟩ →
        let first := Instance.scan settings rows facts ⟨t, m⟩ w
        let second := Instance.scan settings rows facts ⟨t, m'⟩ w'
        first.values = second.values ∧ first.facts = second.facts ∧
          first.world.Paired (M first.world) second.world := by
  induction facts with
  | nil =>
      intro m m' w w' paired
      exact ⟨rfl, rfl, paired.world⟩
  | cons fact facts ih =>
      intro m m' w w' paired
      obtain ⟨same, after⟩ := evalAt_respects I settings (settings.maxDepth + 1) ⟨rows, 0⟩ t _ _
        (paired.against I fact)
      replace same : (FactScan.evaluate settings rows t ⟨m, { w with fact }⟩).1 =
        (FactScan.evaluate settings rows t ⟨m', { w' with fact }⟩).1 := same
      replace after : State.Paired M t (FactScan.evaluate settings rows t ⟨m, { w with fact }⟩).2
        (FactScan.evaluate settings rows t ⟨m', { w' with fact }⟩).2 := after
      rcases ran : FactScan.evaluate settings rows t ⟨m, { w with fact }⟩ with ⟨r, s⟩
      rcases ran' : FactScan.evaluate settings rows t ⟨m', { w' with fact }⟩ with ⟨r', s'⟩
      rw [ran, ran'] at same after
      cases same
      cases r with
      | error e =>
          rw [Instance.scan_error ran, Instance.scan_error ran']
          exact ⟨rfl, congrArg (· :: facts) after.world.fact, after.world⟩
      | ok v =>
          rw [Instance.scan_ok ran, Instance.scan_ok ran']
          obtain ⟨values, sameFacts, worlds⟩ := ih after
          refine ⟨congrArg (Except.map (v :: ·)) values, ?_, worlds⟩
          show s.world.fact :: _ = s'.world.fact :: _
          rw [sameFacts, after.world.fact]

end

end FactScan
