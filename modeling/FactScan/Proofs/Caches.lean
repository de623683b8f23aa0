/-
# FactScan.Proofs.Caches — what is kept between evaluations cannot be noticed

Besides what `prev` and `unique` record, terms keep compiled patterns and expansions.  A kept
pattern is found by its source, and is what would be compiled again.  A kept expansion is
found by the number of the definition it was made from, and `Memory.IsSound` says that it is
what would be filled in again: the body of the one definition that has the number, with the
operands of the term.

* `Memory.IsSound.interchange`: sound memories of a term without `prev` and `unique`,
  whatever they hold, are as good as one another, as long as bodies have neither.
* `Session.Reachable.isSound`: everything a program can build, evaluate, copy and define with
  is sound, whichever evaluations failed on the way.
* `Session.evaluate_used`: so a used instance and a newly built one evaluate alike.
-/
import FactScan.Proofs.Interchange

namespace FactScan

set_option autoImplicit false

/-! ## Terms without state -/

/-- Neither `prev` nor `unique` at any depth, nested or carried as data. -/
def Term.IsStateless (t : Term) : Prop :=
  t.Throughout fun op => ∀ b, op = .builtin b → b.isStateful = false

/-! ## Sound memories -/

/-- Whether a term of an operator records blocks of this kind. -/
def Block.Suits : Block → Operator → Prop
  | .previous _, op => op = .builtin .previous
  | .seen _, op => op = .builtin .unique
  | .pattern _, op => op = .builtin .isMatch
  | .expansion .., op => ∃ name, op = .custom name

/-- The numbers of all definitions were given out. -/
def World.IsNumbered (w : World) : Prop :=
  ∀ name d, w.registry.lookup? name = some d → d.generation < w.nextGeneration

/-- A filled-in body under a number: the number was given out, and if the operator of the
term has the definition of that number, then it is that body with the operands of the term. -/
structure World.Made (w : World) (t : Term) (generation : Nat) (e : Term) : Prop where
  given : generation < w.nextGeneration
  body {d : Definition} {body : Instance} : w.registry.lookup? t.name = some d →
    d.generation = generation → d.body = .expression body →
    e = body.term.instantiate t.operands

namespace Memory

/-- What evaluations up to a moment can have left with a term: blocks that suit the operators,
and expansions that were made for their terms. -/
inductive IsSound (w : World) : Term → Memory → Prop
  | intro {t : Term} {m : Memory} :
      (∀ b, m.block = some b → b.Suits t.operator) →
      (∀ g e u, m.block = some (.expansion g e u) → w.Made t g e) →
      (∀ g e u, m.block = some (.expansion g e u) → IsSound w e u) →
      (∀ p c, (t.operand? p).bind Operand.carried? = some c → IsSound w c (m.child p)) →
      IsSound w t m

end Memory

/-! ### Other worlds -/

/-- Only numbers and bare definitions matter. -/
theorem World.IsNumbered.elsewhere {w v : World} (numbered : w.IsNumbered)
    (registry : w.registry.bare = v.registry.bare) (next : w.nextGeneration = v.nextGeneration) :
    v.IsNumbered := by
  intro name d found
  obtain ⟨d', found', same⟩ := Registry.lookup?_of_bare registry.symm found
  rw [← next, ← (Definition.bare_eq same).2.2.2]
  exact numbered name d' found'

theorem World.IsNumbered.later {w v : World} (numbered : w.IsNumbered) (later : w.Later v) :
    v.IsNumbered := by
  intro name d found
  rcases later.lookup? found with old | ⟨-, given⟩
  · exact Nat.lt_of_lt_of_le (numbered name d old) (later name).1
  · exact given

namespace World.Made

variable {w v : World} {t e : Term} {generation : Nat}

theorem elsewhere (made : w.Made t generation e) (registry : w.registry.bare = v.registry.bare)
    (next : w.nextGeneration = v.nextGeneration) : v.Made t generation e where
  given := next ▸ made.given
  body {d body} found number isTerm := by
    obtain ⟨d', found', same⟩ := Registry.lookup?_of_bare registry.symm found
    obtain ⟨-, bodies, -, numbers⟩ := Definition.bare_eq same
    cases isTerm' : d'.body with
    | native run =>
        rw [isTerm, isTerm'] at bodies
        cases bodies
    | expression body' =>
        rw [isTerm, isTerm'] at bodies
        rw [← Body.term_of_bare bodies]
        exact made.body found' (numbers.trans number) isTerm'

/-- A number that was given out is not given out again. -/
theorem later (made : w.Made t generation e) (later : w.Later v) : v.Made t generation e where
  given := Nat.lt_of_lt_of_le made.given (later t.name).1
  body {d body} found number isTerm := by
    rcases later.lookup? found with old | ⟨new, -⟩
    · exact made.body old number isTerm
    · have given := made.given
      omega

end World.Made

namespace Memory.IsSound

variable {w v : World} {t c : Term} {m k : Memory}

theorem elsewhere (registry : w.registry.bare = v.registry.bare)
    (next : w.nextGeneration = v.nextGeneration) (sound : IsSound w t m) : IsSound v t m := by
  induction sound with
  | intro suits made _ _ inside children =>
      exact .intro suits (fun g e u block => (made g e u block).elsewhere registry next) inside
        children

/-- Facts do not matter. -/
theorem against (fact : Fact) (sound : IsSound w t m) : IsSound { w with fact } t m :=
  elsewhere (w := w) rfl rfl sound

theorem later (after : w.Later v) (sound : IsSound w t m) : IsSound v t m := by
  induction sound with
  | intro suits made _ _ inside children =>
      exact .intro suits (fun g e u block => (made g e u block).later after) inside children

/-! ### What a term does with its memory -/

theorem child (sound : IsSound w t m) {p : Nat}
    (carried : (t.operand? p).bind Operand.carried? = some c) : IsSound w c (m.child p) := by
  cases sound with
  | intro _ _ _ children => exact children p c carried

theorem setChild (sound : IsSound w t m) {p : Nat}
    (carried : (t.operand? p).bind Operand.carried? = some c) (inside : IsSound w c k) :
    IsSound w t (m.setChild p k) := by
  cases sound with
  | intro suits made bodies children =>
      refine .intro suits made bodies fun q c' carried' => ?_
      rw [child_setChild]
      split
      · rename_i here
        subst here
        cases carried.symm.trans carried'
        exact inside
      · exact children q c' carried'

/-- Recording a block other than an expansion. -/
theorem setBlock (sound : IsSound w t m) {b : Block} (suits : b.Suits t.operator)
    (other : ∀ g e u, b ≠ .expansion g e u) : IsSound w t (m.setBlock (some b)) := by
  refine .intro ?_ ?_ ?_ fun p c carried => sound.child carried
  · rintro _ ⟨⟩
    exact suits
  · rintro g e u ⟨⟩
    exact absurd rfl (other g e u)
  · rintro g e u ⟨⟩
    exact absurd rfl (other g e u)

theorem copying (w : World) : Copying (fun t m _ => IsSound w t m) fun t m _ => IsSound w t m where
  vacant {t m _} block _ children := by
    have none_ (b : Block) : m.block ≠ some b := by
      rw [block]
      exact nofun
    exact .intro (fun b recorded => absurd recorded (none_ b))
      (fun g e u recorded => absurd recorded (none_ _))
      (fun g e u recorded => absurd recorded (none_ _)) children
  nested sound at_ := sound.child (by rw [at_]; rfl)
  data sound at_ := sound.child (by rw [at_]; rfl)

theorem fresh (sound : IsSound w t m) : IsSound w t (t.freshMemory m) :=
  (copying w).fresh t m m sound

theorem instantiate {body caller : Instance} (sound : IsSound w body.term body.memory)
    (given : IsSound w caller.term caller.memory) :
    IsSound w (body.instantiate caller).term (body.instantiate caller).memory :=
  (copying w).instantiate (l := caller.memory) given body.term body.memory body.memory sound

theorem blank (w : World) (t : Term) : IsSound w t .blank := by
  induction t using Term.carried_induction with
  | step op operands ih =>
      refine (copying w).vacant (n := .blank) rfl rfl fun p c carried => ?_
      obtain ⟨o, at_, carried⟩ := Option.bind_eq_some_iff.1 carried
      rw [child_blank]
      exact ih o (List.mem_of_getElem? at_) c carried

section

variable {name : String} {d : Definition} {body : Instance}

/-- **A kept expansion is what would be filled in again**, from a definition with the number
and the body of the one that the term calls. -/
theorem expansionFor (sound : IsSound w t m) (isCustom : t.operator = .custom name)
    (found : w.registry.lookup? name = some d) (isTerm : d.body = .expression body)
    {d' : Definition} {body' : Instance} (generation : d'.generation = d.generation)
    (sameTerm : body'.term = body.term) (bodySound : IsSound w body'.term body'.memory) :
    (d'.expansionFor body' t m).term = body.term.instantiate t.operands ∧
      IsSound w (d'.expansionFor body' t m).term (d'.expansionFor body' t m).memory := by
  cases kept : d'.isKept m with
  | false =>
      rw [d'.expansionFor_of_not_isKept body' t kept]
      exact ⟨congrArg (Term.instantiate t.operands) sameTerm, instantiate bodySound sound⟩
  | true =>
      have block := d'.expansionFor_of_isKept body' t kept
      have called : w.registry.lookup? t.name = some d := by
        rw [Term.name, isCustom]
        exact found
      cases sound with
      | intro _ made bodies _ =>
          exact ⟨(made _ _ _ block).body called generation.symm isTerm, bodies _ _ _ block⟩

/-- Keeping an expansion, with what it remembers by now. -/
theorem setExpansion (sound : IsSound w t m) (numbered : w.IsNumbered)
    (isCustom : t.operator = .custom name) (found : w.registry.lookup? name = some d)
    (isTerm : d.body = .expression body) {e : Term}
    (filled : e = body.term.instantiate t.operands) (after : w.Later v) (inside : IsSound v e k) :
    IsSound v t (m.setBlock (some (.expansion d.generation e k))) := by
  have called : t.name = name := by
    rw [Term.name, isCustom]
    rfl
  have made : w.Made t d.generation e := by
    refine ⟨numbered name d found, fun {d' body'} found' _ isTerm' => ?_⟩
    rw [called, found] at found'
    cases found'
    cases isTerm.symm.trans isTerm'
    exact filled
  refine .intro ?_ ?_ ?_ fun p c carried => (sound.later after).child carried
  · rintro _ ⟨⟩
    exact ⟨name, isCustom⟩
  · rintro g e u ⟨⟩
    exact made.later after
  · rintro g e u ⟨⟩
    exact inside

end

end Memory.IsSound

/-! ## Two evaluations -/

namespace Memory

/-- One sound memory, twice. -/
structure Shared (w : World) (t : Term) (m m' : Memory) : Prop where
  numbered : w.IsNumbered
  sound : IsSound w t m
  same : m = m'

/-- Two sound memories of a term without `prev` and `unique`. -/
structure Cached (w : World) (t : Term) (m m' : Memory) : Prop where
  numbered : w.IsNumbered
  stateless : t.IsStateless
  first : IsSound w t m
  second : IsSound w t m'

/-- Evaluation keeps memories sound, whatever the term is. -/
theorem Shared.interchange : Interchange Shared where
  elsewhere registry next := by
    rintro ⟨numbered, sound, rfl⟩
    exact ⟨numbered.elsewhere registry next, sound.elsewhere registry next, rfl⟩
  later after := by
    rintro ⟨numbered, sound, rfl⟩
    exact ⟨numbered.later after, sound.later after, rfl⟩
  child := by
    rintro w t c m _ p ⟨numbered, sound, rfl⟩ carried
    exact ⟨numbered, sound.child carried, rfl⟩
  setChild := by
    rintro w t c m _ k _ p ⟨numbered, sound, rfl⟩ carried ⟨-, inside, rfl⟩
    exact ⟨numbered, sound.setChild carried inside, rfl⟩
  fresh := by
    rintro w t m _ ⟨numbered, sound, rfl⟩
    exact ⟨numbered, sound.fresh, rfl⟩
  previous := by
    rintro w t m _ ⟨numbered, sound, rfl⟩ operator
    exact ⟨rfl, fun v => ⟨numbered, sound.setBlock operator (by rintro _ _ _ ⟨⟩), rfl⟩⟩
  seen := by
    rintro w t m _ ⟨numbered, sound, rfl⟩ operator
    exact ⟨rfl, fun keys => ⟨numbered, sound.setBlock operator (by rintro _ _ _ ⟨⟩), rfl⟩⟩
  pattern := by
    rintro w t m _ ⟨numbered, sound, rfl⟩ operator q
    exact ⟨numbered, sound.setBlock operator (by rintro _ _ _ ⟨⟩), rfl⟩
  call := by
    rintro w t m _ name d d' body body' ⟨numbered, sound, rfl⟩ isCustom found isTerm generation
      sameTerm ⟨-, bodySound, sameMemory⟩
    have sameBody : body' = body := by
      cases body
      cases body'
      rw [Instance.mk.injEq]
      exact ⟨sameTerm, sameMemory.symm⟩
    have same : d'.expansionFor body' t m = d.expansionFor body t m := by
      unfold Definition.expansionFor
      rw [generation, sameBody]
    obtain ⟨filled, inside⟩ := sound.expansionFor isCustom found isTerm rfl rfl bodySound
    rw [same]
    refine ⟨rfl, ⟨numbered, inside, rfl⟩, ?_⟩
    rintro v k _ after ⟨numbered', below, rfl⟩
    exact ⟨numbered', sound.setExpansion numbered isCustom found isTerm filled after below, rfl⟩

/-- **What is kept for speed cannot be noticed.**  Where neither a term nor bodies have `prev`
or `unique`, one sound memory is as good as another. -/
theorem Cached.interchange : Interchange Cached where
  elsewhere registry next := by
    rintro ⟨numbered, stateless, first, second⟩
    exact ⟨numbered.elsewhere registry next, stateless, first.elsewhere registry next,
      second.elsewhere registry next⟩
  later after := by
    rintro ⟨numbered, stateless, first, second⟩
    exact ⟨numbered.later after, stateless, first.later after, second.later after⟩
  child := by
    rintro w t c m m' p ⟨numbered, stateless, first, second⟩ carried
    exact ⟨numbered, stateless.carried carried, first.child carried, second.child carried⟩
  setChild := by
    rintro w t c m m' k k' p ⟨numbered, stateless, first, second⟩ carried
      ⟨-, -, inside, inside'⟩
    exact ⟨numbered, stateless, first.setChild carried inside, second.setChild carried inside'⟩
  fresh := by
    rintro w t m m' ⟨numbered, stateless, first, second⟩
    exact ⟨numbered, stateless, first.fresh, second.fresh⟩
  previous := by
    rintro w t m m' ⟨-, stateless, -, -⟩ operator
    cases stateless.operator _ operator
  seen := by
    rintro w t m m' ⟨-, stateless, -, -⟩ operator
    cases stateless.operator _ operator
  pattern := by
    rintro w t m m' ⟨numbered, stateless, first, second⟩ operator q
    exact ⟨numbered, stateless, first.setBlock operator (by rintro _ _ _ ⟨⟩),
      second.setBlock operator (by rintro _ _ _ ⟨⟩)⟩
  call := by
    rintro w t m m' name d d' body body' ⟨numbered, stateless, first, second⟩ isCustom found
      isTerm generation sameTerm ⟨-, bodyStateless, bodySound, bodySound'⟩
    obtain ⟨filled, inside⟩ := first.expansionFor isCustom found isTerm rfl rfl bodySound
    obtain ⟨filled', inside'⟩ := second.expansionFor isCustom found isTerm generation sameTerm
      (sameTerm ▸ bodySound')
    have sameExpansion := filled'.trans filled.symm
    have statelessBody : (d.expansionFor body t m).term.IsStateless := by
      rw [filled]
      refine bodyStateless.instantiate fun o member c carried => ?_
      cases t
      exact (Term.throughout_mk.1 stateless).2 o member c carried
    rw [sameExpansion] at inside'
    refine ⟨sameExpansion, ⟨numbered, statelessBody, inside, inside'⟩, ?_⟩
    rintro v k k' after ⟨numbered', -, below, below'⟩
    exact ⟨numbered', stateless,
      first.setExpansion numbered isCustom found isTerm filled after below,
      second.setExpansion numbered isCustom found isTerm filled after below'⟩

end Memory

/-! ## Programs -/

/-- Every number of a definition was given out, and bodies remember soundly. -/
structure World.IsSound (w : World) : Prop where
  numbered : w.IsNumbered
  bodies {name : String} {d : Definition} {body : Instance} : w.registry.lookup? name = some d →
    d.body = .expression body → body.memory.IsSound w body.term

/-- A program at work: all instances it has, and the world. -/
structure Session where
  pool : List Instance
  world : World

namespace Session

/-- What a program can do.  Instances stay in the pool, for it may have kept a copy. -/
inductive Step (s : Session) : Session → Prop
  | build (t : Term) : Step s { s with pool := ⟨t, .blank⟩ :: s.pool }
  | fresh {i : Instance} : i ∈ s.pool → Step s { s with pool := i.fresh :: s.pool }
  | instantiate {i caller : Instance} : i ∈ s.pool → caller ∈ s.pool →
      Step s { s with pool := i.instantiate caller :: s.pool }
  /-- An evaluation that succeeds or fails. -/
  | evaluate {i i' : Instance} {result : Except EvalError Value} {w : World}
      (settings : Settings) (rows : List Row) (fact : Fact) : i ∈ s.pool →
      i.evaluate settings rows { s.world with fact } = (result, i', w) →
      Step s ⟨i' :: s.pool, w⟩
  /-- A definition by the host or by a term of the pool. -/
  | define {d : Definition} {w : World} :
      (∀ body, d.body = .expression body → body ∈ s.pool) → s.world.define d = .ok w →
      Step s { s with world := w }
  | redefine {d : Definition} {replaced : Option Definition} {w : World} :
      (∀ body, d.body = .expression body → body ∈ s.pool) →
      s.world.redefine d = .ok (w, replaced) → Step s { s with world := w }
  | undefine {name : String} {removed : Bool} {w : World} :
      s.world.undefine name = .ok (w, removed) → Step s { s with world := w }
  /-- Definitions in other registries, which use up numbers. -/
  | elsewhere (count : Nat) :
      Step s { s with world := { s.world with nextGeneration := s.world.nextGeneration + count } }

/-- The sessions that a program can get to from an engine without definitions. -/
inductive Reachable : Session → Prop
  | start (hosted : List Builtin) (nextGeneration : Nat) :
      Reachable ⟨[], { registry := { hosted }, nextGeneration }⟩
  | step {s s' : Session} : Reachable s → Step s s' → Reachable s'

/-- Everything a program has remembers soundly. -/
structure IsSound (s : Session) : Prop where
  world : s.world.IsSound
  pool : ∀ i ∈ s.pool, i.memory.IsSound s.world i.term

end Session

namespace World.IsSound

variable {w : World}

/-- A world with the same registry and numbers. -/
theorem alike (sound : w.IsSound) {v : World} (registry : v.registry = w.registry)
    (next : v.nextGeneration = w.nextGeneration) : v.IsSound where
  numbered := sound.numbered.elsewhere (congrArg Registry.bare registry.symm) next.symm
  bodies found isTerm := .elsewhere (congrArg Registry.bare registry.symm) next.symm
    (sound.bodies (registry ▸ found) isTerm)

theorem against (sound : w.IsSound) (fact : Fact) : World.IsSound { w with fact } :=
  sound.alike rfl rfl

theorem adding (sound : w.IsSound) {d : Definition}
    (body : ∀ body, d.body = .expression body → body.memory.IsSound w body.term) :
    (w.adding d).IsSound where
  numbered := sound.numbered.later (later_adding w d)
  bodies {name e body'} found isTerm := by
    refine .later (later_adding w d) ?_
    rw [lookup?_adding] at found
    split at found
    · cases found
      exact body body' isTerm
    · exact sound.bodies found isTerm

theorem removing (sound : w.IsSound) {name : String} (later : w.Later (w.removing name)) :
    (w.removing name).IsSound where
  numbered := sound.numbered.later later
  bodies {other d body} found isTerm := by
    refine .later later ?_
    rw [registry_removing] at found
    have at_ := (Registry.lookup?_filter w.registry name other).symm.trans found
    split at at_
    · cases at_
    · exact sound.bodies at_ isTerm

/-- Numbers used up elsewhere. -/
theorem later_elsewhere (w : World) (count : Nat) :
    w.Later { w with nextGeneration := w.nextGeneration + count } :=
  fun _ => .of_registry [] rfl (Nat.le_add_right _ _) rfl rfl

theorem elsewhere (sound : w.IsSound) (count : Nat) :
    World.IsSound { w with nextGeneration := w.nextGeneration + count } where
  numbered := sound.numbered.later (later_elsewhere w count)
  bodies found isTerm := .later (later_elsewhere w count) (sound.bodies found isTerm)

/-- A sound memory in a sound world is as good as itself, and no other is. -/
theorem paired_shared_iff {t : Term} {s : State} :
    State.Paired Memory.Shared t s s ↔ s.world.IsSound ∧ s.memory.IsSound s.world t := by
  constructor
  · rintro ⟨world, memory⟩
    exact ⟨⟨memory.numbered, fun found isBody =>
      (world.bodies found found isBody isBody).sound⟩, memory.sound⟩
  · rintro ⟨world, memory⟩
    refine ⟨.self fun _ _ _ found isBody => ?_, world.numbered, memory, rfl⟩
    exact ⟨world.numbered, world.bodies found isBody, rfl⟩

/-- **Evaluations leave everything sound**, whether they succeed or fail. -/
theorem evaluate (sound : w.IsSound) {i : Instance} (memory : i.memory.IsSound w i.term)
    (settings : Settings) (rows : List Row) :
    let after := i.evaluate settings rows w
    after.2.2.IsSound ∧ after.2.1.memory.IsSound after.2.2 after.2.1.term ∧ w.Later after.2.2 := by
  have later : w.Later (i.evaluate settings rows w).2.2 := fun name =>
    evalAt_lasting (follows_lasting name) settings (settings.maxDepth + 1) ⟨rows, 0⟩ i.term
      ⟨i.memory, w⟩
  have start : State.Paired Memory.Shared i.term ⟨i.memory, w⟩ ⟨i.memory, w⟩ :=
    paired_shared_iff.2 ⟨sound, memory⟩
  have after := (evalAt_respects Memory.Shared.interchange settings (settings.maxDepth + 1)
    ⟨rows, 0⟩ i.term _ _ start).state
  obtain ⟨worldAfter, memoryAfter⟩ := paired_shared_iff.1 after
  exact ⟨worldAfter, memoryAfter, later⟩

end World.IsSound

namespace Session

variable {s s' : Session}

/-- A new instance in the same world. -/
theorem IsSound.join (sound : s.IsSound) {i : Instance} (memory : i.memory.IsSound s.world i.term) :
    IsSound { s with pool := i :: s.pool } := by
  refine ⟨sound.world, fun j member => ?_⟩
  rcases List.mem_cons.1 member with rfl | member
  · exact memory
  · exact sound.pool j member

/-- **What one step keeps sound.** -/
theorem Step.isSound (step : Step s s') (sound : s.IsSound) : s'.IsSound := by
  have ⟨world, pool⟩ := sound
  -- The same instances in a later world.
  have move {w : World} (worldSound : w.IsSound) (later : s.world.Later w) :
      IsSound { s with world := w } := ⟨worldSound, fun i member => (pool i member).later later⟩
  cases step with
  | build t => exact sound.join (.blank s.world t)
  | fresh member => exact sound.join (pool _ member).fresh
  | instantiate member member' => exact sound.join ((pool _ member).instantiate (pool _ member'))
  | evaluate settings rows fact member ran =>
      obtain ⟨worldSound, kept, later⟩ :=
        (world.against fact).evaluate ((pool _ member).against fact) settings rows
      rw [ran] at worldSound kept later
      have later : s.world.Later _ := later
      refine ⟨worldSound, fun j member => ?_⟩
      rcases List.mem_cons.1 member with rfl | member
      · exact kept
      · exact (pool j member).later later
  | define bodies made =>
      obtain ⟨-, -, rfl⟩ := World.define_eq_ok.1 made
      exact move (world.adding fun body isTerm => pool body (bodies body isTerm))
        (World.later_adding s.world _)
  | redefine bodies made =>
      obtain ⟨-, -, rfl⟩ := World.redefine_eq_ok.1 made
      exact move (world.adding fun body isTerm => pool body (bodies body isTerm))
        (World.later_adding s.world _)
  | @undefine name removed w done =>
      have later : s.world.Later w := fun _ => World.follows_undefine done
      obtain ⟨-, -, rfl⟩ := World.undefine_eq_ok.1 done
      exact move (world.removing later) later
  | elsewhere count =>
      exact move (world.elsewhere count) (World.IsSound.later_elsewhere s.world count)

theorem Reachable.isSound (reachable : s.Reachable) : s.IsSound := by
  induction reachable with
  | start hosted nextGeneration =>
      have none_ (name : String) (d : Definition) :
          Registry.lookup? { hosted } name ≠ some d := nofun
      exact ⟨⟨fun name d found => absurd found (none_ name d),
        fun found => absurd found (none_ _ _)⟩, fun i member => nomatch member⟩
  | step _ step ih => exact step.isSound ih

/-- **Caches are invisible.**  Take whatever a program can get to by building, copying and
evaluating instances, against any facts and rows and with any failures, and by defining,
replacing and removing operators in between.  If neither an instance nor the body of an
operator registered has `prev` or `unique` at any depth, then evaluating the instance gives
the value or error that evaluating a newly built term of its shape gives, and leaves the same
fact and the same operators. -/
theorem evaluate_used (reachable : s.Reachable) {i : Instance} (member : i ∈ s.pool)
    (stateless : i.term.IsStateless)
    (bodies : ∀ d ∈ s.world.registry.custom, ∀ body, d.body = .expression body →
      body.term.IsStateless)
    (settings : Settings) (rows : List Row) (fact : Fact) :
    let used := i.evaluate settings rows { s.world with fact }
    let built := Instance.evaluate settings rows ⟨i.term, .blank⟩ { s.world with fact }
    used.1 = built.1 ∧ used.2.2.fact = built.2.2.fact ∧
      used.2.2.registry.bare = built.2.2.registry.bare := by
  obtain ⟨world, pool⟩ := reachable.isSound
  have against := world.against fact
  have start : State.Paired Memory.Cached i.term ⟨i.memory, { s.world with fact }⟩
      ⟨.blank, { s.world with fact }⟩ := by
    refine ⟨.self fun name d body found isTerm => ?_, against.numbered, stateless,
      (pool i member).against fact, .blank _ _⟩
    have bodySound := against.bodies found isTerm
    exact ⟨against.numbered, bodies d (Registry.mem_of_lookup? found) body isTerm, bodySound,
      bodySound⟩
  obtain ⟨result, after⟩ := evalAt_respects Memory.Cached.interchange settings
    (settings.maxDepth + 1) ⟨rows, 0⟩ i.term _ _ start
  exact ⟨result, after.world.fact, after.world.registry⟩

/-- `(hit k)` after `hit` was `(exists $0)`, was called, and became `(absent $0)`: the expansion
kept is of the first, and the call runs the second. -/
theorem evaluate_used_redefined :
    let call : Term := .mk (.custom "hit") [.field "k"]
    ∃ (s : Session) (i : Instance), s.Reachable ∧ i ∈ s.pool ∧ i.term = call ∧
      i.memory.block.isSome = true ∧ i.term.IsStateless ∧
      (∀ d ∈ s.world.registry.custom, ∀ body, d.body = .expression body →
        body.term.IsStateless) ∧
      let used := i.evaluate {} [] { s.world with fact := .empty }
      let built := Instance.evaluate {} [] ⟨i.term, .blank⟩ { s.world with fact := .empty }
      used.1 = .ok (.boolean true) ∧ used.1 = built.1 ∧ used.2.2.fact = built.2.2.fact ∧
        used.2.2.registry.bare = built.2.2.registry.bare := by
  intro call
  let present : Instance := ⟨.mk (.builtin .present) [.placeholder 0], .blank⟩
  let absent : Instance := ⟨.mk (.builtin .absent) [.placeholder 0], .blank⟩
  let hit (body : Instance) : Definition :=
    { name := "hit", body := .expression body, arity := .exactly 1 }
  let built : World := { registry := { hosted := Registry.standard.hosted } }
  let defined : World := built.adding (hit present)
  let called := Instance.evaluate {} [] ⟨call, .blank⟩ { defined with fact := .empty }
  let last : Session :=
    ⟨[called.2.1, ⟨call, .blank⟩, absent, present], called.2.2.adding (hit absent)⟩
  have fromPool {body : Instance} {pool : List Instance} (member : body ∈ pool) :
      ∀ b, (hit body).body = .expression b → b ∈ pool := by
    rintro _ ⟨⟩
    exact member
  have named : Registry.checkName "hit" = .ok () := rfl
  have made : built.define (hit present) = .ok defined :=
    World.define_eq_ok.2 ⟨named, rfl, rfl⟩
  have redefined : called.2.2.redefine (hit absent) =
      .ok (called.2.2.adding (hit absent), called.2.2.registry.lookup? "hit") :=
    World.redefine_eq_ok.2 ⟨named, rfl, rfl⟩
  have ready : Reachable ⟨[⟨call, .blank⟩, absent, present], defined⟩ :=
    .step (.step (.step (.step (.start Registry.standard.hosted 1) (.build present.term))
      (.build absent.term)) (.build call)) (.define (fromPool (by simp [present])) made)
  have ran : Instance.evaluate {} [] ⟨call, .blank⟩ { defined with fact := .empty } =
      (called.1, called.2.1, called.2.2) := rfl
  have reachable : last.Reachable :=
    .step (.step ready (.evaluate {} [] .empty (by simp) ran))
      (.redefine (fromPool (by simp [absent])) redefined)
  have leaf (op : Operator) (o : Operand) (own : ∀ b, op = .builtin b → b.isStateful = false)
      (data : o.carried? = none) : (Term.mk op [o]).IsStateless := by
    refine Term.throughout_mk.2 ⟨own, fun o' member t carried => ?_⟩
    rw [List.mem_singleton.1 member, data] at carried
    cases carried
  have stateless : call.IsStateless := leaf _ _ (fun b is => by cases is) rfl
  have bodies : ∀ d ∈ last.world.registry.custom, ∀ body, d.body = .expression body →
      body.term.IsStateless := by
    intro d member body isTerm
    obtain rfl := List.mem_singleton.1 member
    cases isTerm
    exact leaf _ _ (fun b is => by cases is; rfl) rfl
  exact ⟨last, called.2.1, reachable, List.mem_cons_self, rfl, rfl, stateless, bodies, rfl,
    evaluate_used reachable List.mem_cons_self stateless bodies {} [] .empty⟩

end Session

end FactScan
