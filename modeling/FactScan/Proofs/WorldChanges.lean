/-
# FactScan.Proofs.WorldChanges — what an evaluation does to the world

Whatever a term is, its evaluation changes the world only by records, by appending to the
fact, and by defining and removing operators.  So a relation between the world before and
the world after that these changes have (`World.Lasting`) relates the two ends of every
evaluation, successful or not: `evalAt_lasting`.

Its first use is that the log only grows (`World.logGrows_lasting`), so that what happened
between two moments can be read off it: `World.since`.
-/
import FactScan.Proofs.Dispatch
import FactScan.Proofs.Parametricity

namespace FactScan

set_option autoImplicit false

/-- A relation between worlds, earlier and later, that every change an evaluation makes
has, as long as it appends only to certain fields and comes only to certain operators. -/
structure World.Lasting (I : World → World → Prop) (appends : String → Prop := fun _ => True)
    (operators : Builtin → Prop := fun _ => True) : Prop where
  refl (w : World) : I w w
  trans {u v w : World} : I u v → I v w → I u w
  note (w : World) {r : Record} : (∀ name, r.changes name = false) → I w (w.note r)
  append {w : World} {field : String} {a : Scalar} {fact : Fact} : appends field →
    w.fact.append? field a = some fact → I w { w with fact }
  define {w w' : World} {name : String} {body : Instance} : operators .define →
    w.define (.ofTerm name body) = .ok w' → I w w'
  undefine {w w' : World} {name : String} {removed : Bool} : operators .undefine →
    w.undefine name = .ok (w', removed) → I w w'
  /-- What is done against another fact. -/
  against {w w' : World} {fact : Fact} : I { w with fact } w' → I w { w' with fact := w.fact }

namespace World.Lasting

variable {I I' : World → World → Prop} {appends : String → Prop} {operators : Builtin → Prop}

theorem restrict (T : Lasting I) : Lasting I appends operators :=
  { T with
    append := fun _ => T.append trivial
    define := fun _ => T.define trivial
    undefine := fun _ => T.undefine trivial }

theorem and (T : Lasting I appends operators) (T' : Lasting I' appends operators) :
    Lasting (fun w w' => I w w' ∧ I' w w') appends operators where
  refl w := ⟨T.refl w, T'.refl w⟩
  trans first second := ⟨T.trans first.1 second.1, T'.trans first.2 second.2⟩
  note w _ harmless := ⟨T.note w harmless, T'.note w harmless⟩
  append named appended := ⟨T.append named appended, T'.append named appended⟩
  define allowed made := ⟨T.define allowed made, T'.define allowed made⟩
  undefine allowed done := ⟨T.undefine allowed done, T'.undefine allowed done⟩
  against lasted := ⟨T.against lasted.1, T'.against lasted.2⟩

end World.Lasting

namespace Act

/-- An act under which a relation between worlds lasts. -/
def Keeps (I : World → World → Prop) (α : Type) (act : Unit → Act α) : Prop :=
  ∀ s : State, I s.world (act () s).2.world

variable {I : World → World → Prop} {appends : String → Prop} {operators : Builtin → Prop}

theorem Keeps.closed (T : World.Lasting I appends operators) : Closed (Keeps I) where
  pure a := fun s => T.refl s.world
  fail _ := fun s => T.refl s.world
  bind {_ _ act f} keeps next := by
    intro s
    have first := keeps s
    rcases bind_cases (act ()) (f ()) s with ⟨a, s₁, ha, hb⟩ | ⟨e, s₁, ha, hb⟩
    · show I s.world ((act () >>= f ()) s).2.world
      rw [ha] at first
      rw [hb]
      exact T.trans first (next a s₁)
    · show I s.world ((act () >>= f ()) s).2.world
      rw [ha] at first
      rw [hb]
      exact first
  overlay row act keeps := fun s =>
    T.against (keeps { s with world := { s.world with fact := .overlay row s.world.fact } })
  vacant keeps := fun s =>
    T.against (keeps { s with world := { s.world with fact := .empty } })

theorem Keeps.looks (T : World.Lasting I appends operators) (field : String) :
    Looks (Keeps I) field where
  read s := T.refl s.world
  holds s := T.refl s.world

theorem Keeps.permitted (T : World.Lasting I appends operators) (level : Level) (term : Term)
    {b : Builtin} (allowed : operators b)
    (named : b = .assign → ∀ field, term.operand? 0 = some (.field field) → appends field) :
    b.Permitted (Keeps I) level fun _ => term where
  exchange _ v := fun s => T.refl s.world
  collect _ keys := fun s => T.refl s.world
  pattern _ source := by
    intro s
    have h : (Operators.patternOf source s).2.world = s.world := by
      rw [Operators.patternOf_apply]
      split
      · rfl
      · split <;> rfl
    show I s.world (Operators.patternOf source s).2.world
    rw [h]
    exact T.refl s.world
  append is field at_ a := by
    intro s
    show I s.world (Act.append field a s).2.world
    unfold Act.append
    cases h : s.world.fact.append? field a with
    | some fact => exact T.append (named is field (at_ ())) h
    | none => exact T.refl s.world
  define is := by
    intro s
    show I s.world (Operators.define term s).2.world
    rcases Operators.define_cases term with ⟨e, _, run⟩ | ⟨name, body, -, run⟩
    · rw [run]
      exact T.refl s.world
    · rw [run]
      split
      · rename_i made
        exact T.define (is ▸ allowed) made
      · exact T.refl s.world
  undefine is name := by
    intro s
    show I s.world (Act.change (fun w => (w.undefine name).map (·.1)) s).2.world
    cases h : s.world.undefine name with
    | ok r =>
        rw [Act.undefine_ok h]
        exact T.undefine (is ▸ allowed) h
    | error e =>
        rw [Act.undefine_error h]
        exact T.refl s.world
  kept _ k n := fun s => T.note s.world fun _ => rfl
  traced _ v := fun s => T.note s.world fun _ => rfl

/-- Operands keep what evaluations keep. -/
theorem Keeps.counterparts (T : World.Lasting I) {evaluate : Evaluator}
    (below : ∀ site t, Keeps I Value fun _ => evaluate site t) (depth : Nat) (term : Term) :
    Counterparts (Keeps I) (fun _ => evaluate) (fun _ => depth) fun _ => term := by
  have child (p : Nat) (c : Term) (rows : List Row) : Keeps I Value fun _ =>
      atChild p (evaluate ⟨rows, depth + 1⟩ c) :=
    fun s => below ⟨rows, depth + 1⟩ c { s with memory := s.memory.child p }
  exact .ofTerm (fun p c _ => child p c) (fun _ name _ => Keeps.looks T name)
    (fun _ s => T.refl s.world) fun _ _ s => T.refl s.world

end Act

/-- Filling in a definition changes the world by a record at most. -/
theorem Definition.worldFor_lasting {I : World → World → Prop} {appends : String → Prop}
    {operators : Builtin → Prop} (T : World.Lasting I appends operators) (d : Definition)
    (term : Term) (m : Memory) (w : World) : I w (d.worldFor term m w) := by
  rcases d.worldFor_cases term m w with same | noted
  · rw [same]
    exact T.refl w
  · rw [noted]
    exact T.note w fun _ => rfl

/-- A call of a custom operator keeps what evaluations keep. -/
theorem Definition.run_lasting {I : World → World → Prop} (T : World.Lasting I)
    {evaluate : Evaluator} {site : Site} {term : Term}
    (below : ∀ site t, Act.Keeps I Value fun _ => evaluate site t) (d : Definition) :
    Act.Keeps I Value fun _ => d.run evaluate site term := by
  intro s
  cases admitted : d.arity.admits term.arity with
  | false =>
      show I s.world (d.run evaluate site term s).2.world
      rw [Definition.run_refused admitted]
      exact T.refl s.world
  | true =>
      cases isBody : d.body with
      | expression body =>
          show I s.world (d.run evaluate site term s).2.world
          rw [Definition.run_expression isBody admitted]
          exact T.trans (d.worldFor_lasting T term s.memory s.world)
            (below site.deeper (d.expansionFor body term s.memory).term
              ⟨(d.expansionFor body term s.memory).memory, d.worldFor term s.memory s.world⟩)
      | native run =>
          have L := Act.Keeps.closed T
          have C := Act.Keeps.counterparts T below site.depth term
          have args : Act.Keeps I (List Value) fun _ =>
              resolveAll evaluate site term term.positions :=
            resolveAll_closed L.toComposes C term.positions
          have all : Act.Keeps I Value fun _ => d.run evaluate site term := by
            rw [Definition.run_native isBody admitted]
            refine L.bind args fun args => ?_
            intro s
            show I s.world (Act.ofExcept (run args s.world.fact site.rows) s).2.world
            cases run args s.world.fact site.rows <;> exact T.refl s.world
          exact all s

/-- **What every change of the world has, every evaluation has**, from its start to its end,
whether it succeeds or fails. -/
theorem evalAt_lasting {I : World → World → Prop} (T : World.Lasting I) (settings : Settings) :
    ∀ levels site term, Act.Keeps I Value fun _ => evalAt settings levels site term
  | 0, site, term => fun s => T.refl s.world
  | levels + 1, site, term => by
      intro s
      have below := evalAt_lasting T settings levels
      have L := Act.Keeps.closed T
      have C := Act.Keeps.counterparts T below site.depth term
      have noted : I s.world (s.world.note (.dispatched site.depth term)) :=
        T.note s.world fun _ => rfl
      refine T.trans noted ?_
      show I _ (dispatch settings (evalAt settings levels) site term s).2.world
      cases operator : term.operator with
      | builtin b =>
          cases hosted : s.world.registry.hosts b with
          | false =>
              rw [dispatch_unhosted operator hosted]
              exact T.refl _
          | true =>
              rw [dispatch_builtin operator hosted, Act.mapError_state]
              have run : Act.Keeps I Value fun _ =>
                  b.run settings (evalAt settings levels) site term :=
                Builtin.run_closed L C settings b
                  (Act.Keeps.permitted T _ term trivial fun _ _ _ => trivial)
              exact run ⟨s.memory, s.world.note (.dispatched site.depth term)⟩
      | custom name =>
          cases found : s.world.registry.lookup? name with
          | none =>
              rw [dispatch_undefined operator found]
              exact T.refl _
          | some d =>
              rw [dispatch_custom operator found, Act.mapError_state]
              exact Definition.run_lasting T below d
                ⟨s.memory, s.world.note (.dispatched site.depth term)⟩

/-! ## The log -/

namespace World

/-- The records made between two moments, the latest first. -/
def since (before after : World) : List Record :=
  after.log.take (after.log.length - before.log.length)

theorem since_eq {before after : World} {new : List Record}
    (grown : after.log = new ++ before.log) : before.since after = new := by
  unfold since
  rw [grown, List.length_append, Nat.add_sub_cancel, List.take_left]

theorem logGrows_lasting : Lasting fun before after => ∃ new, after.log = new ++ before.log where
  refl w := ⟨[], rfl⟩
  trans := by
    rintro u v w ⟨new, hv⟩ ⟨new', hw⟩
    exact ⟨new' ++ new, by rw [hw, hv, List.append_assoc]⟩
  note w r _ := ⟨[r], rfl⟩
  append _ _ := ⟨[], rfl⟩
  define {w w' name body} _ made := by
    obtain ⟨-, -, rfl⟩ := define_eq_ok.1 made
    exact ⟨[.defined (.ofTerm name body)], rfl⟩
  undefine {w w' name removed} _ done := by
    obtain ⟨-, -, rfl⟩ := undefine_eq_ok.1 done
    dsimp only
    split
    · exact ⟨[.undefined name], rfl⟩
    · exact ⟨[], rfl⟩
  against h := h

end World

end FactScan
