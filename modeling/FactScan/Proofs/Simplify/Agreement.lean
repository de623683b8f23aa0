/-
# FactScan.Proofs.Simplify.Agreement — acts that follow one another

A term and its simplified form are evaluated side by side, each in a world of its own.
`World.Agrees` says that the two worlds differ in nothing but records that make no
definition, and `Act.Follows` that whenever the first act succeeds, the second does, with
the same result, in worlds that agree again.  The property is closed under the steps of
operators (`Act.Follows.closed`), whatever relation of memories it carries along.

Simplification is sound only as long as no definition holds a `defn` of its own, since what
such a one defines holds the operands of the calling term, and only where the constants that
it puts in can be evaluated.  So the first act is only looked at in worlds that are ready for
it (`World.Ready`), and as far as the definitions it makes are tame.
-/
import FactScan.Proofs.WorldChanges

namespace FactScan

set_option autoImplicit false

/-! ## Worlds -/

/-- No `defn` in the body of a definition, terms carried as data aside. -/
def Definition.IsTame (d : Definition) : Prop :=
  ∀ body, d.body = .expression body → ∀ t ∈ body.term.walk, t.operator ≠ .builtin .define

namespace World

/-- Worlds that differ at most in records that make no definition. -/
structure Agrees (w w' : World) : Prop where
  fact : w.fact = w'.fact
  registry : w.registry = w'.registry
  next : w.nextGeneration = w'.nextGeneration
  made : w.log.filterMap Record.definition? = w'.log.filterMap Record.definition?

namespace Agrees

variable {u v w w' : World}

theorem refl (w : World) : Agrees w w := ⟨rfl, rfl, rfl, rfl⟩

theorem symm (h : Agrees w w') : Agrees w' w :=
  ⟨h.fact.symm, h.registry.symm, h.next.symm, h.made.symm⟩

theorem trans (h : Agrees u v) (h' : Agrees v w) : Agrees u w :=
  ⟨h.fact.trans h'.fact, h.registry.trans h'.registry, h.next.trans h'.next,
    h.made.trans h'.made⟩

/-- A record that makes no definition. -/
theorem noted (w : World) {r : Record} (idle : r.definition? = none) : Agrees w (w.note r) :=
  ⟨rfl, rfl, rfl, by simp [World.note, idle]⟩

theorem note (h : Agrees w w') {r r' : Record} (idle : r.definition? = none)
    (idle' : r'.definition? = none) : Agrees (w.note r) (w'.note r') :=
  ((noted w idle).symm.trans h).trans (noted w' idle')

theorem against (h : Agrees w w') (fact : Fact) :
    Agrees { w with fact } { w' with fact } :=
  ⟨rfl, h.registry, h.next, h.made⟩

/-- A definition made in one world is made in the other, under the same number. -/
theorem define (h : Agrees w w') {d : Definition} {v : World} (made : w.define d = .ok v) :
    ∃ v', w'.define d = .ok v' ∧ Agrees v v' := by
  obtain ⟨named, free, rfl⟩ := define_eq_ok.1 made
  have same : w.numbered d = w'.numbered d := by simp [numbered, h.next]
  refine ⟨_, define_eq_ok.2 ⟨named, h.registry ▸ free, rfl⟩, ?_⟩
  refine ⟨h.fact, ?_, ?_, ?_⟩
  · show Registry.mk _ _ = Registry.mk _ _
    rw [h.registry, same]
  · show _ + 1 = _ + 1
    rw [h.next]
  · show List.filterMap _ (_ :: _) = List.filterMap _ (_ :: _)
    rw [List.filterMap_cons, List.filterMap_cons, h.made]

theorem undefine (h : Agrees w w') {name : String} {v : World} {removed : Bool}
    (done : w.undefine name = .ok (v, removed)) :
    ∃ v', w'.undefine name = .ok (v', removed) ∧ Agrees v v' := by
  obtain ⟨custom, rfl, rfl⟩ := undefine_eq_ok.1 done
  refine ⟨_, undefine_eq_ok.2 ⟨custom, by rw [h.registry], rfl⟩, ?_⟩
  have rest : Agrees { w with registry := { w.registry with
        custom := w.registry.custom.filter (·.name != name) } }
      { w' with registry := { w'.registry with
        custom := w'.registry.custom.filter (·.name != name) } } := by
    refine ⟨h.fact, ?_, h.next, h.made⟩
    rw [h.registry]
  dsimp only
  rw [← h.registry] at rest ⊢
  split
  · exact rest.note rfl rfl
  · exact rest

end Agrees

/-- All definitions made so far are tame. -/
def Tame (w : World) : Prop := ∀ d ∈ w.log.filterMap Record.definition?, d.IsTame

/-- Constants can be evaluated, and all definitions are tame. -/
structure Ready (w : World) : Prop where
  hosted : w.registry.hosts .const = true
  tame : ∀ d ∈ w.registry.custom, d.IsTame

theorem tame_of_log {w : World} (registered : ∀ d, Record.defined d ∈ w.log → d.IsTame) :
    w.Tame := by
  intro d made
  obtain ⟨r, inside, is⟩ := List.mem_filterMap.1 made
  cases r with
  | defined d' =>
      cases is
      exact registered d inside
  | _ => cases is

theorem Agrees.tame {w w' : World} (h : Agrees w w') (tame : w.Tame) : w'.Tame := by
  unfold Tame at *
  rw [← h.made]
  exact tame

theorem Agrees.ready {w w' : World} (h : Agrees w w') (ready : w.Ready) : w'.Ready := by
  obtain ⟨hosted, tame⟩ := ready
  rw [h.registry] at hosted tame
  exact ⟨hosted, tame⟩

/-- From one moment to a later one: the log grows, and while definitions are tame, a world
stays ready. -/
def StaysReady (before after : World) : Prop :=
  (∃ new, after.log = new ++ before.log) ∧ (after.Tame → before.Ready → after.Ready)

theorem Tame.earlier {before after : World} (grown : ∃ new, after.log = new ++ before.log)
    (tame : after.Tame) : before.Tame := by
  obtain ⟨new, log⟩ := grown
  intro d made
  refine tame d ?_
  rw [log, List.filterMap_append]
  exact List.mem_append_right _ made

theorem staysReady_lasting : Lasting StaysReady where
  refl w := ⟨logGrows_lasting.refl w, fun _ ready => ready⟩
  trans first second := by
    refine ⟨logGrows_lasting.trans first.1 second.1, fun tame ready => ?_⟩
    exact second.2 tame (first.2 (Tame.earlier second.1 tame) ready)
  note w r quiet := ⟨logGrows_lasting.note w quiet, fun _ ready => ⟨ready.hosted, ready.tame⟩⟩
  append named h := ⟨logGrows_lasting.append named h, fun _ ready => ⟨ready.hosted, ready.tame⟩⟩
  define {w w' name body} allowed made := by
    refine ⟨logGrows_lasting.define allowed made, fun tame ready => ?_⟩
    obtain ⟨-, -, rfl⟩ := define_eq_ok.1 made
    exact ⟨ready.hosted, forall_adding ready.tame (tame (.ofTerm name body) List.mem_cons_self)⟩
  undefine allowed done := by
    refine ⟨logGrows_lasting.undefine allowed done, fun _ ready => ?_⟩
    obtain ⟨-, -, rfl⟩ := undefine_eq_ok.1 done
    dsimp only
    split <;> exact ⟨ready.hosted, fun d member => ready.tame d (List.mem_filter.1 member).1⟩
  against h := by
    refine ⟨h.1, fun tame ready => ?_⟩
    have ready' := h.2 tame ⟨ready.hosted, ready.tame⟩
    exact ⟨ready'.hosted, ready'.tame⟩

end World

/-! ## Acts -/

namespace Act

/-- Two acts, of which the first is `true`: as long as the first succeeds and makes tame
definitions, the second gives the same.  `M` relates the memories they work on. -/
def Follows (M : Memory → Memory → Prop) (α : Type) (act : Bool → Act α) : Prop :=
  Keeps World.StaysReady α (fun _ => act true) ∧
    ∀ (s s' : State) (a : α) (s₁ : State), M s.memory s'.memory → s.world.Agrees s'.world →
      s.world.Ready → act true s = (.ok a, s₁) → s₁.world.Tame →
        ∃ s₁', act false s' = (.ok a, s₁') ∧ M s₁.memory s₁'.memory ∧
          s₁.world.Agrees s₁'.world

variable {M : Memory → Memory → Prop}

/-- Acts that follow one another do so against another fact, too. -/
theorem Follows.withFact {α : Type} {act : Bool → Act α} (follows : Follows M α act)
    (fact : Fact) {s s' s₁ : State} {a : α} (memory : M s.memory s'.memory)
    (agrees : s.world.Agrees s'.world) (ready : s.world.Ready)
    (ran : Act.withFact fact (act true) s = (.ok a, s₁)) (tame : s₁.world.Tame) :
    ∃ s₁', Act.withFact fact (act false) s' = (.ok a, s₁') ∧ M s₁.memory s₁'.memory ∧
      s₁.world.Agrees s₁'.world := by
  rw [withFact_apply] at ran
  rcases ran₁ : act true { s with world := { s.world with fact } } with ⟨result, s₂⟩
  rw [ran₁] at ran
  cases ran
  obtain ⟨s₂', ran₂, memory₂, agrees₂⟩ := follows.2 { s with world := { s.world with fact } }
    { s' with world := { s'.world with fact } } a s₂ memory (agrees.against fact)
    ⟨ready.hosted, ready.tame⟩ ran₁ tame
  refine ⟨{ s₂' with world := { s₂'.world with fact := s'.world.fact } }, ?_, memory₂, ?_⟩
  · rw [withFact_apply, ran₂]
  · rw [← agrees.fact]
    exact agrees₂.against s.world.fact

theorem Follows.closed (M : Memory → Memory → Prop) : Closed (Follows M) where
  pure a := by
    refine ⟨(Keeps.closed World.staysReady_lasting).pure a, ?_⟩
    rintro s s' _ _ memory agrees - ⟨⟩ -
    exact ⟨s', rfl, memory, agrees⟩
  fail loc := by
    refine ⟨(Keeps.closed World.staysReady_lasting).fail loc, ?_⟩
    rintro s s' _ _ - - - ⟨⟩
  bind {_ _ act f} first next := by
    refine ⟨(Keeps.closed World.staysReady_lasting).bind first.1 fun a => (next a).1, ?_⟩
    intro s s' b s₂ memory agrees ready ran tame
    obtain ⟨a, s₁, ran₁, ran₂⟩ :
        ∃ a s₁, act true s = (.ok a, s₁) ∧ f true a s₁ = (.ok b, s₂) := bind_eq_ok ran
    have kept₁ := first.1 s
    have kept₂ := (next a).1 s₁
    simp only [ran₁] at kept₁
    simp only [ran₂] at kept₂
    -- What the first part defines is tame because all that is defined in the end is.
    have tame₁ := World.Tame.earlier kept₂.1 tame
    obtain ⟨s₁', ran₁', memory₁, agrees₁⟩ := first.2 s s' a s₁ memory agrees ready ran₁ tame₁
    obtain ⟨s₂', ran₂', last⟩ :=
      (next a).2 s₁ s₁' b s₂ memory₁ agrees₁ (kept₁.2 tame₁ ready) ran₂ tame
    exact ⟨s₂', (bind_ok ran₁' _).trans ran₂', last⟩
  overlay {_} row {act} follows := by
    refine ⟨(Keeps.closed World.staysReady_lasting).overlay row follows.1, ?_⟩
    intro s s' a s₁ memory agrees ready ran tame
    have followed := follows.withFact (.overlay row s.world.fact) memory agrees ready ran tame
    rw [agrees.fact] at followed
    exact followed
  vacant {_ act} follows := by
    refine ⟨(Keeps.closed World.staysReady_lasting).vacant follows.1, ?_⟩
    intro s s' a s₁ memory agrees ready ran tame
    exact follows.withFact .empty memory agrees ready ran tame

theorem Follows.looks (M : Memory → Memory → Prop) (field : String) :
    Looks (Follows M) field where
  read := by
    refine ⟨(Keeps.looks World.staysReady_lasting field).read, ?_⟩
    rintro s s' _ _ memory agrees - ⟨⟩ -
    refine ⟨s', ?_, memory, agrees⟩
    rw [agrees.fact]
    rfl
  holds := by
    refine ⟨(Keeps.looks World.staysReady_lasting field).holds, ?_⟩
    rintro s s' _ _ memory agrees - ⟨⟩ -
    refine ⟨s', ?_, memory, agrees⟩
    rw [agrees.fact]
    rfl

end Act

end FactScan
