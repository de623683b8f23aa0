/-
# FactScan.Proofs.Programs — every call a program comes to make

A program has instances, which it builds, evaluates and copies (`Session.Step`), takes apart
and puts together again (`Session.Attainable`).  Evaluating one makes calls, and these make
calls in turn: `Call.Arises` says which calls there are, and so in which states terms are found
anywhere inside an evaluation, with whatever happened before.

What `Session.Reachable.isSound` says of instances between evaluations is so of all these
calls (`Call.Arises.isSound`), for a sound state hands on sound ones to the calls it makes
(`State.paired_inherited`).
-/
import FactScan.Proofs.Caches
import FactScan.Proofs.Facts.Growth

namespace FactScan

set_option autoImplicit false

/-- Sessions of programs that also work with the operands of their terms. -/
inductive Session.Attainable : Session → Prop
  | start (hosted : List Builtin) (nextGeneration : Nat) :
      Attainable ⟨[], { registry := { hosted }, nextGeneration }⟩
  | step {s s' : Session} : Attainable s → Step s s' → Attainable s'
  /-- An operand is taken out of a term. -/
  | take {s : Session} {i : Instance} {c : Term} {p : Nat} : Attainable s → i ∈ s.pool →
      (i.term.operand? p).bind Operand.carried? = some c →
      Attainable { s with pool := ⟨c, i.memory.child p⟩ :: s.pool }
  /-- An operand is put into a term that is built around it, or back after it was used. -/
  | put {s : Session} {i : Instance} {c : Term} {k : Memory} {p : Nat} : Attainable s →
      i ∈ s.pool → ⟨c, k⟩ ∈ s.pool → (i.term.operand? p).bind Operand.carried? = some c →
      Attainable { s with pool := ⟨i.term, i.memory.setChild p k⟩ :: s.pool }

/-- The calls that programs come to make: those of their instances, against any fact, among any
rows and with any number of levels left, and those that calls make. -/
inductive Call.Arises (settings : Settings) : Call → Prop
  | evaluate {s : Session} {i : Instance} (levels : Nat) (site : Site) (fact : Fact) :
      s.Attainable → i ∈ s.pool →
      Arises settings ⟨levels, site, i.term, i.memory, { s.world with fact }⟩
  | called {c c' : Call} : Arises settings c → c.Dispatches settings c' → Arises settings c'

theorem Session.Attainable.isSound {s : Session} (attainable : s.Attainable) : s.IsSound := by
  induction attainable with
  | start hosted nextGeneration => exact (Reachable.start hosted nextGeneration).isSound
  | step _ step ih => exact step.isSound ih
  | take _ member carried ih => exact ih.join ((ih.pool _ member).child carried)
  | put _ member inside carried ih =>
      exact ih.join ((ih.pool _ member).setChild carried (ih.pool _ inside))

/-! ## From calls to the calls they make -/

/-- A state of a term that is as good as itself hands on such states: what makes memories as
good as one another is handed on. -/
theorem State.paired_inherited {M : World → Term → Memory → Memory → Prop}
    (I : Memory.Interchange M) (settings : Settings) (levels : Nat) :
    State.Inherited (fun t s => State.Paired M t s s) settings (evalAt settings levels) where
  scopes _ := ⟨fun paired _ => paired.against I _ _ _, fun _ paired => paired.against I _ _ _⟩
  note r paired := paired.note I r r
  child carried paired := ⟨paired.world, I.child paired.memory carried⟩
  back {t c p site s} carried paired :=
    (Act.Respects.atChild I carried (evalAt_respects I settings levels site c) s s paired).state
  permitted operator := (Act.Respects.permitted I operator _).imp fun respects =>
    .of_keeps fun s paired => (respects s s paired).state
  expansion {t name d body s} isCustom found isBody paired := by
    obtain ⟨-, related, -⟩ := I.call paired.memory isCustom found isBody rfl rfl
      (paired.world.bodies found found isBody isBody)
    have entered : State.Paired M (d.expansionFor body t s.memory).term
        ⟨(d.expansionFor body t s.memory).memory, s.world⟩
        ⟨(d.expansionFor body t s.memory).memory, s.world⟩ := ⟨paired.world, related⟩
    exact entered.elsewhere I rfl (by simp) (by simp) (by simp) (by simp)

/-- **Everything is sound at every call**, and not only between evaluations. -/
theorem Call.Arises.isSound {settings : Settings} {c : Call} (arises : c.Arises settings) :
    c.state.world.IsSound ∧ c.state.memory.IsSound c.state.world c.term := by
  induction arises with
  | evaluate levels site fact attainable member =>
      have sound := attainable.isSound
      exact ⟨sound.world.against fact, (sound.pool _ member).against fact⟩
  | @called c c' _ made ih =>
      have inherited := State.paired_inherited Memory.Shared.interchange settings c'.levels
      have handed : State.Paired Memory.Shared c'.term c'.state c'.state :=
        made.holds (P := fun t s => State.Paired Memory.Shared t s s) fun E coincide =>
          operate_congr inherited coincide c.site (World.IsSound.paired_shared_iff.2 ih)
      exact World.IsSound.paired_shared_iff.1 handed

end FactScan
