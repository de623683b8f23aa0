/-
# FactScan.Proofs.Steadiness — terms that are as good as new

`prev` and `unique` answer from what a term remembers, and `defn` and `undef` change what later
calls find.  A term without any of the four, where no body has one either, gives the same
however often it was evaluated before, and leaves all definitions as they are: `evalAt_steady`.

What is kept for speed may be older than the definitions there are now, and then it may hold
operators of any kind.  So the definitions are followed along an evaluation that starts with
nothing kept at all (`World.bare`), and the one in question is set against that.
-/
import FactScan.Proofs.Caches
import FactScan.Proofs.Facts.Vocabulary
import FactScan.Proofs.Inlining.Depth

namespace FactScan

set_option autoImplicit false

/-- All operators but `prev`, `unique`, `defn` and `undef`. -/
def Vocabulary.steady : Vocabulary where
  operator op := ∀ b, op = .builtin b →
    b ≠ .previous ∧ b ≠ .unique ∧ b ≠ .define ∧ b ≠ .undefine

/-- The bodies of all definitions are steady. -/
def Registry.IsSteady (r : Registry) : Prop :=
  ∀ d ∈ r.custom, ∀ body, d.body = .expression body → body.term.UsesOnly .steady

theorem Term.UsesOnly.isStateless {t : Term} (steady : t.UsesOnly .steady) : t.IsStateless := by
  intro u inside b is
  obtain ⟨notPrevious, notUnique, -, -⟩ := (steady u inside).1 b is
  cases b with
  | previous => exact absurd rfl notPrevious
  | unique => exact absurd rfl notUnique
  | _ => rfl

/-! ## Definitions stay -/

/-- The world without anything that bodies remember. -/
def World.bare (w : World) : World := { w with registry := w.registry.bare }

theorem Registry.bare_bare (r : Registry) : r.bare.bare = r.bare := by
  unfold bare
  rw [List.map_map]
  refine congrArg (Registry.mk r.hosted) (List.map_congr_left fun d _ => ?_)
  show d.bare.bare = d.bare
  unfold Definition.bare
  cases d.body <;> rfl

theorem Registry.IsSteady.usesOnly_bare {r : Registry} (steady : r.IsSteady) :
    r.bare.UsesOnly .steady := by
  intro d member body isBody
  obtain ⟨d, inside, rfl⟩ := List.mem_map.1 member
  have isBody : d.body.bare = .expression body := isBody
  cases own : d.body with
  | native run =>
      rw [own] at isBody
      cases isBody
  | expression body' =>
      rw [own] at isBody
      cases isBody
      exact ⟨steady d inside body' own, Memory.usesOnly_blank body'.term⟩

namespace World

/-- The same definitions, and the same number for the next one. -/
structure SameDefinitions (w w' : World) : Prop where
  registry : w'.registry = w.registry
  next : w'.nextGeneration = w.nextGeneration

/-- A world with the same definitions, back at the fact it had. -/
theorem SameDefinitions.restored {w v : World} (same : w.SameDefinitions v) (fact : Fact) :
    { v with fact } = ({ w with fact } : World).withLog v.log := by
  show World.mk fact v.registry v.nextGeneration v.log = _
  rw [same.registry, same.next]
  rfl

theorem sameDefinitions_lasting :
    Lasting SameDefinitions Vocabulary.steady.appends Vocabulary.steady.comesTo where
  refl _ := ⟨rfl, rfl⟩
  trans first second :=
    ⟨second.registry.trans first.registry, second.next.trans first.next⟩
  note _ _ _ := ⟨rfl, rfl⟩
  append _ _ := ⟨rfl, rfl⟩
  define allowed _ := absurd rfl (allowed _ rfl).2.2.1
  undefine allowed _ := absurd rfl (allowed _ rfl).2.2.2
  against same := ⟨same.registry, same.next⟩

/-- As long as no number is given out, definitions are only removed. -/
structure OnlyRemoves (w w' : World) : Prop where
  hosted : w'.registry.hosted = w.registry.hosted
  next : w.nextGeneration ≤ w'.nextGeneration
  custom : w'.nextGeneration = w.nextGeneration →
    w'.registry.custom.Sublist w.registry.custom

theorem onlyRemoves_lasting : Lasting OnlyRemoves where
  refl _ := ⟨rfl, Nat.le_refl _, fun _ => List.Sublist.refl _⟩
  trans {u v w} first second := by
    refine ⟨second.hosted.trans first.hosted, Nat.le_trans first.next second.next, fun same => ?_⟩
    have := first.next
    have := second.next
    exact (second.custom (by omega)).trans (first.custom (by omega))
  note _ _ _ := ⟨rfl, Nat.le_refl _, fun _ => List.Sublist.refl _⟩
  append _ _ := ⟨rfl, Nat.le_refl _, fun _ => List.Sublist.refl _⟩
  define {w w' name body} _ made := by
    obtain ⟨-, -, rfl⟩ := define_eq_ok.1 made
    exact ⟨rfl, Nat.le_succ _, fun same => absurd same (Nat.succ_ne_self _)⟩
  undefine {w w' name removed} _ done := by
    obtain ⟨-, -, rfl⟩ := undefine_eq_ok.1 done
    dsimp only
    split
    · exact ⟨rfl, Nat.le_refl _, fun _ => List.filter_sublist⟩
    · exact ⟨rfl, Nat.le_refl _, fun _ => List.filter_sublist⟩
  against same := ⟨same.hosted, same.next, same.custom⟩

/-- Whoever only removes and has as many definitions left has removed none. -/
theorem OnlyRemoves.registry_eq {w w' : World} (removes : w.OnlyRemoves w')
    (bare : w'.registry.bare = w.registry.bare) (next : w'.nextGeneration = w.nextGeneration) :
    w'.registry = w.registry := by
  have length : w'.registry.custom.length = w.registry.custom.length := by
    have lengths := congrArg List.length (Registry.custom_of_bare bare)
    rwa [List.length_map, List.length_map] at lengths
  have custom := (removes.custom next).eq_of_length length
  calc w'.registry = ⟨w'.registry.hosted, w'.registry.custom⟩ := rfl
    _ = ⟨w.registry.hosted, w.registry.custom⟩ := by rw [removes.hosted, custom]

end World

/-! ## Evaluations -/

section

variable {settings : Settings} {levels : Nat} {site : Site} {t : Term} {s : State}

/-- A state of a steady term is as good as one in which nothing is kept. -/
theorem State.paired_bare (steady : t.UsesOnly .steady) (bodies : s.world.registry.IsSteady)
    (world : s.world.IsSound) (memory : s.memory.IsSound s.world t) :
    State.Paired Memory.Cached t s ⟨.blank, s.world.bare⟩ := by
  refine ⟨⟨rfl, (Registry.bare_bare _).symm, rfl, ?_⟩, world.numbered, steady.isStateless, memory,
    .blank _ _⟩
  intro name d d' body body' found found' isBody isBody'
  have found' : s.world.registry.bare.lookup? name = some d' := found'
  rw [Registry.lookup?_bare, found] at found'
  cases found'
  have isBody' : d.body.bare = .expression body' := isBody'
  rw [isBody] at isBody'
  cases isBody'
  have stateless := (bodies d (Registry.mem_of_lookup? found) body isBody).isStateless
  exact ⟨world.numbered, stateless, world.bodies found isBody, .blank _ _⟩

/-- **A steady term is as good as new.**  Whatever was kept in it, it gives what it gives when
nothing is; all definitions stay as they are, and what it keeps then is sound again. -/
theorem evalAt_steady (settings : Settings) (levels : Nat) (site : Site)
    (steady : t.UsesOnly .steady) (bodies : s.world.registry.IsSteady)
    (world : s.world.IsSound) (memory : s.memory.IsSound s.world t) :
    let ran := evalAt settings levels site t s
    ran.1 = (evalAt settings levels site t ⟨.blank, s.world⟩).1 ∧
      s.world.SameDefinitions ran.2.world ∧ ran.2.memory.IsSound s.world t := by
  have respects := evalAt_respects Memory.Cached.interchange settings levels site t
  obtain ⟨result, after⟩ := respects _ _ (State.paired_bare steady bodies world memory)
  obtain ⟨result', -⟩ := respects _ _
    (State.paired_bare (s := ⟨.blank, s.world⟩) steady bodies world (.blank _ _))
  -- With nothing kept, only steady terms are evaluated.
  have bare := (evalAt_within World.sameDefinitions_lasting (fun _ => trivial) settings levels site
    t steady ⟨.blank, s.world.bare⟩ ⟨Memory.usesOnly_blank t, bodies.usesOnly_bare⟩).2
  have registry : (evalAt settings levels site t s).2.world.registry.bare = s.world.registry.bare :=
    by rw [after.world.registry, bare.registry]; exact Registry.bare_bare _
  have next : (evalAt settings levels site t s).2.world.nextGeneration = s.world.nextGeneration :=
    after.world.next.trans bare.next
  have removes := evalAt_lasting World.onlyRemoves_lasting settings levels site t s
  exact ⟨result.trans result'.symm, ⟨removes.registry_eq registry next, next⟩,
    after.memory.first.elsewhere registry next⟩

end

end FactScan
