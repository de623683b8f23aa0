/-
# FactScan.Proofs.Simplify.Scan — simplification preserves meaning over whole scans

A term and its simplified form are scanned over the same facts, side by side, and at every
step at which the term has a value its simplified form has the same one, and leaves the same
fact and the same operators behind (`Instance.simplify_scan`).
-/
import FactScan.Proofs.Simplify.Rules

namespace FactScan

set_option autoImplicit false

theorem evaluate_staysReady {settings : Settings} {rows : List Row} {t : Term} {s s' : State}
    {result : Except EvalError Value}
    (ran : FactScan.evaluate settings rows t s = (result, s')) :
    s.world.StaysReady s'.world := by
  have stays : s.world.StaysReady (FactScan.evaluate settings rows t s).2.world :=
    evalAt_lasting World.staysReady_lasting settings (settings.maxDepth + 1) ⟨rows, 0⟩ t s
  rw [ran] at stays
  exact stays

theorem Instance.scan_staysReady (settings : Settings) (rows : List Row) (facts : List Fact) :
    ∀ (i : Instance) (w : World), w.StaysReady (i.scan settings rows facts w).world := by
  induction facts with
  | nil =>
      intro i w
      exact World.staysReady_lasting.refl w
  | cons fact facts ih =>
      intro i w
      rcases ran : FactScan.evaluate settings rows i.term ⟨i.memory, { w with fact }⟩ with
        ⟨_ | v, s⟩
      · rw [Instance.scan_error ran]
        have last := evaluate_staysReady ran
        exact ⟨last.1, fun tame ready => last.2 tame ⟨ready.hosted, ready.tame⟩⟩
      · rw [Instance.scan_ok ran]
        have all := World.staysReady_lasting.trans (evaluate_staysReady ran)
          (ih ⟨i.term, s.memory⟩ s.world)
        exact ⟨all.1, fun tame ready => all.2 tame ⟨ready.hosted, ready.tame⟩⟩

/-- **Scans of instances that refine one another** give the same values, facts and operators
as long as the first has values. -/
theorem Refines.scan_of_ready {settings : Settings} (rows : List Row) (facts : List Fact) :
    ∀ {i j : Instance} {w w' : World} {vs : List Value}, Refines settings i j → w.Agrees w' →
      w.Ready → (i.scan settings rows facts w).values = .ok vs →
      (i.scan settings rows facts w).world.Tame →
        (j.scan settings rows facts w').values = .ok vs ∧
          (j.scan settings rows facts w').facts = (i.scan settings rows facts w).facts ∧
          (i.scan settings rows facts w).world.Agrees (j.scan settings rows facts w').world := by
  induction facts with
  | nil =>
      intro i j w w' vs _ agrees _ ran _
      exact ⟨ran, rfl, agrees⟩
  | cons fact facts ih =>
      intro i j w w' vs refines agrees ready ran tame
      rcases step : FactScan.evaluate settings rows i.term ⟨i.memory, { w with fact }⟩ with
        ⟨_ | v, s⟩
      · rw [Instance.scan_error step] at ran
        cases ran
      · rw [Instance.scan_ok step] at ran tame ⊢
        have later := Instance.scan_staysReady settings rows facts ⟨i.term, s.memory⟩ s.world
        have tame₁ : s.world.Tame := World.Tame.earlier later.1 tame
        have ready₁ : World.Ready { w with fact } := ⟨ready.hosted, ready.tame⟩
        obtain ⟨s', step', refines', agrees'⟩ := Refines.standsIn settings (settings.maxDepth + 1)
          i j refines ⟨rows, 0⟩ _ _ v s (agrees.against fact) ready₁ step tame₁
        have ready₂ : s.world.Ready := (evaluate_staysReady step).2 tame₁ ready₁
        have ran' : (Instance.scan settings rows facts ⟨i.term, s.memory⟩ s.world).values.map
            (v :: ·) = .ok vs := ran
        rw [Instance.scan_ok step']
        cases rest : (Instance.scan settings rows facts ⟨i.term, s.memory⟩ s.world).values with
        | error e =>
            rw [rest] at ran'
            cases ran'
        | ok vs' =>
            rw [rest] at ran'
            cases ran'
            obtain ⟨values, sameFacts, agreesLast⟩ := ih refines' agrees' ready₂ rest tame
            refine ⟨?_, ?_, agreesLast⟩
            · show (Instance.scan settings rows facts ⟨j.term, s'.memory⟩ s'.world).values.map
                (v :: ·) = _
              rw [values]
              rfl
            · show s'.world.fact :: _ = s.world.fact :: _
              rw [sameFacts, agrees'.fact]

/-- The same where everything is hosted. -/
theorem Refines.scan {settings : Settings} (rows : List Row) (facts : List Fact)
    {i j : Instance} {w w' : World} {vs : List Value} (refines : Refines settings i j)
    (agrees : w.Agrees w')
    (ready : (∀ b, w.registry.hosts b = true) ∧ ∀ d ∈ w.registry.custom, d.IsTame)
    (ran : (i.scan settings rows facts w).values = .ok vs)
    (tame : (i.scan settings rows facts w).world.Tame) :
    (j.scan settings rows facts w').values = .ok vs ∧
      (j.scan settings rows facts w').facts = (i.scan settings rows facts w).facts ∧
      (i.scan settings rows facts w).world.Agrees (j.scan settings rows facts w').world :=
  refines.scan_of_ready rows facts agrees ⟨ready.1 .const, ready.2⟩ ran tame

/-- **Simplification preserves meaning over whole scans.**  Take an engine that hosts all
families, without hooks and without a `defn` in a body, and an instance without terms as
literals.  A fresh copy of the instance and a fresh copy of its simplified form are scanned
over the same facts, each with a registry of its own.  If the first has a value on all of
them, and no operator with a `defn` in its body was registered on the way, then so has the
second: the same values, the same facts afterwards, and the same operators.  Applied to the
facts up to some step, this speaks of every step before the first failure. -/
theorem Instance.simplify_scan (settings : Settings) (rows : List Row) (registry : Registry)
    (nextGeneration : Nat) (i : Instance) (hosted : ∀ b, registry.hosts b = true)
    (hookless : ∀ d ∈ registry.custom, d.hook = none) (tame : ∀ d ∈ registry.custom, d.IsTame)
    (plain : i.term.IsPlain) (facts : List Fact) (vs : List Value)
    (ran : (i.fresh.scan settings rows facts { registry, nextGeneration }).values = .ok vs)
    (registered : ∀ d,
      Record.defined d ∈ (i.fresh.scan settings rows facts { registry, nextGeneration }).world.log →
        d.IsTame) :
    let original := i.fresh.scan settings rows facts { registry, nextGeneration }
    let simplified :=
      (i.simplify settings registry).fresh.scan settings rows facts { registry, nextGeneration }
    simplified.values = .ok vs ∧ simplified.facts = original.facts ∧
      simplified.world.registry = original.world.registry := by
  have refines : Refines settings i.fresh (i.simplify settings registry).fresh := by
    have simpler := (@Term.simplifyAt_refines settings registry hookless i.term plain 0
      i.memory).1.fresh
    have again : Instance.fresh ⟨i.term, i.term.freshMemory i.memory⟩ = i.fresh :=
      congrArg (Instance.mk i.term) (Term.freshMemory_of_isPlain plain _ _)
    rw [again] at simpler
    exact simpler
  have tameLog : (i.fresh.scan settings rows facts { registry, nextGeneration }).world.Tame := by
    intro d member
    obtain ⟨r, inside, made⟩ := List.mem_filterMap.1 member
    cases r with
    | defined d' =>
        cases made
        exact registered d inside
    | _ => cases made
  obtain ⟨values, sameFacts, agrees⟩ :=
    refines.scan rows facts (.refl _) ⟨hosted, tame⟩ ran tameLog
  exact ⟨values, sameFacts, agrees.registry.symm⟩

/-- All hypotheses hold of a conjunction with a neutral constant and a custom operator that
remembers, over two facts. -/
theorem Instance.simplify_scan_novel :
    let novel : Definition := .ofTerm "novel" ⟨.mk (.builtin .unique) [.placeholder 0], .blank⟩
    let registry : Registry := { Registry.standard with custom := [novel] }
    let i : Instance := ⟨.mk (.builtin .and) [.nested (.constantOf (.boolean true)),
      .nested (.mk (.custom "novel") [.literal (.boolean true)])], .blank⟩
    let original := i.fresh.scan {} [] [.empty, .empty] { registry, nextGeneration := 1 }
    let simplified := (i.simplify {} registry).fresh.scan {} [] [.empty, .empty]
      { registry, nextGeneration := 1 }
    ∃ vs, vs.map Value.isTruthy = [true, false] ∧ original.values = .ok vs ∧
      simplified.values = .ok vs ∧ simplified.facts = original.facts ∧
      simplified.world.registry = original.world.registry := by
  intro novel registry i original simplified
  have hookless : ∀ d ∈ registry.custom, d.hook = none := by
    intro d member
    obtain rfl := List.mem_singleton.1 member
    rfl
  have tame : ∀ d ∈ registry.custom, d.IsTame := by
    intro d member body isTerm t inside
    obtain rfl := List.mem_singleton.1 member
    cases isTerm
    obtain rfl := List.mem_singleton.1 inside
    rintro ⟨⟩
  have plain : i.term.IsPlain := by
    have single (op : Operator) : (Term.mk op [.literal (.boolean true)]).IsPlain := by
      refine Term.isPlain_mk.2 fun o member => ?_
      obtain rfl := List.mem_singleton.1 member
      trivial
    refine Term.isPlain_mk.2 fun o member => ?_
    rcases List.mem_cons.1 member with rfl | member
    · exact single _
    · obtain rfl := List.mem_singleton.1 member
      exact single _
  have truths : original.values.toOption.map (·.map Value.isTruthy) = some [true, false] := by
    decide +kernel
  have quiet : original.world.log.all (·.definition?.isNone) = true := by decide +kernel
  have registered : ∀ d, Record.defined d ∈ original.world.log → d.IsTame := by
    intro d member
    cases List.all_eq_true.1 quiet _ member
  cases ran : original.values with
  | error e =>
      rw [ran] at truths
      cases truths
  | ok vs =>
      rw [ran] at truths
      refine ⟨vs, Option.some.inj truths, rfl, ?_⟩
      exact Instance.simplify_scan {} [] registry 1 i Registry.standard_hosts hookless tame plain
        [.empty, .empty] vs ran registered

end FactScan
