/-
# FactScan.Proofs.Registry.Upkeep — a registry through any series of changes

A registry is changed from outside, by installing families and by defining, replacing and
removing operators, and from inside, by the terms that are evaluated with it.  Whatever the
series of such changes, the custom operators have names of their own that no built-in
operator has, and they are what the log says (`World.IsOrderly`).

* `Interruption.isOrderly`: every change keeps a registry orderly.
* `Host.define_cases`, `Host.redefine_cases`, `Host.undefine_cases`, `evalAt_define`,
  `evalAt_undefine`: a change is made or refused, whether the host or a term asks for it, and
  one that is refused changes nothing.
* `evalAt_of_builtin_name`: a built-in name is never shadowed.
* `World.orderly_upkeep`: all of this for every series.
-/
import FactScan.Proofs.ExpansionCache
import FactScan.Proofs.Hosts
import FactScan.Proofs.Registry.History

namespace FactScan

set_option autoImplicit false

/-! ## Installing a family -/

namespace Registry

theorem hosts_install (r : Registry) (family : Family) (b : Builtin) :
    (r.install family).hosts b = true ↔ r.hosts b = true ∨ family = b.family := by
  unfold hosts install
  simp only [List.contains_eq_mem, decide_eq_true_eq, List.mem_append, List.mem_filter, b.mem_all,
    true_and, Bool.and_eq_true, beq_iff_eq, Bool.not_eq_true', decide_eq_false_iff_not]
  constructor
  · rintro (old | ⟨rfl, -⟩)
    · exact .inl old
    · exact .inr rfl
  · rintro (old | rfl)
    · exact .inl old
    · by_cases there : b ∈ r.hosted
      · exact .inl there
      · exact .inr ⟨rfl, there⟩

end Registry

/-! ## Orderly registries -/

namespace World

/-- The custom operators of a world have names of their own, and they are what the log says,
in the order that it says. -/
structure IsOrderly (w : World) : Prop where
  named : ∀ name ∈ w.registry.names, Registry.IsFree name
  nodup : w.registry.names.Nodup
  lookup (name : String) : (w.registry.lookup? name).map Definition.unnumbered =
    (Record.standing none name w.log).map Definition.unnumbered
  order : w.registry.names = Record.order [] w.log

namespace IsOrderly

variable {w v : World}

theorem isProper (orderly : w.IsOrderly) : w.registry.IsProper :=
  ⟨fun name member => Registry.checkName_eq_ok.2 (orderly.named name member), orderly.nodup⟩

/-- A change that is recorded, as long as names stay proper. -/
theorem recorded (orderly : w.IsOrderly) (recorded : w.Recorded v)
    (proper : v.registry.IsProper) : v.IsOrderly := by
  obtain ⟨new, recorded⟩ := recorded
  refine ⟨fun name member => Registry.checkName_eq_ok.1 (proper.named name member), proper.nodup,
    ?_, ?_⟩
  · intro name
    rw [recorded.lookup, recorded.log, Record.standing_append]
    exact RecordedBy.standing_unnumbered (orderly.lookup name) name new
  · rw [recorded.order, recorded.log, Record.order_append, orderly.order]

/-- A registry without custom operators, and nothing logged. -/
theorem start (hosted : List Builtin) (next : Nat) :
    IsOrderly { registry := { hosted }, nextGeneration := next } where
  named _ member := nomatch member
  nodup := .nil
  lookup _ := rfl
  order := rfl

end IsOrderly

/-- What every change of the custom operators does: it hosts nothing, and it keeps order. -/
def Tended (before after : World) : Prop :=
  after.registry.hosted = before.registry.hosted ∧ (before.IsOrderly → after.IsOrderly)

theorem tended_of_recorded {w v : World} (recorded : w.Recorded v)
    (proper : w.registry.IsProper → v.registry.IsProper) : w.Tended v := by
  refine ⟨?_, fun orderly => orderly.recorded recorded (proper orderly.isProper)⟩
  obtain ⟨new, recorded⟩ := recorded
  exact recorded.hosted

theorem tended_define {w w' : World} {d : Definition} (made : w.define d = .ok w') :
    w.Tended w' := by
  refine tended_of_recorded (recorded_define made) fun proper => ?_
  obtain ⟨named, -, rfl⟩ := define_eq_ok.1 made
  exact isProper_adding proper named

theorem tended_redefine {w w' : World} {d : Definition} {replaced : Option Definition}
    (made : w.redefine d = .ok (w', replaced)) : w.Tended w' := by
  refine tended_of_recorded (recorded_redefine made) fun proper => ?_
  obtain ⟨named, -, rfl⟩ := redefine_eq_ok.1 made
  exact isProper_adding proper named

theorem tended_lasting : Lasting Tended where
  refl _ := ⟨rfl, id⟩
  trans first second := ⟨second.1.trans first.1, fun orderly => second.2 (first.2 orderly)⟩
  note w _ quiet := tended_of_recorded (recorded_lasting.note w quiet) id
  append _ _ := ⟨rfl, fun orderly => ⟨orderly.named, orderly.nodup, orderly.lookup, orderly.order⟩⟩
  define _ := tended_define
  undefine allowed done :=
    tended_of_recorded (recorded_undefine done) (isProper_lasting.undefine allowed done)
  against {w w' fact} tended := by
    refine ⟨tended.1, fun orderly => ?_⟩
    have after := tended.2 ⟨orderly.named, orderly.nodup, orderly.lookup, orderly.order⟩
    exact ⟨after.named, after.nodup, after.lookup, after.order⟩

end World

/-- **Every change keeps a registry orderly**: made from outside or by a term that is
evaluated, done or refused. -/
theorem Interruption.tended (w : World) (e : Interruption) : w.Tended (e.apply w) := by
  refine e.lasting World.tended_lasting World.tended_define World.tended_redefine
    (fun w count => ⟨rfl, fun orderly => ?_⟩)
    (fun {w w' fact} tended => ⟨tended.1, fun orderly => ?_⟩) w
  · exact ⟨orderly.named, orderly.nodup, orderly.lookup, orderly.order⟩
  · exact tended.2 ⟨orderly.named, orderly.nodup, orderly.lookup, orderly.order⟩

/-! ## Changes made and refused -/

namespace Host

variable (h : Host) (id : Nat) (d : Definition) (name : String)

/-- **A definition is refused without a trace**, for its name or because there is one of that
name, or it is put into the registry. -/
theorem define_cases :
    (∃ e, h.define id d = (.error e, h) ∧
        (Registry.Refusal d.name e ∨
          e = .duplicateOperator d.name ∧ d.name ∈ (h.registry id).names)) ∨
      h.define id d = (.ok (), h.absorb id ((h.world id .empty).adding d)) ∧
        Registry.IsFree d.name ∧ d.name ∉ (h.registry id).names := by
  have run := World.define_apply (h.world id .empty) d
  rcases Registry.checkName_cases d.name with ⟨e, named, refusal⟩ | ⟨named, free⟩
  · rw [named] at run
    exact .inl ⟨e, change_refused (by rw [run]; rfl), .inl refusal⟩
  · rw [named] at run
    rw [Registry.mem_names_iff]
    cases found : (h.registry id).lookup? d.name with
    | some there =>
        rw [show (h.world id .empty).registry.lookup? d.name = some there from found] at run
        exact .inl ⟨_, change_refused (by rw [run]; rfl), .inr ⟨rfl, rfl⟩⟩
    | none =>
        rw [show (h.world id .empty).registry.lookup? d.name = none from found] at run
        exact .inr ⟨change_made (by rw [run]; rfl), free, Bool.false_ne_true⟩

/-- A definition that may replace another one is refused only for its name. -/
theorem redefine_cases :
    (∃ e, h.redefine id d = (.error e, h) ∧ Registry.Refusal d.name e) ∨
      h.redefine id d = (.ok ((h.registry id).lookup? d.name),
          h.absorb id ((h.world id .empty).adding d)) ∧
        Registry.IsFree d.name := by
  have run : (h.world id .empty).redefine d = (Registry.checkName d.name).map fun _ =>
      ((h.world id .empty).adding d, (h.registry id).lookup? d.name) := by
    show (h.world id .empty).redefine d = _
    unfold World.redefine Registry.redefine
    rw [show ((h.world id .empty).numbered d).name = d.name from rfl]
    cases Registry.checkName d.name <;> rfl
  rcases Registry.checkName_cases d.name with ⟨e, named, refusal⟩ | ⟨named, free⟩
  · rw [named] at run
    exact .inl ⟨e, change_refused run, refusal⟩
  · rw [named] at run
    exact .inr ⟨change_made run, free⟩

/-- Removing an operator is refused only for the names of built-in ones. -/
theorem undefine_cases :
    (∃ e, h.undefine id name = (.error e, h) ∧ Registry.Refusal name e) ∨
      h.undefine id name = (.ok ((h.registry id).lookup? name).isSome,
        h.absorb id ((h.world id .empty).removing name)) := by
  have run := World.undefine_apply (h.world id .empty) name
  cases reserved : Builtin.ofName? name with
  | some b =>
      rw [reserved] at run
      exact .inl ⟨_, change_refused run, .reserved b (Builtin.name_of_ofName? reserved)⟩
  | none =>
      rw [reserved] at run
      exact .inr (change_made run)

end Host

/-! ## Terms -/

section

variable {settings : Settings} {levels : Nat} {site : Site} {t : Term} {s : State} {b : Builtin}

/-- **A built-in name is never shadowed.**  A term of such a name is run as that operator if
it is hosted, and refused if it is not, whatever is registered. -/
theorem evalAt_of_builtin_name (proper : s.world.registry.IsProper) (named : t.name = b.name) :
    evalAt settings (levels + 1) site t s =
      if t.operator = .builtin b ∧ s.world.registry.hosts b = true then
        Act.mapError (·.leaving site t) (b.run settings (evalAt settings levels) site t)
          { s with world := s.world.note (.dispatched site.depth t) }
      else (.error (.unknown t), { s with world := s.world.note (.dispatched site.depth t) }) := by
  rw [evalAt_succ]
  cases operator : t.operator with
  | builtin b' =>
      have same : b' = b := by
        rw [Term.name, operator] at named
        have found := Builtin.ofName?_name b'
        rw [show b'.name = b.name from named, Builtin.ofName?_name] at found
        exact (Option.some.inj found).symm
      subst same
      cases hosted : s.world.registry.hosts b' with
      | true => rw [dispatch_builtin operator hosted, if_pos ⟨rfl, rfl⟩]
      | false =>
          rw [dispatch_unhosted operator hosted, if_neg fun both => Bool.false_ne_true both.2]
  | custom name =>
      have missing : s.world.registry.lookup? name = none := by
        rw [Term.name, operator] at named
        cases found : s.world.registry.lookup? name with
        | none => rfl
        | some d =>
            have member : name ∈ s.world.registry.names :=
              Registry.mem_names_iff.2 (by rw [found]; rfl)
            have free := Registry.checkName_eq_ok.1 (proper.named name member)
            exact absurd named.symm (free.unreserved b)
      rw [dispatch_undefined operator missing, if_neg nofun]

/-- An unhosted operator is about the very term, so its error is not wrapped. -/
theorem leaving_unknown : (EvalError.unknown t).leaving site t = .unknown t :=
  if_pos (beq_self_eq_true t.text)

/-- An operator that fails without a trace, or changes the registry once and gives `true`, does the
same as an evaluation: not being hosted is one more way to fail. -/
theorem evalAt_of_run {α : Type} {Fails : EvalError → Prop} {Asks : α → Prop} {after : α → World}
    (operator : t.operator = .builtin b)
    (unhosted : s.world.registry.hosts b = false → Fails (.unknown t)) :
    let noted : State := { s with world := s.world.note (.dispatched site.depth t) }
    let ran := b.run settings (evalAt settings levels) site t noted
    (s.world.registry.hosts b = true →
      (∃ e, Fails e ∧ ran = (.error e, noted)) ∨
        ∃ a, Asks a ∧ ran = (.ok (.boolean true), { s with world := after a })) →
    (∃ e, Fails e ∧ evalAt settings (levels + 1) site t s = (.error (e.leaving site t), noted)) ∨
      ∃ a, Asks a ∧
        evalAt settings (levels + 1) site t s =
          (.ok (.boolean true), { s with world := after a }) := by
  intro noted ran outcome
  rw [evalAt_succ]
  cases hosted : s.world.registry.hosts b with
  | false =>
      refine .inl ⟨_, unhosted hosted, ?_⟩
      rw [dispatch_unhosted operator hosted, leaving_unknown]
  | true =>
      rw [dispatch_builtin operator hosted, Act.mapError_apply]
      rcases outcome hosted with ⟨e, fails, failed⟩ | ⟨a, asks, done⟩
      · exact .inl ⟨e, fails, by rw [show b.run _ _ _ _ _ = _ from failed]; rfl⟩
      · exact .inr ⟨a, asks, by rw [show b.run _ _ _ _ _ = _ from done]; rfl⟩

/-- **A `defn` registers the body it carries under its name, or fails for the first thing that is
wrong with it and does nothing else.** -/
theorem evalAt_define (operator : t.operator = .builtin .define) :
    let noted : World := s.world.note (.dispatched site.depth t)
    (∃ e, t.DefineFails s.world.registry e ∧
        evalAt settings (levels + 1) site t s =
          (.error (e.leaving site t), { s with world := noted })) ∨
      ∃ d, t.Makes s.world.registry d ∧ evalAt settings (levels + 1) site t s =
        (.ok (.boolean true), { s with world := noted.adding d }) := by
  intro noted
  refine evalAt_of_run operator .unhosted fun hosted => ?_
  exact Operators.define_asks operator (s := { s with world := noted }) hosted

/-- **An `undef` removes the operator of its name, or fails for the first thing that is wrong with
it and does nothing else.** -/
theorem evalAt_undefine (operator : t.operator = .builtin .undefine) :
    let noted : World := s.world.note (.dispatched site.depth t)
    (∃ e, t.UndefineFails s.world.registry e ∧
        evalAt settings (levels + 1) site t s =
          (.error (e.leaving site t), { s with world := noted })) ∨
      ∃ name, t.Removes s.world.registry name ∧ evalAt settings (levels + 1) site t s =
        (.ok (.boolean true), { s with world := noted.removing name }) := by
  intro noted
  refine evalAt_of_run operator .unhosted fun hosted => ?_
  exact Operators.undefine_asks operator (s := { s with world := noted }) hosted

end

/-! ## Series of changes -/

/-- What can happen to a registry. -/
inductive Upkeep where
  | install (family : Family)
  | interruption (e : Interruption)

def Upkeep.apply (w : World) : Upkeep → World
  | .install family => { w with registry := w.registry.install family }
  | .interruption e => e.apply w

/-- The world after a series of changes, the first in front. -/
def World.upkept (w : World) (series : List Upkeep) : World := series.foldl Upkeep.apply w

theorem World.IsOrderly.upkept (series : List Upkeep) :
    ∀ {w : World}, w.IsOrderly → (w.upkept series).IsOrderly := by
  induction series with
  | nil => exact fun orderly => orderly
  | cons change series ih =>
      intro w orderly
      refine ih (w := change.apply w) ?_
      cases change with
      | install family => exact ⟨orderly.named, orderly.nodup, orderly.lookup, orderly.order⟩
      | interruption e => exact (e.tended w).2 orderly

theorem World.hosts_upkept (b : Builtin) (series : List Upkeep) : ∀ w : World,
    (w.upkept series).registry.hosts b = true ↔
      w.registry.hosts b = true ∨ .install b.family ∈ series := by
  induction series with
  | nil =>
      intro w
      simp [upkept]
  | cons change series ih =>
      intro w
      refine (ih (change.apply w)).trans ?_
      cases change with
      | install family =>
          have installed := Registry.hosts_install w.registry family b
          rw [show ((Upkeep.install family).apply w).registry = w.registry.install family from rfl,
            installed, List.mem_cons, or_assoc, Upkeep.install.injEq, eq_comm (a := family)]
      | interruption e =>
          have same := (e.tended w).1
          rw [Registry.hosts, show (Upkeep.interruption e).apply w = e.apply w from rfl, same]
          simp [Registry.hosts]

/-- **A registry is an ordered map that never shadows a built-in operator.**  Take a new
registry and any series of changes: families installed, operators defined, replaced and
removed, and terms evaluated, each of them done or refused.  Then

* custom operators have names of their own that no built-in operator has; a name stands for
  the last definition of it that was not removed since, and names are listed in the order in
  which they were defined, where replacing keeps the place and removing keeps the rest;
* a built-in operator is hosted if it was at the start or its family was installed.

Of any change that the host asks for, it is made, or it is refused for its name or as a second
definition and leaves everything as it was.  A `defn` registers the very body it carries, and an
`undef` removes the operator of its name, or else they fail and do nothing, for the first thing
that is wrong: that they are not hosted, an operand, a body whose operands cannot be counted, the
name.  An evaluation changes the registry by what it records, and each record comes right after
the dispatch of the `defn` or `undef` that asked for it.  A term of a built-in name is run as that
operator, or refused because it is not hosted. -/
theorem World.orderly_upkeep (hosted : List Builtin) (next : Nat) (series : List Upkeep) :
    let w : World := World.upkept { registry := { hosted }, nextGeneration := next } series
    w.IsOrderly ∧
    (∀ b, w.registry.hosts b = true ↔ b ∈ hosted ∨ .install b.family ∈ series) ∧
    (∀ (h : Host) (id : Nat) (d : Definition) (name : String),
      ((∃ e, h.define id d = (.error e, h) ∧
          (Registry.Refusal d.name e ∨
            e = .duplicateOperator d.name ∧ d.name ∈ (h.registry id).names)) ∨
        h.define id d = (.ok (), h.absorb id ((h.world id .empty).adding d)) ∧
          Registry.IsFree d.name ∧ d.name ∉ (h.registry id).names) ∧
      ((∃ e, h.redefine id d = (.error e, h) ∧ Registry.Refusal d.name e) ∨
        h.redefine id d = (.ok ((h.registry id).lookup? d.name),
            h.absorb id ((h.world id .empty).adding d)) ∧
          Registry.IsFree d.name) ∧
      ((∃ e, h.undefine id name = (.error e, h) ∧ Registry.Refusal name e) ∨
        h.undefine id name = (.ok ((h.registry id).lookup? name).isSome,
          h.absorb id ((h.world id .empty).removing name)))) ∧
    ∀ (settings : Settings) (levels : Nat) (site : Site) (t : Term) (s : State),
      let noted : World := s.world.note (.dispatched site.depth t)
      let after := evalAt settings (levels + 1) site t s
      (∃ new, RecordedBy new s.world after.2.world ∧ Record.Traced new) ∧
      (t.operator = .builtin .define →
        (∃ e, t.DefineFails s.world.registry e ∧
            after = (.error (e.leaving site t), { s with world := noted })) ∨
          ∃ d, t.Makes s.world.registry d ∧
            after = (.ok (.boolean true), { s with world := noted.adding d })) ∧
      (t.operator = .builtin .undefine →
        (∃ e, t.UndefineFails s.world.registry e ∧
            after = (.error (e.leaving site t), { s with world := noted })) ∨
          ∃ name, t.Removes s.world.registry name ∧
            after = (.ok (.boolean true), { s with world := noted.removing name })) ∧
      (s.world.registry.IsProper →
        after.2.world.registry.IsProper ∧
        ∀ b, t.name = b.name →
          after =
            if t.operator = .builtin b ∧ s.world.registry.hosts b = true then
              Act.mapError (·.leaving site t) (b.run settings (evalAt settings levels) site t)
                { s with world := noted }
            else (.error (.unknown t), { s with world := noted })) := by
  intro w
  refine ⟨(IsOrderly.start hosted next).upkept series, fun b => ?_,
    fun h id d name => ⟨h.define_cases id d, h.redefine_cases id d, h.undefine_cases id name⟩, ?_⟩
  · refine (hosts_upkept b series _).trans (or_congr_left ?_)
    simp [Registry.hosts]
  · intro settings levels site t s noted after
    refine ⟨?_, evalAt_define, evalAt_undefine, fun proper =>
      ⟨evalAt_lasting isProper_lasting settings (levels + 1) site t s proper,
        fun b named => evalAt_of_builtin_name proper named⟩⟩
    obtain ⟨new, recorded⟩ := evalAt_recorded settings (levels + 1) site t s
    obtain ⟨new', log, traced⟩ := evalAt_traced settings (levels + 1) site t s
    have same : new' = new := (since_eq log).symm.trans recorded.since
    exact ⟨new, recorded, same ▸ traced⟩

/-- A definition from outside, one by a term, a second one of the first name, and a
replacement: the first name keeps its place.  A `defn` of a name that is taken then fails. -/
theorem World.orderly_upkeep_replaced :
    let body : Term := .mk (.builtin .present) [.placeholder 0]
    let hit : Definition := .ofTerm "hit" ⟨body, .blank⟩
    let defining : Term :=
      .mk (.builtin .define) [.field "miss", .nested (.mk (.builtin .absent) [.placeholder 0])]
    let series : List Upkeep :=
      [.install .core, .interruption (.define hit),
        .interruption (.other {} ⟨[], 0⟩ .empty ⟨defining, .blank⟩), .interruption (.define hit),
        .interruption (.redefine { hit with arity := .atLeast 1 })]
    let w := World.upkept { registry := { hosted := [] }, nextGeneration := 1 } series
    w.IsOrderly ∧ w.registry.names = ["hit", "miss"] ∧
      (w.registry.lookup? "hit").map (·.arity) = some (.atLeast 1) ∧
      ∃ e, defining.DefineFails w.registry e ∧
        evalAt {} 1 ⟨[], 0⟩ defining ⟨.blank, w⟩ =
          (.error (e.leaving ⟨[], 0⟩ defining), ⟨.blank, w.note (.dispatched 0 defining)⟩) := by
  intro body hit defining series w
  have names : w.registry.names = ["hit", "miss"] := by decide +kernel +revert
  have lookup : (w.registry.lookup? "hit").map (·.arity) = some (.atLeast 1) := by
    decide +kernel +revert
  obtain ⟨orderly, -, -, evaluated⟩ := orderly_upkeep [] 1 series
  refine ⟨orderly, names, lookup, ?_⟩
  rcases (evaluated {} 0 ⟨[], 0⟩ defining ⟨.blank, w⟩).2.1 rfl with failed | ⟨d, makes, -⟩
  · exact failed
  · have named : d.name = "miss" := (Option.some.inj makes.asks.2.1).symm
    exact absurd (by rw [named, names]; decide) makes.untaken

end FactScan
