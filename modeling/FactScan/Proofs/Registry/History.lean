/-
# FactScan.Proofs.Registry.History — a registry is what its log says

Every change of the custom operators leaves a record.  Read from the latest record on, the
log tells what a name stands for (`Record.standing`), in which order names are listed
(`Record.order`) and which definitions were made under which numbers (`Record.made`).

* `evalAt_recorded`: an evaluation changes the registry by what it records, and by nothing
  else.
* `evalAt_traced`: each record of a change that an evaluation makes comes right after the
  dispatch of a term that asks for that change, so it was a `defn` or `undef` that was
  reached.
-/
import FactScan.Proofs.WorldChanges

namespace FactScan

set_option autoImplicit false

/-! ## Reading the log -/

namespace Record

/-- What a name stands for after records, of which the latest is the first: what the last
record about the name says, and if there is none, what it stood for before. -/
def standing (before : Option Definition) (name : String) : List Record → Option Definition
  | [] => before
  | r :: earlier => if r.changes name then r.definition? else standing before name earlier

/-- The names that are defined after records, of which the latest is the first.  A new name
comes last, one that is there keeps its place, and one that is removed leaves the order of
the others. -/
def order (before : List String) : List Record → List String
  | [] => before
  | .defined d :: earlier =>
    if d.name ∈ order before earlier then order before earlier
    else order before earlier ++ [d.name]
  | .undefined name :: earlier => (order before earlier).filter (· ≠ name)
  | _ :: earlier => order before earlier

/-- The definitions that records made, the latest first, under numbers from `first` on. -/
def made (first : Nat) : List Record → List Definition
  | [] => []
  | .defined d :: earlier =>
    { d with generation := first + (made first earlier).length } :: made first earlier
  | _ :: earlier => made first earlier

/-- A record of something that is no change of the registry. -/
def IsQuiet (r : Record) : Prop := ∀ name, r.changes name = false

variable {r : Record} {new old : List Record}

theorem standing_append (before : Option Definition) (name : String) (new old : List Record) :
    standing before name (new ++ old) = standing (standing before name old) name new := by
  induction new with
  | nil => rfl
  | cons r new ih => rw [List.cons_append, standing, standing, ih]

theorem order_append (before : List String) (new old : List Record) :
    order before (new ++ old) = order (order before old) new := by
  induction new with
  | nil => rfl
  | cons r new ih => cases r <;> simp only [List.cons_append, order, ih]

theorem made_append (first : Nat) (new old : List Record) :
    made first (new ++ old) = made (first + (made first old).length) new ++ made first old := by
  induction new with
  | nil => rfl
  | cons r new ih =>
      cases r with
      | defined d =>
          rw [List.cons_append, made, made, ih, List.cons_append, List.length_append]
          congr 2
          omega
      | _ => exact ih

/-- Only a quiet record changes nothing, whatever the name. -/
theorem quiet_cases (r : Record) :
    r.IsQuiet ∨ (∃ d, r = .defined d) ∨ ∃ name, r = .undefined name := by
  cases r with
  | defined d => exact .inr (.inl ⟨d, rfl⟩)
  | undefined name => exact .inr (.inr ⟨name, rfl⟩)
  | _ => exact .inl fun _ => rfl

theorem not_isQuiet_defined (d : Definition) : ¬ (defined d).IsQuiet := by
  intro quiet
  have changed := quiet d.name
  simp [Record.changes] at changed

theorem standing_quiet (quiet : r.IsQuiet) (before : Option Definition) (name : String) :
    standing before name (r :: old) = standing before name old := by
  rw [standing, quiet name, if_neg Bool.false_ne_true]

theorem order_quiet (quiet : r.IsQuiet) (before : List String) :
    order before (r :: old) = order before old := by
  cases r with
  | defined d => exact absurd quiet (not_isQuiet_defined d)
  | undefined name =>
      have changed := quiet name
      simp [Record.changes] at changed
  | _ => rfl

theorem made_quiet (quiet : r.IsQuiet) (first : Nat) : made first (r :: old) = made first old := by
  cases r with
  | defined d => exact absurd quiet (not_isQuiet_defined d)
  | _ => rfl

/-- Quiet records alone change nothing. -/
theorem standing_of_quiet (quiet : ∀ r ∈ new, r.IsQuiet) (before : Option Definition)
    (name : String) : standing before name new = before := by
  induction new with
  | nil => rfl
  | cons r new ih =>
      rw [standing_quiet (quiet r List.mem_cons_self)]
      exact ih fun r member => quiet r (List.mem_cons_of_mem _ member)

theorem order_of_quiet (quiet : ∀ r ∈ new, r.IsQuiet) (before : List String) :
    order before new = before := by
  induction new with
  | nil => rfl
  | cons r new ih =>
      rw [order_quiet (quiet r List.mem_cons_self)]
      exact ih fun r member => quiet r (List.mem_cons_of_mem _ member)

theorem made_of_quiet (quiet : ∀ r ∈ new, r.IsQuiet) (first : Nat) : made first new = [] := by
  induction new with
  | nil => rfl
  | cons r new ih =>
      rw [made_quiet (quiet r List.mem_cons_self)]
      exact ih fun r member => quiet r (List.mem_cons_of_mem _ member)

/-- Numbers are given out one after the other. -/
theorem generation_of_mem_made {first : Nat} {d : Definition} (member : d ∈ made first new) :
    first ≤ d.generation ∧ d.generation < first + (made first new).length := by
  induction new with
  | nil => cases member
  | cons r old ih =>
      rcases r.quiet_cases with quiet | ⟨d', rfl⟩ | ⟨name, rfl⟩
      · rw [made_quiet quiet] at member ⊢
        exact ih member
      · rw [made] at member ⊢
        rw [List.length_cons]
        rcases List.mem_cons.1 member with rfl | member
        · exact ⟨Nat.le_add_right _ _, Nat.add_lt_add_left (Nat.lt_succ_self _) _⟩
        · have bounds := ih member
          omega
      · exact ih member

theorem pairwise_made (first : Nat) (new : List Record) :
    (made first new).Pairwise fun d e => e.generation < d.generation := by
  induction new with
  | nil => exact .nil
  | cons r old ih =>
      rcases r.quiet_cases with quiet | ⟨d, rfl⟩ | ⟨name, rfl⟩
      · rw [made_quiet quiet]
        exact ih
      · exact .cons (fun e member => (generation_of_mem_made member).2) ih
      · exact ih

end Record

/-! ## The registry and the log -/

/-- A definition without its number. -/
def Definition.unnumbered (d : Definition) : Definition := { d with generation := 0 }

/-- The names of the custom operators in order. -/
def Registry.names (r : Registry) : List String := r.custom.map (·.name)

namespace Registry

theorem names_put (d : Definition) (defs : List Definition) :
    (put d defs).map (·.name) =
      if d.name ∈ defs.map (·.name) then defs.map (·.name) else defs.map (·.name) ++ [d.name] := by
  induction defs with
  | nil => rfl
  | cons e rest ih =>
      by_cases same : e.name = d.name
      · simp [put, same]
      · have other : d.name ≠ e.name := fun h => same h.symm
        by_cases member : d.name ∈ rest.map (·.name)
        · rw [if_pos member] at ih
          simp only [put, beq_iff_eq, same, if_false, List.map_cons, ih, List.mem_cons, other,
            false_or, member, if_true]
        · rw [if_neg member] at ih
          simp only [put, beq_iff_eq, same, if_false, List.map_cons, ih, List.mem_cons, other,
            false_or, member, List.cons_append]

theorem names_filter (name : String) (defs : List Definition) :
    (defs.filter (·.name != name)).map (·.name) = (defs.map (·.name)).filter (· ≠ name) := by
  rw [List.filter_map]
  congr 1
  refine List.filter_congr fun d _ => ?_
  by_cases same : d.name = name <;> simp [same]

theorem mem_names_iff {r : Registry} {name : String} :
    name ∈ r.names ↔ (r.lookup? name).isSome = true := by
  unfold names lookup?
  rw [List.find?_isSome, List.mem_map]
  simp only [beq_iff_eq]

end Registry

namespace World

/-- Between two moments the registry changed by what was recorded. -/
structure RecordedBy (new : List Record) (before after : World) : Prop where
  log : after.log = new ++ before.log
  hosted : after.registry.hosted = before.registry.hosted
  lookup (name : String) : (after.registry.lookup? name).map Definition.unnumbered =
    (Record.standing (before.registry.lookup? name) name new).map Definition.unnumbered
  order : after.registry.names = Record.order before.registry.names new
  numbers : after.nextGeneration =
    before.nextGeneration + (Record.made before.nextGeneration new).length
  /-- Every definition was there, or it was made under its number. -/
  made : ∀ d ∈ after.registry.custom,
    d ∈ before.registry.custom ∨ d ∈ Record.made before.nextGeneration new
  /-- Without a record of a change there is none. -/
  quiet : (∀ r ∈ new, r.IsQuiet) → after.registry = before.registry

/-- Some records tell how the registry changed between two moments. -/
def Recorded (before after : World) : Prop := ∃ new, RecordedBy new before after

namespace RecordedBy

variable {u v w : World} {new new' : List Record}

/-- Changes of the fact and records that are quiet. -/
theorem of_registry (same : w.registry = v.registry) (next : w.nextGeneration = v.nextGeneration)
    (log : w.log = new ++ v.log) (quiet : ∀ r ∈ new, r.IsQuiet) : RecordedBy new v w := by
  refine ⟨log, by rw [same], fun name => ?_, ?_, ?_, fun d member => ?_, fun _ => same⟩
  · rw [same, Record.standing_of_quiet quiet]
  · rw [same, Record.order_of_quiet quiet]
  · rw [next, Record.made_of_quiet quiet]
    rfl
  · rw [same] at member
    exact .inl member

/-- What a name stands for depends on what it stood for, but not on numbers. -/
theorem standing_unnumbered {before before' : Option Definition}
    (same : before.map Definition.unnumbered = before'.map Definition.unnumbered) (name : String)
    (new : List Record) :
    (Record.standing before name new).map Definition.unnumbered =
      (Record.standing before' name new).map Definition.unnumbered := by
  induction new with
  | nil => exact same
  | cons r new ih =>
      rw [Record.standing, Record.standing]
      split
      · rfl
      · exact ih

theorem trans (first : RecordedBy new u v) (second : RecordedBy new' v w) :
    RecordedBy (new' ++ new) u w := by
  have split : Record.made u.nextGeneration (new' ++ new) =
      Record.made v.nextGeneration new' ++ Record.made u.nextGeneration new := by
    rw [Record.made_append, ← first.numbers]
  refine ⟨?_, second.hosted.trans first.hosted, ?_, ?_, ?_, ?_, ?_⟩
  · rw [second.log, first.log, List.append_assoc]
  · intro name
    rw [second.lookup, Record.standing_append]
    exact standing_unnumbered (first.lookup name) name new'
  · rw [second.order, first.order, Record.order_append]
  · rw [second.numbers, first.numbers, split, List.length_append]
    rw [first.numbers]
    omega
  · intro d member
    rw [split, List.mem_append]
    rcases second.made d member with old | new
    · rcases first.made d old with older | new
      · exact .inl older
      · exact .inr (.inr new)
    · exact .inr (.inl new)
  · intro quiet
    rw [second.quiet fun r member => quiet r (List.mem_append_left _ member),
      first.quiet fun r member => quiet r (List.mem_append_right _ member)]

/-- Facts do not matter. -/
theorem against {fact fact' : Fact} (recorded : RecordedBy new { v with fact } w) :
    RecordedBy new v { w with fact := fact' } :=
  ⟨recorded.log, recorded.hosted, recorded.lookup, recorded.order, recorded.numbers,
    recorded.made, recorded.quiet⟩

/-- Records can be told from the logs. -/
theorem since (recorded : RecordedBy new v w) : v.since w = new := since_eq recorded.log

end RecordedBy

theorem Recorded.refl (w : World) : Recorded w w :=
  ⟨[], .of_registry rfl rfl rfl fun _ member => absurd member List.not_mem_nil⟩

theorem Recorded.trans {u v w : World} (first : Recorded u v) (second : Recorded v w) :
    Recorded u w := by
  obtain ⟨new, first⟩ := first
  obtain ⟨new', second⟩ := second
  exact ⟨new' ++ new, first.trans second⟩

/-- A definition put into the registry. -/
theorem recordedBy_adding (w : World) (d : Definition) :
    RecordedBy [.defined d] w (w.adding d) where
  log := rfl
  hosted := rfl
  lookup name := by
    rw [lookup?_adding, Record.standing, Record.standing, Record.changes]
    by_cases same : d.name = name
    · simp only [same, beq_self_eq_true, if_true]
      rfl
    · simp only [beq_iff_eq, same, if_false]
  order := Registry.names_put (w.numbered d) w.registry.custom
  numbers := rfl
  made e member := by
    rcases Registry.mem_put member with rfl | member
    · exact .inr List.mem_cons_self
    · exact .inl member
  quiet quiet := absurd (quiet _ List.mem_cons_self) (Record.not_isQuiet_defined d)

/-- An operator removed from the registry. -/
theorem recorded_removing (w : World) (name : String) : Recorded w (w.removing name) := by
  cases found : w.registry.lookup? name with
  | none =>
      have absent : name ∉ w.registry.names := by
        rw [Registry.mem_names_iff, found]
        exact Bool.false_ne_true
      have same : w.registry.custom.filter (·.name != name) = w.registry.custom := by
        refine List.filter_eq_self.2 fun d member => ?_
        rw [bne_iff_ne]
        exact fun here => absent (here ▸ List.mem_map_of_mem member)
      have unchanged : w.removing name = w := by
        unfold removing
        rw [found, same]
        rfl
      rw [unchanged]
      exact .refl w
  | some d =>
      have log : (w.removing name).log = .undefined name :: w.log := by
        unfold removing
        rw [found]
        rfl
      refine ⟨[.undefined name], log, by rw [registry_removing], ?_, ?_, ?_, ?_, ?_⟩
      · intro other
        rw [registry_removing]
        have at_ := Registry.lookup?_filter w.registry name other
        unfold Registry.lookup? at at_ ⊢
        rw [at_, Record.standing, Record.standing, Record.changes]
        by_cases here : other = name
        · simp [here, Record.definition?]
        · have elsewhere : ¬ (name == other) = true := by
            rw [beq_iff_eq]
            exact fun same => here same.symm
          rw [if_neg here, if_neg elsewhere]
      · rw [registry_removing]
        exact Registry.names_filter name w.registry.custom
      · rw [nextGeneration_removing]
        rfl
      · intro e member
        rw [registry_removing] at member
        exact .inl (List.mem_filter.1 member).1
      · intro quiet
        have changed := quiet _ List.mem_cons_self name
        simp [Record.changes] at changed

theorem recorded_define {w w' : World} {d : Definition} (made : w.define d = .ok w') :
    Recorded w w' := by
  obtain ⟨-, -, rfl⟩ := define_eq_ok.1 made
  exact ⟨_, recordedBy_adding w d⟩

theorem recorded_redefine {w w' : World} {d : Definition} {replaced : Option Definition}
    (made : w.redefine d = .ok (w', replaced)) : Recorded w w' := by
  obtain ⟨-, -, rfl⟩ := redefine_eq_ok.1 made
  exact ⟨_, recordedBy_adding w d⟩

theorem recorded_undefine {w w' : World} {name : String} {removed : Bool}
    (done : w.undefine name = .ok (w', removed)) : Recorded w w' := by
  rw [undefine_apply] at done
  split at done
  · cases done
  · cases done
    exact recorded_removing w name

theorem recorded_lasting : Lasting Recorded where
  refl := .refl
  trans := .trans
  note w r quiet := ⟨[r], .of_registry rfl rfl rfl fun r' member => by
    rw [List.mem_singleton.1 member]
    exact quiet⟩
  append _ _ := ⟨[], .of_registry rfl rfl rfl fun _ member => absurd member List.not_mem_nil⟩
  define _ := recorded_define
  undefine _ := recorded_undefine
  against := fun ⟨new, recorded⟩ => ⟨new, recorded.against⟩

end World

/-- **An evaluation changes the registry by what it records.** -/
theorem evalAt_recorded (settings : Settings) (levels : Nat) (site : Site) (t : Term)
    (s : State) : s.world.Recorded (evalAt settings levels site t s).2.world :=
  evalAt_lasting World.recorded_lasting settings levels site t s

/-! ## Names -/

/-- The custom operators have proper names, each its own. -/
structure Registry.IsProper (r : Registry) : Prop where
  named : ∀ name ∈ r.names, checkName name = .ok ()
  nodup : r.names.Nodup

namespace World

theorem isProper_adding {w : World} {d : Definition} (proper : w.registry.IsProper)
    (named : Registry.checkName d.name = .ok ()) : (w.adding d).registry.IsProper := by
  have names : (w.adding d).registry.names =
      if d.name ∈ w.registry.names then w.registry.names else w.registry.names ++ [d.name] :=
    Registry.names_put (w.numbered d) w.registry.custom
  constructor
  · intro name member
    rw [names] at member
    split at member
    · exact proper.named name member
    · rcases List.mem_append.1 member with old | new
      · exact proper.named name old
      · rw [List.mem_singleton.1 new]
        exact named
  · rw [names]
    split
    · exact proper.nodup
    · rename_i absent
      refine List.nodup_append.2 ⟨proper.nodup, List.pairwise_singleton _ _, ?_⟩
      intro name old other new same
      rw [List.mem_singleton.1 new] at same
      exact absent (same ▸ old)

theorem isProper_removing {w : World} (proper : w.registry.IsProper) (name : String) :
    (w.removing name).registry.IsProper := by
  have names : (w.removing name).registry.names = w.registry.names.filter (· ≠ name) := by
    rw [registry_removing]
    exact Registry.names_filter name w.registry.custom
  constructor
  · intro other member
    rw [names] at member
    exact proper.named other (List.mem_filter.1 member).1
  · rw [names]
    exact proper.nodup.filter _

theorem isProper_lasting : Lasting fun w w' => w.registry.IsProper → w'.registry.IsProper where
  refl _ proper := proper
  trans first second proper := second (first proper)
  note _ _ _ proper := proper
  append _ _ proper := proper
  define _ made proper := by
    obtain ⟨named, -, rfl⟩ := define_eq_ok.1 made
    exact isProper_adding proper named
  undefine {w w' name removed} _ done proper := by
    rw [undefine_apply] at done
    split at done
    · cases done
    · cases done
      exact isProper_removing proper name
  against lasted proper := lasted proper

end World

/-! ## Changes that a term asks for -/

/-- The term is a `defn` or an `undef`, and the record says that what it asks for was done:
its own body was registered under its name, or the operator of its name was removed. -/
def Term.Asks (t : Term) : Record → Prop
  | .defined d => t.operator = .builtin .define ∧ t.symbol? 0 = some d.name ∧
      ∃ body memory, (t.operand? 1).bind Operand.carried? = some body ∧
        d = .ofTerm d.name ⟨body, memory⟩
  | .undefined name => t.operator = .builtin .undefine ∧ t.symbol? 0 = some name
  | _ => False

/-- Every record of a change comes right after the dispatch of a term that asks for it. -/
inductive Record.Traced : List Record → Prop
  | nil : Traced []
  | quiet {r : Record} {old : List Record} : r.IsQuiet → Traced old → Traced (r :: old)
  | change {r : Record} {old : List Record} {depth : Nat} {t : Term} : t.Asks r → Traced old →
      Traced (r :: .dispatched depth t :: old)

theorem Record.Traced.append {new old : List Record} (first : Traced old) (second : Traced new) :
    Traced (new ++ old) := by
  induction second with
  | nil => exact first
  | quiet quiet _ ih => exact .quiet quiet ih
  | change asks _ ih => exact .change asks ih

/-- Why a `defn` fails in a registry: the first thing that is wrong with it. -/
inductive Term.DefineFails (t : Term) (r : Registry) : EvalError → Prop
  | unhosted : r.hosts .define = false → DefineFails t r (.unknown t)
  | operands {e : EvalError} : r.hosts .define = true → t.DefinesNothing e → DefineFails t r e
  | refused {name : String} {body : Term} {e : EvalError} : r.hosts .define = true →
      t.Defines name body → Registry.Refusal name e → DefineFails t r e
  | duplicate {name : String} {body : Term} : r.hosts .define = true → t.Defines name body →
      Registry.IsFree name → name ∈ r.names → DefineFails t r (.duplicateOperator name)

/-- What a `defn` can put into a registry: the body it carries, under its name, which is free
and not taken. -/
structure Term.Makes (t : Term) (r : Registry) (d : Definition) : Prop where
  asks : t.Asks (.defined d)
  hosted : r.hosts .define = true
  defines : ∃ body, t.Defines d.name body
  free : Registry.IsFree d.name
  untaken : d.name ∉ r.names

/-- Why an `undef` fails in a registry: the first thing that is wrong with it. -/
inductive Term.UndefineFails (t : Term) (r : Registry) : EvalError → Prop
  | unhosted : r.hosts .undefine = false → UndefineFails t r (.unknown t)
  | arity : r.hosts .undefine = true → t.arity ≠ 1 →
      UndefineFails t r (.arity t.name (.exactly 1) t.arity t.text)
  | symbol : r.hosts .undefine = true → t.arity = 1 → t.symbol? 0 = none →
      UndefineFails t r (.wrongOperand t 0 "symbol")
  | reserved (b : Builtin) : r.hosts .undefine = true → t.arity = 1 →
      t.symbol? 0 = some b.name → UndefineFails t r (.reservedOperator b.name)

/-- What an `undef` can remove from a registry: whatever has its name, if no built-in operator
has it. -/
structure Term.Removes (t : Term) (r : Registry) (name : String) : Prop where
  asks : t.Asks (.undefined name)
  hosted : r.hosts .undefine = true
  arity : t.arity = 1
  unreserved : ∀ b : Builtin, b.name ≠ name

section

variable {t : Term} {s : State}

/-- A hosted `defn` fails and does nothing, or registers its own body under its name. -/
theorem Operators.define_asks (operator : t.operator = .builtin .define)
    (hosted : s.world.registry.hosts .define = true) :
    (∃ e, t.DefineFails s.world.registry e ∧ define t s = (.error e, s)) ∨
      ∃ d, t.Makes s.world.registry d ∧
        define t s = (.ok (.boolean true), { s with world := s.world.adding d }) := by
  rcases define_cases t with ⟨e, nothing, run⟩ | ⟨name, body, defines, run⟩
  · exact .inl ⟨e, .operands hosted nothing, run s⟩
  have made := World.define_apply s.world (.ofTerm name ⟨body, s.memory.child 1⟩)
  rw [show (Definition.ofTerm name ⟨body, s.memory.child 1⟩).name = name from rfl] at made
  rcases Registry.checkName_cases name with ⟨e, refused, refusal⟩ | ⟨named, free⟩
  · rw [refused] at made
    exact .inl ⟨e, .refused hosted defines refusal, by rw [run, made]⟩
  · rw [named] at made
    cases found : s.world.registry.lookup? name with
    | some there =>
        rw [found] at made
        have taken := Registry.mem_names_iff.2 (by rw [found]; rfl)
        exact .inl ⟨_, .duplicate hosted defines free taken, by rw [run, made]⟩
    | none =>
        rw [found] at made
        have untaken : name ∉ s.world.registry.names := fun taken => by
          have there := Registry.mem_names_iff.1 taken
          rw [found] at there
          cases there
        refine .inr ⟨.ofTerm name ⟨body, s.memory.child 1⟩, ⟨⟨operator, defines.symbol, body, _,
          defines.carried, rfl⟩, hosted, ⟨body, defines⟩, free, untaken⟩, ?_⟩
        rw [run, made]

/-- A hosted `undef` fails and does nothing, or removes the operator of its name. -/
theorem Operators.undefine_asks (operator : t.operator = .builtin .undefine)
    (hosted : s.world.registry.hosts .undefine = true) :
    (∃ e, t.UndefineFails s.world.registry e ∧ undefine t s = (.error e, s)) ∨
      ∃ name, t.Removes s.world.registry name ∧
        undefine t s = (.ok (.boolean true), { s with world := s.world.removing name }) := by
  unfold undefine
  by_cases arity : t.arity = 1
  rotate_left
  · rw [checkArity_exactly arity]
    exact .inl ⟨_, .arity hosted arity, rfl⟩
  have admitted : checkArity t (.exactly 1) = pure () := checkArity_of_admits (beq_iff_eq.2 arity)
  rw [admitted, symbol_eq]
  cases named : t.symbol? 0 with
  | none => exact .inl ⟨_, .symbol hosted arity named, rfl⟩
  | some name =>
      have run : (pure () >>= fun _ => pure name >>= fun name => do
            Act.change fun w => (w.undefine name).map (·.1)
            return .boolean true : Act Value) s =
          (Act.change (fun w => (w.undefine name).map (·.1)) >>= fun _ =>
            (pure (.boolean true) : Act Value)) s := rfl
      have done := World.undefine_apply s.world name
      cases reserved : Builtin.ofName? name with
      | some b =>
          obtain rfl := Builtin.name_of_ofName? reserved
          rw [reserved] at done
          refine .inl ⟨_, .reserved b hosted arity named, run.trans ?_⟩
          exact Act.bind_error (Act.undefine_error done) _
      | none =>
          rw [reserved] at done
          refine .inr ⟨name, ⟨⟨operator, named⟩, hosted, arity,
            Registry.ofName?_eq_none.1 reserved⟩, ?_⟩
          exact run.trans (Act.bind_ok (Act.undefine_ok done) _)

end

namespace Act

/-- An act whose changes of the registry are all traced. -/
def Traces (α : Type) (act : Unit → Act α) : Prop :=
  ∀ s : State, ∃ new, (act () s).2.world.log = new ++ s.world.log ∧ Record.Traced new

namespace Traces

variable {α : Type} {act : Unit → Act α}

/-- An act that adds nothing to the log. -/
theorem of_log (same : ∀ s, (act () s).2.world.log = s.world.log) : Traces α act :=
  fun s => ⟨[], same s, .nil⟩

theorem note {r : Record} (quiet : r.IsQuiet) : Traces Unit fun _ => Act.note r :=
  fun _ => ⟨[r], rfl, .quiet quiet .nil⟩

theorem closed : Closed Traces where
  pure _ := .of_log fun _ => rfl
  fail _ := .of_log fun _ => rfl
  bind {_ _ act f} first next := by
    intro s
    obtain ⟨new, log, traced⟩ := first s
    dsimp only
    rcases bind_cases (act ()) (f ()) s with ⟨a, s₁, ran, whole⟩ | ⟨e, s₁, ran, whole⟩
    · rw [ran] at log
      rw [whole]
      obtain ⟨new', log', traced'⟩ := next a s₁
      exact ⟨new' ++ new, by rw [log', log, List.append_assoc], traced.append traced'⟩
    · rw [ran] at log
      rw [whole]
      exact ⟨new, log, traced⟩
  overlay row act inside s :=
    inside { s with world := { s.world with fact := .overlay row s.world.fact } }
  vacant inside s := inside { s with world := { s.world with fact := .empty } }

theorem looks (field : String) : Looks Traces field where
  read := .of_log fun _ => rfl
  holds := .of_log fun _ => rfl

/-- The steps that only some operators take, those that ask for changes aside. -/
theorem permitted (t : Term) (level : Level) {b : Builtin} (noDefine : b ≠ .define)
    (noUndefine : b ≠ .undefine) : b.Permitted Traces level fun _ => t where
  exchange _ _ := .of_log fun _ => rfl
  collect _ _ := .of_log fun _ => rfl
  pattern _ source := by
    refine .of_log fun s => ?_
    show (Operators.patternOf source s).2.world.log = s.world.log
    rw [Operators.patternOf_eq]
    split <;> rfl
  append _ field _ a := by
    refine .of_log fun s => ?_
    show (Act.append field a s).2.world.log = s.world.log
    unfold Act.append
    split <;> rfl
  define is := absurd is noDefine
  undefine is := absurd is noUndefine
  kept _ k n := note fun _ => rfl
  traced _ v := note fun _ => rfl

theorem counterparts {evaluate : Evaluator}
    (below : ∀ site c, Traces Value fun _ => evaluate site c) (depth : Nat) (t : Term) :
    Counterparts Traces (fun _ => evaluate) (fun _ => depth) fun _ => t :=
  .ofTerm (fun p c _ rows s => below ⟨rows, depth + 1⟩ c { s with memory := s.memory.child p })
    (fun _ name _ => looks name) (fun _ => .of_log fun _ => rfl) fun _ _ => .of_log fun _ => rfl

end Traces

end Act

/-- A call of a custom operator asks for nothing itself. -/
theorem Definition.run_traces {evaluate : Evaluator}
    (below : ∀ site c, Act.Traces Value fun _ => evaluate site c) (d : Definition) (site : Site)
    (t : Term) : Act.Traces Value fun _ => d.run evaluate site t := by
  cases admitted : d.arity.admits t.arity with
  | false =>
      refine .of_log fun s => ?_
      show (d.run evaluate site t s).2.world.log = s.world.log
      rw [run_refused admitted]
  | true =>
      cases isBody : d.body with
      | expression body =>
          intro s
          show ∃ new, (d.run evaluate site t s).2.world.log = _ ∧ _
          rw [run_expression isBody admitted]
          obtain ⟨new, log, traced⟩ := below site.deeper (d.expansionFor body t s.memory).term
            ⟨(d.expansionFor body t s.memory).memory, d.worldFor t s.memory s.world⟩
          replace log : _ = new ++ (d.worldFor t s.memory s.world).log := log
          rcases d.worldFor_cases t s.memory s.world with same | noted
          · exact ⟨new, log.trans (by rw [same]), traced⟩
          · refine ⟨new ++ [.expanding d.name t.arity], log.trans ?_, ?_⟩
            · rw [noted, List.append_assoc]
              rfl
            · exact Record.Traced.append (.quiet (fun _ => rfl) .nil) traced
      | native run =>
          rw [run_native isBody admitted]
          have L := Act.Traces.closed
          refine L.bind (resolveAll_closed L.toComposes (Act.Traces.counterparts below site.depth t)
            t.positions) fun args => .of_log fun s => ?_
          show (Act.ofExcept (run args s.world.fact site.rows) s).2.world.log = s.world.log
          cases run args s.world.fact site.rows <;> rfl

/-- One step: the dispatch is recorded before whatever the operator does. -/
theorem dispatch_traces {evaluate : Evaluator}
    (below : ∀ site c, Act.Traces Value fun _ => evaluate site c) (settings : Settings)
    (site : Site) (t : Term) : Act.Traces Value fun _ => dispatch settings evaluate site t := by
  have noted : Record.Traced [.dispatched site.depth t] := .quiet (fun _ => rfl) .nil
  -- What comes after the dispatch, if it is traced by itself.
  have after (s : State) {act : Act Value}
      (runs : Act.Traces Value fun _ => act) :
      ∃ new, (act { s with world := s.world.note (.dispatched site.depth t) }).2.world.log =
        new ++ s.world.log ∧ Record.Traced new := by
    obtain ⟨new, log, traced⟩ := runs { s with world := s.world.note (.dispatched site.depth t) }
    refine ⟨new ++ [.dispatched site.depth t], ?_, noted.append traced⟩
    rw [List.append_assoc]
    exact log
  intro s
  show ∃ new, (dispatch settings evaluate site t s).2.world.log = _ ∧ _
  cases operator : t.operator with
  | custom name =>
      cases found : s.world.registry.lookup? name with
      | none =>
          rw [dispatch_undefined operator found]
          exact ⟨[.dispatched site.depth t], rfl, noted⟩
      | some d =>
          rw [dispatch_custom operator found, Act.mapError_state]
          exact after s (Definition.run_traces below d site t)
  | builtin b =>
      cases hosted : s.world.registry.hosts b with
      | false =>
          rw [dispatch_unhosted operator hosted]
          exact ⟨[.dispatched site.depth t], rfl, noted⟩
      | true =>
          rw [dispatch_builtin operator hosted, Act.mapError_state]
          by_cases define : b = .define
          · subst define
            show ∃ new, (Operators.define t _).2.world.log = _ ∧ _
            rcases Operators.define_asks operator
              (s := { s with world := s.world.note (.dispatched site.depth t) }) hosted with
              ⟨e, -, run⟩ | ⟨d, makes, run⟩
            · rw [run]
              exact ⟨[.dispatched site.depth t], rfl, noted⟩
            · rw [run]
              exact ⟨[.defined d, .dispatched site.depth t], rfl, .change makes.asks .nil⟩
          · by_cases undefine : b = .undefine
            · subst undefine
              show ∃ new, (Operators.undefine t _).2.world.log = _ ∧ _
              rcases Operators.undefine_asks operator
                (s := { s with world := s.world.note (.dispatched site.depth t) }) hosted with
                ⟨e, -, run⟩ | ⟨name, removes, run⟩
              · rw [run]
                exact ⟨[.dispatched site.depth t], rfl, noted⟩
              · rw [run]
                dsimp only
                unfold World.removing
                dsimp only
                split
                · exact ⟨[.undefined name, .dispatched site.depth t], rfl,
                    .change removes.asks .nil⟩
                · exact ⟨[.dispatched site.depth t], rfl, noted⟩
            · exact after s (Builtin.run_closed Act.Traces.closed
                (Act.Traces.counterparts below site.depth t) settings b
                (Act.Traces.permitted t _ define undefine))

/-- **An evaluation changes the registry only through terms it reached**: each record of a
change comes right after the dispatch of the `defn` or `undef` that asked for it. -/
theorem evalAt_traced (settings : Settings) : ∀ levels site t,
    Act.Traces Value fun _ => evalAt settings levels site t
  | 0, _, _ => .of_log fun _ => rfl
  | levels + 1, site, t => dispatch_traces (evalAt_traced settings levels) settings site t

end FactScan
