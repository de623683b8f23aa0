/-
# FactScan.Proofs.Simplify.Simulation — evaluating refined instances side by side

An instance that refines another stands in for it at every depth (`Refines.standsIn`): as
long as the first evaluation succeeds, the second gives the same value, in a world that
agrees, and what the two instances remember then refines again.  The induction is on the
levels left; for a term of operands that refine one another, every built-in operator follows
by what holds of all of them (`Builtin.run_closed`), and a custom one by filling in its body
on both sides (`call_follows`).
-/
import FactScan.Proofs.Simplify.Worth

namespace FactScan

set_option autoImplicit false

namespace Refines

/-- With so many levels left, an instance gives what another gives when that succeeds. -/
def StandsIn (settings : Settings) (levels : Nat) (i j : Instance) : Prop :=
  ∀ (site : Site) (w w' : World) (v : Value) (s₁ : State), w.Agrees w' → w.Ready →
    evalAt settings levels site i.term ⟨i.memory, w⟩ = (.ok v, s₁) → s₁.world.Tame →
      ∃ s₁', evalAt settings levels site j.term ⟨j.memory, w'⟩ = (.ok v, s₁') ∧
        Refines settings ⟨i.term, s₁.memory⟩ ⟨j.term, s₁'.memory⟩ ∧
        s₁.world.Agrees s₁'.world

/-- Memories of operands that refine one another, and blocks that are related by `B`. -/
def Linked (settings : Settings) (place : Nat → Nat) (os os' : List Operand)
    (B : Option Block → Option Block → Prop) (m m' : Memory) : Prop :=
  Operands settings place os os' m.child m'.child ∧ B m.block m'.block

variable {settings : Settings} {levels : Nat} {place : Nat → Nat} {os os' : List Operand}
variable {B : Option Block → Option Block → Prop}

/-! ## Operands -/

section

variable (below : ∀ i j, Refines settings i j → StandsIn settings levels i j)
include below

/-- Operands on their own memories, each at its position. -/
theorem atChild_follows (injective : place.Injective) {position : Bool → Nat}
    (placed : position true = place (position false)) (t : Bool → Term)
    (at_ : os[position true]?.bind Operand.carried? = some (t true))
    (at_' : os'[position false]?.bind Operand.carried? = some (t false)) (site : Site) :
    Act.Follows (Linked settings place os os' B) Value fun first =>
      Act.atChild (position first) (evalAt settings levels site (t first)) := by
  refine ⟨fun s => evalAt_lasting World.staysReady_lasting settings levels site (t true)
    { s with memory := s.memory.child (position true) }, ?_⟩
  intro s s' v s₁ linked agrees ready ran tame
  rw [placed] at at_
  have refines := linked.1 (position false) _ _ at_ at_'
  rw [← placed] at refines
  replace ran : Act.atChild (position true) (evalAt settings levels site (t true)) s = _ := ran
  rw [Act.atChild_apply] at ran
  generalize inner : evalAt settings levels site (t true)
    { s with memory := s.memory.child (position true) } = outcome at ran
  obtain ⟨result, s₂⟩ := outcome
  cases ran
  obtain ⟨s₂', ran', refines₂, agrees₂⟩ := below _ _ refines site _ _ v s₂ agrees ready inner tame
  refine ⟨{ s₂' with memory := s'.memory.setChild (position false) s₂'.memory }, ?_, ?_, agrees₂⟩
  · show Act.atChild (position false) (evalAt settings levels site (t false)) s' = _
    rw [Act.atChild_apply, ran']
  · refine ⟨?_, linked.2⟩
    intro k u u' here here'
    by_cases same : k = position false
    · subst same
      obtain rfl : u = t true := Option.some.inj (here.symm.trans at_)
      obtain rfl : u' = t false := Option.some.inj (here'.symm.trans at_')
      rw [← placed, Memory.child_setChild_self, Memory.child_setChild_self]
      exact refines₂
    · have apart : position true ≠ place k := by
        rw [placed]
        exact fun h => same (injective h).symm
      rw [Memory.child_setChild_ne _ apart, Memory.child_setChild_ne _ (Ne.symm same)]
      exact linked.1 k u u' here here'

theorem operand_alike (injective : place.Injective) (position : Bool → Nat)
    (placed : position true = place (position false))
    (same : os[position true]?.map Operand.shape = os'[position false]?.map Operand.shape)
    (depth : Nat) :
    Operand.Alike (Act.Follows (Linked settings place os os' B)) (fun _ => evalAt settings levels)
      (fun _ => depth) position fun first => (cond first os os')[position first]? := by
  have both {o : Bool → Option Operand} (h : os[position true]? = o true)
      (h' : os'[position false]? = o false) :
      ∀ first, (cond first os os')[position first]? = o first := by
    rintro (_ | _)
    · exact h'
    · exact h
  cases h : os[position true]? with
  | none =>
      cases h' : os'[position false]? with
      | none => exact .missing (both h h')
      | some o' => simp [h, h'] at same
  | some o =>
      cases h' : os'[position false]? with
      | none => simp [h, h'] at same
      | some o' =>
          have child (t : Bool → Term) (carried : o.carried? = some (t true))
              (carried' : o'.carried? = some (t false)) (rows : List Row) :=
            atChild_follows (B := B) below injective placed t (by rw [h]; exact carried)
              (by rw [h']; exact carried') ⟨rows, depth + 1⟩
          rw [h, h'] at same
          rcases Operand.shape_cases (Option.some.inj same) with ⟨t, t', rfl, rfl⟩ | rfl
          · refine .nested (fun first => cond first t t') (both h h') ?_
            exact child _ rfl rfl
          · cases o with
            | literal a =>
                refine .literal a (both h h') fun c rows is => ?_
                subst is
                exact child (fun _ => c) rfl rfl rows
            | field name => exact .field name (both h h') (Act.Follows.looks _ name)
            | placeholder n => exact .placeholder n (both h h')
            | nested t => exact .nested (fun _ => t) (both h h') (child _ rfl rfl)

end

/-! ## Steps of their own -/

theorem Blocks.refl (b : Option Block) : Blocks settings b b := by
  refine ⟨rfl, ?_⟩
  rintro g t u g' t' u' rfl is
  cases is
  exact .refl _

theorem Blocks.cases {b b' : Option Block} (blocks : Blocks settings b b') :
    b = b' ∨ ∃ g t u t' u', b = some (.expansion g t u) ∧ b' = some (.expansion g t' u') ∧
      Refines settings ⟨t, u⟩ ⟨t', u'⟩ := by
  obtain ⟨outline, held⟩ := blocks
  rcases b with _ | (_ | _ | _ | ⟨g, t, u⟩) <;> rcases b' with _ | (_ | _ | _ | ⟨g', t', u'⟩) <;>
    simp only [Option.map_none, Option.map_some, Block.outline, reduceCtorEq, Option.some.injEq,
      Sum.inl.injEq, Sum.inr.injEq] at outline
  case some.expansion.some.expansion =>
    subst outline
    exact .inr ⟨g, t, u, t', u', rfl, rfl, held g t u g t' u' rfl rfl⟩
  all_goals first
    | exact .inl rfl
    | exact .inl (by rw [outline])

/-- Operators see no difference between two expansions. -/
theorem Blocks.insensitive {b b' : Option Block} (blocks : Blocks settings b b') :
    Operators.previousOf b = Operators.previousOf b' ∧
      Operators.seenOf b = Operators.seenOf b' ∧
      ∀ source, Operators.patternHeld? source b = Operators.patternHeld? source b' := by
  rcases blocks.cases with rfl | ⟨g, t, u, t', u', rfl, rfl, _⟩
  · exact ⟨rfl, rfl, fun _ => rfl⟩
  · exact ⟨rfl, rfl, fun _ => rfl⟩

/-- Terms of one operator whose operands and blocks refine one another. -/
abbrev Alike (settings : Settings) (os os' : List Operand) : Memory → Memory → Prop :=
  Linked settings id os os' (Blocks settings)

theorem fail_follows {α : Type} {M : Memory → Memory → Prop} (e : Bool → EvalError) :
    Act.Follows M α fun first => Act.fail (e first) := by
  refine ⟨fun s => World.staysReady_lasting.refl s.world, ?_⟩
  rintro s s' _ _ - - - ⟨⟩

/-- The steps that only some operators take, but for `defn`. -/
theorem permitted (level : Level) (term : Bool → Term) {b : Builtin} (other : b ≠ .define) :
    b.Permitted (Act.Follows (Alike settings os os')) level term := by
  have keeps := Act.Keeps.permitted World.staysReady_lasting level (term true) (b := b) trivial
    fun _ _ _ => trivial
  refine ⟨fun is v => ⟨keeps.exchange is v, ?exchange⟩,
    fun is keys => ⟨keeps.collect is keys, ?collect⟩,
    fun is source => ⟨keeps.pattern is source, ?pattern⟩,
    fun is field named a => ⟨keeps.append is field (fun _ => named true) a, ?append⟩,
    fun is => absurd is other,
    fun is name => ⟨keeps.undefine is name, ?undefine⟩, fun is k n => ⟨keeps.kept is k n, ?kept⟩,
    fun is v => ⟨keeps.traced is v, ?traced⟩⟩
  case exchange =>
    rintro s s' _ _ ⟨operands, blocks⟩ agrees - ⟨⟩ -
    rw [blocks.insensitive.1]
    exact ⟨_, rfl, ⟨operands, .refl _⟩, agrees⟩
  case collect =>
    rintro s s' _ _ ⟨operands, blocks⟩ agrees - ⟨⟩ -
    rw [blocks.insensitive.2.1]
    exact ⟨_, rfl, ⟨operands, .refl _⟩, agrees⟩
  case pattern =>
    intro s s' p s₁ linked agrees _ ran _
    replace ran : Operators.patternOf source s = (.ok p, s₁) := ran
    show ∃ s₁', Operators.patternOf source s' = _ ∧ _
    rw [Operators.patternOf_apply] at ran ⊢
    rw [← linked.2.insensitive.2.2 source]
    split at ran
    · cases ran
      exact ⟨s', rfl, linked, agrees⟩
    · split at ran
      · cases ran
        exact ⟨_, rfl, ⟨linked.1, .refl _⟩, agrees⟩
      · cases ran
  case append =>
    intro s s' _ s₁ linked agrees _ ran _
    replace ran : Act.append field a s = (.ok _, s₁) := ran
    show ∃ s₁', Act.append field a s' = _ ∧ _
    unfold Act.append at ran ⊢
    rw [← agrees.fact]
    split at ran
    · rename_i fact appended
      cases ran
      exact ⟨_, rfl, linked, agrees.against fact⟩
    · cases ran
  case undefine =>
    intro s s' _ s₁ linked agrees _ ran _
    replace ran : Act.change (fun w => (w.undefine name).map (·.1)) s = (.ok _, s₁) := ran
    show ∃ s₁', Act.change (fun w => (w.undefine name).map (·.1)) s' = _ ∧ _
    cases done : s.world.undefine name with
    | error e =>
        rw [Act.undefine_error done] at ran
        cases ran
    | ok r =>
        obtain ⟨w, done', agrees'⟩ := agrees.undefine done
        rw [Act.undefine_ok done] at ran
        rw [Act.undefine_ok done']
        cases ran
        exact ⟨_, rfl, linked, agrees'⟩
  case kept =>
    rintro s s' _ _ linked agrees - ⟨⟩ -
    exact ⟨_, rfl, linked, agrees.note rfl rfl⟩
  case traced =>
    rintro s s' _ _ linked agrees - ⟨⟩ -
    exact ⟨_, rfl, linked, agrees.note rfl rfl⟩

/-! ## Custom operators -/

/-- What a call runs on either side. -/
theorem expansionFor (op : Operator) {m m' : Memory}
    (same : os.map Operand.shape = os'.map Operand.shape)
    (alike : Alike settings os os' m m') {d : Definition} {body : Instance}
    (isTerm : d.body = .expression body) (tame : d.IsTame) :
    Refines settings (d.expansionFor body (.mk op os) m)
      (d.expansionFor body (.mk op os') m') := by
  obtain ⟨operands, blocks⟩ := alike
  have filled : Refines settings (body.instantiate ⟨.mk op os, m⟩)
      (body.instantiate ⟨.mk op os', m'⟩) :=
    instantiate same operands (tame body isTerm) body.memory
  unfold Definition.expansionFor
  rcases blocks.cases with same_ | ⟨g, t, u, t', u', h, h', refines⟩
  · rw [same_]
    split
    · split
      · exact .refl _
      · exact filled
    · exact filled
  · rw [h, h']
    dsimp only
    split
    · exact refines
    · exact filled

theorem worldFor_agrees (d : Definition) (t : Term) (m : Memory) (w : World) :
    w.Agrees (d.worldFor t m w) := by
  unfold Definition.worldFor
  split
  · exact .refl w
  · exact .noted w rfl

section

variable (below : ∀ i j, Refines settings i j → StandsIn settings levels i j)
include below

theorem counterparts (op : Operator) (same : os.map Operand.shape = os'.map Operand.shape)
    (depth : Nat) :
    Counterparts (Act.Follows (Alike settings os os')) (fun _ => evalAt settings levels)
      (fun _ => depth) fun first => .mk op (cond first os os') where
  arity := by
    have lengths := congrArg List.length same
    rw [List.length_map, List.length_map] at lengths
    refine ⟨os.length, ?_⟩
    rintro (_ | _)
    · exact lengths.symm
    · rfl
  operand p := operand_alike below Function.injective_id _ rfl (Operand.shape_eq same p) depth
  wrongArity expected := fail_follows _
  wrongOperand p expected := fail_follows _

/-- Calls of an operator that a term defines. -/
theorem expression_follows {name : String} (same : os.map Operand.shape = os'.map Operand.shape)
    {d : Definition} {body : Instance} (isBody : d.body = .expression body) (tame : d.IsTame)
    (admits : d.arity.admits os.length = true) (admits' : d.arity.admits os'.length = true)
    (site : Site) :
    Act.Follows (Alike settings os os') Value fun first =>
      d.run (evalAt settings levels) site (.mk (.custom name) (cond first os os')) := by
  refine ⟨Definition.run_lasting World.staysReady_lasting
    (evalAt_lasting World.staysReady_lasting settings levels) d, ?_⟩
  intro s s' v s₁ alike agrees ready ran tameLog
  have refines := expansionFor (.custom name) same alike isBody tame
  have started := worldFor_agrees d (.mk (.custom name) os) s.memory s.world
  have started' := worldFor_agrees d (.mk (.custom name) os') s'.memory s'.world
  have runs := @Definition.run_expression d body (.mk (.custom name) os) isBody admits
    (evalAt settings levels) site s
  have runs' := @Definition.run_expression d body (.mk (.custom name) os') isBody admits'
    (evalAt settings levels) site s'
  rw [Act.inExpansion_apply] at runs runs'
  generalize d.expansionFor body (.mk (.custom name) os) s.memory = i at refines runs
  generalize d.expansionFor body (.mk (.custom name) os') s'.memory = j at refines runs'
  generalize inner : evalAt settings levels site.deeper i.term ⟨i.memory,
    d.worldFor (.mk (.custom name) os) s.memory s.world⟩ = outcome at runs
  obtain ⟨result, s₂⟩ := outcome
  cases runs.symm.trans ran
  obtain ⟨s₂', ran', refines₂, agrees₂⟩ := below i j refines site.deeper _ _ v s₂
    ((started.symm.trans agrees).trans started') (started.ready ready) inner tameLog
  simp only [ran'] at runs'
  refine ⟨_, runs', ⟨alike.1, rfl, ?_⟩, agrees₂⟩
  intro g t u g' t' u' is is'
  cases is
  cases is'
  exact refines₂

/-- Calls of an operator of the host. -/
theorem native_follows {name : String} (same : os.map Operand.shape = os'.map Operand.shape)
    {d : Definition} {run : Native} (isBody : d.body = .native run)
    (admits : ∀ first, d.arity.admits
      (Term.mk (.custom name) (cond first os os')).arity = true)
    (site : Site) :
    Act.Follows (Alike settings os os') Value fun first =>
      d.run (evalAt settings levels) site (.mk (.custom name) (cond first os os')) := by
  have L := Act.Follows.closed (Alike settings os os')
  have C := counterparts below (.custom name) same site.depth
  obtain ⟨n, arity⟩ := C.arity
  have args : Act.Follows (Alike settings os os') (List Value) fun first =>
      resolveAll (evalAt settings levels) site (.mk (.custom name) (cond first os os'))
        (List.range n) :=
    resolveAll_closed L.toComposes C (List.range n)
  have runs (first : Bool) := Definition.run_native isBody (admits first)
    (evalAt settings levels) site
  simp only [Term.positions, arity] at runs
  simp only [runs]
  refine L.bind args fun values => ?_
  refine ⟨fun s => ?_, ?_⟩
  · show World.StaysReady s.world (Act.ofExcept (run values s.world.fact site.rows) s).2.world
    cases run values s.world.fact site.rows <;> exact World.staysReady_lasting.refl s.world
  · intro s s' v s₁ alike agrees _ ran _
    replace ran : Act.ofExcept (run values s.world.fact site.rows) s = (.ok v, s₁) := ran
    show ∃ s₁', Act.ofExcept (run values s'.world.fact site.rows) s' = _ ∧ _
    rw [← agrees.fact]
    cases result : run values s.world.fact site.rows with
    | ok a =>
        rw [result] at ran
        cases ran
        exact ⟨s', rfl, alike, agrees⟩
    | error e =>
        rw [result] at ran
        cases ran

/-- **Calls of one definition** on operands that refine one another. -/
theorem call_follows {name : String} (same : os.map Operand.shape = os'.map Operand.shape)
    {d : Definition} (tame : d.IsTame) (site : Site) :
    Act.Follows (Alike settings os os') Value fun first =>
      d.run (evalAt settings levels) site (.mk (.custom name) (cond first os os')) := by
  have C := counterparts below (.custom name) same site.depth
  obtain ⟨n, arity⟩ := C.arity
  cases admitted : d.arity.admits n with
  | false =>
      have refused (first : Bool) : d.run (evalAt settings levels) site
          (.mk (.custom name) (cond first os os')) = Act.fail _ :=
        funext fun s => Definition.run_refused ((arity first).symm ▸ admitted) _ site s
      simp only [refused]
      exact fail_follows _
  | true =>
      have admits (first : Bool) := (arity first).symm ▸ admitted
      cases isBody : d.body with
      | native run => exact native_follows below same isBody admits site
      | expression body =>
          exact expression_follows below same isBody tame (admits true) (admits false) site

/-! ## Terms -/

/-- Terms of one operator on operands that refine one another. -/
theorem alike_follows {op : Operator} (other : op ≠ .builtin .define)
    (same : os.map Operand.shape = os'.map Operand.shape) (site : Site) :
    Act.Follows (Alike settings os os') Value fun first =>
      evalAt settings (levels + 1) site (.mk op (cond first os os')) := by
  refine ⟨evalAt_lasting World.staysReady_lasting settings (levels + 1) site (.mk op os), ?_⟩
  intro s s' v s₁ alike agrees ready ran tame
  replace ran : dispatch settings (evalAt settings levels) site (.mk op os) s = (.ok v, s₁) := ran
  show ∃ s₁', dispatch settings (evalAt settings levels) site (.mk op os') s' = _ ∧ _
  have noted : (s.world.note (.dispatched site.depth (.mk op os))).Agrees
      (s'.world.note (.dispatched site.depth (.mk op os'))) := agrees.note rfl rfl
  have started := (World.Agrees.noted s.world
    (r := .dispatched site.depth (.mk op os)) rfl).ready ready
  cases op with
  | builtin b =>
      have hosted := hosts_of_dispatch rfl ran
      have follows : Act.Follows (Alike settings os os') Value fun first =>
          b.run settings (evalAt settings levels) site (.mk (.builtin b) (cond first os os')) :=
        Builtin.run_closed (Act.Follows.closed _) (counterparts below _ same site.depth)
          settings b (permitted _ _ fun is => other (congrArg Operator.builtin is))
      rw [dispatch_builtin rfl hosted, Act.mapError_ok] at ran
      obtain ⟨s₁', ran', last⟩ := follows.2
        { s with world := s.world.note (.dispatched site.depth (.mk (.builtin b) os)) }
        { s' with world := s'.world.note (.dispatched site.depth (.mk (.builtin b) os')) }
        v s₁ alike noted started ran tame
      refine ⟨s₁', ?_, last⟩
      rw [dispatch_builtin rfl (agrees.registry ▸ hosted)]
      exact Act.mapError_ok.2 ran'
  | custom name =>
      cases found : s.world.registry.lookup? name with
      | none =>
          rw [dispatch_undefined rfl found] at ran
          cases ran
      | some d =>
          have tameBody := ready.tame d (Registry.mem_of_lookup? found)
          rw [dispatch_custom rfl found, Act.mapError_ok] at ran
          obtain ⟨s₁', ran', last⟩ := (call_follows below same tameBody site).2
            { s with world := s.world.note (.dispatched site.depth (.mk (.custom name) os)) }
            { s' with world := s'.world.note (.dispatched site.depth (.mk (.custom name) os')) }
            v s₁ alike noted started ran tame
          refine ⟨s₁', ?_, last⟩
          rw [dispatch_custom rfl (agrees.registry ▸ found)]
          exact Act.mapError_ok.2 ran'

theorem alike_standsIn {op : Operator} {m m' : Memory} (other : op ≠ .builtin .define)
    (same : os.map Operand.shape = os'.map Operand.shape) (alike : Alike settings os os' m m') :
    StandsIn settings (levels + 1) ⟨.mk op os, m⟩ ⟨.mk op os', m'⟩ := by
  intro site w w' v s₁ agrees ready ran tame
  obtain ⟨s₁', ran', alike', agrees'⟩ := (alike_follows below other same site).2 ⟨m, w⟩ ⟨m', w'⟩
    v s₁ alike agrees ready ran tame
  exact ⟨s₁', ran', .alike other same alike'.1 alike'.2.outline alike'.2.held, agrees'⟩

end

/-- A definition registered on both sides. -/
theorem define_standsIn (os : List Operand) (m : Memory) :
    StandsIn settings (levels + 1) ⟨.mk (.builtin .define) os, m⟩
      ⟨.mk (.builtin .define) os, m⟩ := by
  intro site w w' v s₁ agrees ready ran tame
  generalize isTerm : Term.mk (.builtin .define) os = t at ran
  have operator : t.operator = .builtin .define := isTerm ▸ rfl
  have noted : (w.note (.dispatched site.depth t)).Agrees (w'.note (.dispatched site.depth t)) :=
    agrees.note rfl rfl
  replace ran : dispatch settings (evalAt settings levels) site t ⟨m, w⟩ = (.ok v, s₁) := ran
  show ∃ s₁', dispatch settings (evalAt settings levels) site t ⟨m, w'⟩ = _ ∧ _
  have hosted := hosts_of_dispatch operator ran
  rw [dispatch_builtin operator (agrees.registry ▸ hosted)]
  rw [dispatch_builtin operator hosted, Act.mapError_ok] at ran
  replace ran : Operators.define t ⟨m, w.note (.dispatched site.depth t)⟩ = (.ok v, s₁) := ran
  rcases Operators.define_cases t with ⟨e, _, run⟩ | ⟨name, body, -, run⟩
  · rw [run] at ran
    cases ran
  · rw [run] at ran
    split at ran
    · rename_i made defined
      cases ran
      obtain ⟨made', defined', agrees'⟩ := noted.define defined
      refine ⟨⟨m, made'⟩, Act.mapError_ok.2 ?_, .refl _, agrees'⟩
      show Operators.define t _ = _
      rw [run]
      simp only [defined']
    · cases ran

/-! ## Junctions -/

/-- Resolving an operand changes no other operand's memory. -/
theorem resolve_memory (evaluate : Evaluator) (site : Site) (t : Term) {p q : Nat}
    (apart : p ≠ q) (s : State) :
    (resolve evaluate site t p s).2.memory.child q = s.memory.child q := by
  unfold resolve
  cases t.operand? p with
  | none => rfl
  | some o =>
      cases o with
      | literal a => rfl
      | field name => rfl
      | placeholder n => rfl
      | nested c =>
          show (((Act.atChild p (evaluate site.deeper c)) >>= fun v =>
            (pure v.normalized : Act Value)) s).2.memory.child q = _
          rcases Act.bind_cases (Act.atChild p (evaluate site.deeper c))
            (fun v => (pure v.normalized : Act Value)) s with
            ⟨v, s₁, ran, all⟩ | ⟨e, s₁, ran, all⟩
          all_goals
            have same : (Act.atChild p (evaluate site.deeper c) s).2.memory.child q =
                s.memory.child q := Memory.child_setChild_ne _ apart _
            rw [ran] at same
            rw [all]
            exact same

section

variable (below : ∀ i j, Refines settings i j → StandsIn settings levels i j)
include below

/-- Operands that are left of a junction decide what all of them did. -/
theorem anyIs_follows {absorbing : Bool} (op : Operator) (injective : place.Injective)
    (kept : ∀ k, k < os'.length → os'[k]? = os[place k]?) (site : Site) {ps ks : List Nat}
    (thin : Thinned absorbing os place ps ks) (inside : ∀ k ∈ ks, k < os'.length) :
    Act.Follows (Linked settings place os os' fun _ _ => True) Bool fun first =>
      Operators.anyIs (evalAt settings levels) site (.mk op (cond first os os')) absorbing
        (cond first ps ks) := by
  have L := Act.Follows.closed (Linked settings place os os' fun _ _ => True)
  have keeps (ps : List Nat) : Act.Keeps World.StaysReady Bool fun _ =>
      Operators.anyIs (evalAt settings levels) site (.mk op os) absorbing ps := by
    have C := Act.Keeps.counterparts World.staysReady_lasting
      (evalAt_lasting World.staysReady_lasting settings levels) site.depth (.mk op os)
    exact Operators.anyIs_closed (Act.Keeps.closed World.staysReady_lasting).toComposes C
      absorbing ps
  have resolved (k : Nat) (low : k < os'.length) :
      Act.Follows (Linked settings place os os' fun _ _ => True) Value fun first =>
        resolve (evalAt settings levels) site (.mk op (cond first os os'))
          (cond first (place k) k) := by
    have alike := operand_alike (B := fun _ _ => True) below injective
      (fun first => cond first (place k) k) rfl
      (by rw [cond_true, cond_false, kept k low]) site.depth
    exact resolve_closed_of_alike L.toComposes alike (fail_follows _)
  induction thin with
  | nil => exact L.pure false
  | @keep k ps ks _ ih =>
      have rest := ih fun k' member => inside k' (List.mem_cons_of_mem _ member)
      have split_ (first : Bool) : Operators.anyIs (evalAt settings levels) site
          (.mk op (cond first os os')) absorbing (cond first (place k :: ps) (k :: ks)) =
            resolve (evalAt settings levels) site (.mk op (cond first os os'))
              (cond first (place k) k) >>= fun v =>
                if v.isTruthy = absorbing then pure true
                else Operators.anyIs (evalAt settings levels) site (.mk op (cond first os os'))
                  absorbing (cond first ps ks) := by
        cases first <;> rfl
      simp only [split_]
      refine L.bind (resolved k (inside k List.mem_cons_self)) fun v => ?_
      split
      · exact L.pure true
      · exact rest
  | @drop p a ps ks constant passes apart _ ih =>
      refine ⟨keeps (p :: ps), ?_⟩
      intro s s' found s₁ linked agrees ready ran tame
      obtain ⟨v, s₂, first, rest⟩ :
          ∃ v s₂, resolve (evalAt settings levels) site (.mk op os) p s = (.ok v, s₂) ∧
            (if v.isTruthy = absorbing then pure true
              else Operators.anyIs (evalAt settings levels) site (.mk op os) absorbing ps) s₂ =
                (.ok found, s₁) := Act.bind_eq_ok ran
      obtain ⟨is, quiet⟩ := resolve_constant settings levels site (t := .mk op os) constant
        s v s₂ first
      have memory (k : Nat) : s₂.memory.child (place k) = s.memory.child (place k) := by
        have same := resolve_memory (evalAt settings levels) site (.mk op os) (apart k).symm s
        rw [first] at same
        exact same
      subst is
      rw [Value.isTruthy_single, if_neg passes] at rest
      refine (ih inside).2 s₂ s' found s₁ ⟨?_, trivial⟩ (quiet.symm.trans agrees)
        (quiet.ready ready) rest tame
      intro k u u' here here'
      rw [memory]
      exact linked.1 k u u' here here'
  | @stop k a ps constant absorbs =>
      refine ⟨keeps (place k :: ps), ?_⟩
      intro s s' found s₁ linked agrees ready ran tame
      obtain ⟨v, s₂, first, rest⟩ := Act.bind_eq_ok ran
      obtain ⟨is, _⟩ := resolve_constant settings levels site (t := .mk op os) constant
        s v s₂ first
      subst is
      have decides : (Value.sequence [a]).isTruthy = absorbing := by
        rw [Value.isTruthy_single, absorbs]
      rw [if_pos decides] at rest
      cases rest
      obtain ⟨s₂', first', linked', agrees'⟩ := (resolved k (inside k List.mem_cons_self)).2
        s s' _ s₁ linked agrees ready first tame
      refine ⟨s₂', ?_, linked', agrees'⟩
      refine (Act.bind_ok first' _).trans ?_
      rw [if_pos decides]
      rfl

theorem thinned_standsIn {absorbing : Bool} {m m' : Memory} (injective : place.Injective)
    (some_ : os' ≠ [])
    (thin : Thinned absorbing os place (List.range os.length) (List.range os'.length))
    (kept : ∀ k, k < os'.length → os'[k]? = os[place k]?)
    (operands : Operands settings place os os' m.child m'.child) :
    StandsIn settings (levels + 1) ⟨.mk (.builtin (.junction absorbing)) os, m⟩
      ⟨.mk (.builtin (.junction absorbing)) os', m'⟩ := by
  have L := Act.Follows.closed (Linked settings place os os' fun _ _ => True)
  intro site w w' v s₁ agrees ready ran tame
  have decided := anyIs_follows below (.builtin (.junction absorbing)) injective kept site thin
    fun k member => List.mem_range.1 member
  have low' : 0 < os'.length := List.length_pos_iff.2 some_
  have low : 0 < os.length := by
    have at_ := kept 0 low'
    rw [List.getElem?_eq_getElem low', eq_comm] at at_
    exact Nat.lt_of_le_of_lt (Nat.zero_le _) (List.getElem?_eq_some_iff.1 at_).1
  have arity (first : Bool) : checkArity (.mk (.builtin (.junction absorbing))
      (cond first os os')) (.atLeast 1) = Act.pure () := by
    refine checkArity_of_admits ?_
    cases first with
    | true => exact decide_eq_true low
    | false => exact decide_eq_true low'
  have positions (first : Bool) : Term.positions (.mk (.builtin (.junction absorbing))
      (cond first os os')) = cond first (List.range os.length) (List.range os'.length) := by
    cases first <;> rfl
  have runs : Act.Follows (Linked settings place os os' fun _ _ => True) Value fun first =>
      (Builtin.junction absorbing).run settings (evalAt settings levels) site
        (.mk (.builtin (.junction absorbing)) (cond first os os')) := by
    simp only [Builtin.run_junction, arity, positions]
    refine L.bind (L.pure ()) fun _ => ?_
    exact L.bind decided fun b => L.pure (Value.boolean (b == absorbing))
  replace ran : dispatch settings (evalAt settings levels) site
    (.mk (.builtin (.junction absorbing)) os) ⟨m, w⟩ = (.ok v, s₁) := ran
  have hosted := hosts_of_dispatch rfl ran
  rw [dispatch_builtin rfl hosted, Act.mapError_ok] at ran
  have noted := World.Agrees.noted w (r := .dispatched site.depth
    (.mk (.builtin (.junction absorbing)) os)) rfl
  have noted' := World.Agrees.noted w' (r := .dispatched site.depth
    (.mk (.builtin (.junction absorbing)) os')) rfl
  obtain ⟨s₁', ran', operands', agrees'⟩ := runs.2
    ⟨m, w.note (.dispatched site.depth (.mk (.builtin (.junction absorbing)) os))⟩
    ⟨m', w'.note (.dispatched site.depth (.mk (.builtin (.junction absorbing)) os'))⟩ v s₁
    ⟨operands, trivial⟩ ((noted.symm.trans agrees).trans noted') (noted.ready ready) ran tame
  refine ⟨s₁', ?_, .thinned injective some_ thin kept operands'.1, agrees'⟩
  show dispatch settings (evalAt settings levels) site
    (.mk (.builtin (.junction absorbing)) os') ⟨m', w'⟩ = _
  rw [dispatch_builtin rfl (agrees.registry ▸ hosted)]
  exact Act.mapError_ok.2 ran'

end

/-! ## The simulation -/

theorem constant_standsIn {t : Term} {a : Scalar} {m m' : Memory} (worth : t.IsWorth settings a) :
    StandsIn settings (levels + 1) ⟨t, m⟩ ⟨.constantOf a, m'⟩ := by
  intro site w w' v s₁ agrees ready ran _
  obtain ⟨rfl, quiet⟩ := worth (levels + 1) site ⟨m, w⟩ v s₁ ran
  have hosted := (agrees.ready ready).hosted
  refine ⟨_, evalAt_constantOf_eq settings levels site a hosted, .constant worth, ?_⟩
  exact (quiet.symm.trans agrees).trans (.noted w' rfl)

theorem StandsIn.trans {i j k : Instance} (first : StandsIn settings levels i j)
    (second : StandsIn settings levels j k) : StandsIn settings levels i k := by
  intro site w w' v s₁ agrees ready ran tame
  obtain ⟨s₂, ran₂, refines₂, agrees₂⟩ := first site w w v s₁ (.refl w) ready ran tame
  obtain ⟨s₃, ran₃, refines₃, agrees₃⟩ := second site w w' v s₂ agrees ready ran₂
    (agrees₂.tame tame)
  exact ⟨s₃, ran₃, .trans refines₂ refines₃, agrees₂.trans agrees₃⟩

/-- **An instance that refines another stands in for it**, at every depth. -/
theorem standsIn (settings : Settings) (levels : Nat) :
    ∀ i j, Refines settings i j → StandsIn settings levels i j := by
  induction levels with
  | zero =>
      intro i j _ site w w' v s₁ _ _ ran
      cases ran
  | succ levels below =>
      intro i j refines
      induction refines with
      | refl i =>
          obtain ⟨⟨op, os⟩, m⟩ := i
          by_cases defines : op = .builtin .define
          · subst defines
            exact define_standsIn os m
          · refine alike_standsIn below defines rfl ⟨?_, .refl _⟩
            intro p t t' here here'
            obtain rfl : t = t' := Option.some.inj (here.symm.trans here')
            exact .refl _
      | trans _ _ first second => exact first.trans second
      | alike other same operands outline held =>
          exact alike_standsIn below other same ⟨operands, outline, held⟩
      | thinned injective some_ thin kept operands =>
          exact thinned_standsIn below injective some_ thin kept operands
      | constant worth => exact constant_standsIn worth

end Refines

end FactScan
