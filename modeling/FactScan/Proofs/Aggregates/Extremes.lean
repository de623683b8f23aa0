/-
# FactScan.Proofs.Aggregates.Extremes — `min` and `max` find an extreme of a column

The search keeps one candidate and compares each further element with it alone.  Ties between
integers and floats are not transitive, so what ties with a candidate need not tie with the next
one; but a candidate gives way only to one that is strictly wanted of it, and the strict order is
transitive (`Scalar.compare_strict_trans`).  Hence the candidate is wanted of all candidates
before it, and nothing that was passed over can be wanted of it.

* `extremum_ok_iff`: the search ends well when all elements are on one line.
* `extremum_spec`: what it then has found.
* `extreme_of_column`: the terms `(min field)` and `(max field)`.
-/
import FactScan.Proofs.Dispatch
import FactScan.Proofs.Scalars.Order

namespace FactScan

set_option autoImplicit false

/-! ## The search -/

/-- All of the scalars are on one line. -/
def Scalar.Aligned (as : List Scalar) : Prop :=
  ∃ line, ∀ a ∈ as, a.line? = some line

theorem Scalar.aligned_cons {a : Scalar} {as : List Scalar} {line : Scalar.Line}
    (on : a.line? = some line) : Aligned (a :: as) ↔ ∀ b ∈ as, b.line? = some line := by
  constructor
  · rintro ⟨line', all⟩ b member
    obtain rfl := Option.some.inj (on.symm.trans (all a List.mem_cons_self))
    exact all b (List.mem_cons_of_mem a member)
  · intro all
    exact ⟨line, List.forall_mem_cons.2 ⟨on, all⟩⟩

section

variable {wanted : Ordering} {best : Scalar} {rest : List Scalar}

theorem extremum_cons {s : Scalar} {o : Ordering} (verdict : s.compare best = some o) :
    extremum wanted (some best) (s :: rest) =
      extremum wanted (some (if o = wanted then s else best)) rest := by
  rw [extremum, verdict]

theorem extremum_incomparable {s : Scalar} (apart : s.compare best = none) :
    extremum wanted (some best) (s :: rest) = .error (.typeMismatch best.typeName s.typeName) := by
  rw [extremum, apart]

/-- **The search goes through if no element leaves the line of the first one**, which every
candidate is on. -/
theorem extremum_ok_iff (wanted : Ordering) (best : Scalar) (rest : List Scalar) :
    (∃ r, extremum wanted (some best) rest = .ok r) ↔
      rest = [] ∨ Scalar.Aligned (best :: rest) := by
  induction rest generalizing best with
  | nil => exact ⟨fun _ => .inl rfl, fun _ => ⟨_, rfl⟩⟩
  | cons s rest ih =>
      rcases verdict : s.compare best with _ | o
      · rw [extremum_incomparable verdict]
        refine ⟨fun ⟨r, ran⟩ => (nomatch ran), fun aligned => ?_⟩
        obtain ⟨line, on⟩ := aligned.resolve_left (List.cons_ne_nil s rest)
        have some_ := (Scalar.isSome_compare_iff s best).2
          ⟨line, on s (List.mem_cons_of_mem _ List.mem_cons_self), on best List.mem_cons_self⟩
        rw [verdict] at some_
        cases some_
      · obtain ⟨line, on, on'⟩ := (Scalar.isSome_compare_iff s best).1 (by rw [verdict]; rfl)
        have next : (if o = wanted then s else best).line? = some line := by
          split
          · exact on
          · exact on'
        rw [extremum_cons verdict, ih, Scalar.aligned_cons next, Scalar.aligned_cons on',
          List.forall_mem_cons]
        constructor
        · rintro (rfl | all)
          · exact .inr ⟨on, nofun⟩
          · exact .inr ⟨on, all⟩
        · rintro (impossible | ⟨-, all⟩)
          · cases impossible
          · exact .inr all

/-- Two elements that cannot be compared, and an error that names their kinds. -/
def EvalError.Incomparable (as : List Scalar) (e : EvalError) : Prop :=
  ∃ a ∈ as, ∃ b ∈ as, b.compare a = none ∧ e = .typeMismatch a.typeName b.typeName

/-- Otherwise it ends with two elements that cannot be compared. -/
theorem extremum_error {e : EvalError} (ran : extremum wanted (some best) rest = .error e) :
    e.Incomparable (best :: rest) := by
  induction rest generalizing best with
  | nil => cases ran
  | cons s rest ih =>
      have inside : s ∈ best :: s :: rest := List.mem_cons_of_mem _ List.mem_cons_self
      rcases verdict : s.compare best with _ | o
      · rw [extremum_incomparable verdict] at ran
        cases ran
        exact ⟨best, List.mem_cons_self, s, inside, verdict, rfl⟩
      · rw [extremum_cons verdict] at ran
        obtain ⟨a, member, b, member', apart, rfl⟩ := ih ran
        have kept (c : Scalar) (there : c ∈ (if o = wanted then s else best) :: rest) :
            c ∈ best :: s :: rest := by
          rcases List.mem_cons.1 there with rfl | later
          · split
            · exact inside
            · exact List.mem_cons_self
          · exact List.mem_cons_of_mem _ (List.mem_cons_of_mem _ later)
        exact ⟨a, kept a member, b, kept b member', apart, rfl⟩

/-- **What the search has found**: one of the elements, of which none is wanted, and which is the
first candidate or wanted of it. -/
theorem extremum_spec (strict : wanted ≠ .eq) {r : Option Scalar}
    (ran : extremum wanted (some best) rest = .ok r) :
    ∃ a ∈ best :: rest, r = some a ∧ (a = best ∨ a.compare best = some wanted) ∧
      ∀ c ∈ best :: rest, c.compare a ≠ some wanted := by
  induction rest generalizing best with
  | nil =>
      obtain rfl : some best = r := Except.ok.inj ran
      refine ⟨best, List.mem_cons_self, rfl, .inl rfl, ?_⟩
      rintro c (_ | ⟨_, ⟨⟩⟩)
      exact fun verdict => Scalar.compare_asymm strict verdict verdict
  | cons s rest ih =>
      rcases verdict : s.compare best with _ | o
      · rw [extremum_incomparable verdict] at ran
        cases ran
      rw [extremum_cons verdict] at ran
      by_cases taken : o = wanted
      · -- The candidate gives way, and what is wanted of the new one is so of the old one.
        subst taken
        rw [if_pos rfl] at ran
        obtain ⟨a, member, rfl, chain, none_⟩ := ih ran
        have beyond : a.compare best = some o := by
          rcases chain with rfl | less
          · exact verdict
          · exact Scalar.compare_strict_trans strict less verdict
        refine ⟨a, List.mem_cons_of_mem _ member, rfl, .inr beyond, ?_⟩
        rintro c (_ | ⟨_, later⟩)
        · exact Scalar.compare_asymm strict beyond
        · exact none_ c later
      · rw [if_neg taken] at ran
        obtain ⟨a, member, rfl, chain, none_⟩ := ih ran
        have passed : s.compare a ≠ some wanted := fun less => by
          have less' : s.compare best = some wanted := by
            rcases chain with rfl | beyond
            · exact less
            · exact Scalar.compare_strict_trans strict less beyond
          rw [verdict, Option.some.injEq] at less'
          exact taken less'
        rw [List.forall_mem_cons] at none_
        refine ⟨a, ?_, rfl, chain, ?_⟩
        · rcases List.mem_cons.1 member with rfl | later
          · exact List.mem_cons_self
          · exact List.mem_cons_of_mem _ (List.mem_cons_of_mem _ later)
        · rw [List.forall_mem_cons, List.forall_mem_cons]
          exact ⟨none_.1, passed, none_.2⟩

end

/-! ## The operators -/

/-- What an operator of extremes wants of an element beside the candidate. -/
def Builtin.wanted? : Builtin → Option Ordering
  | .least => some .lt
  | .greatest => some .gt
  | _ => none

section

variable {b : Builtin} {wanted : Ordering}

theorem Builtin.strict_of_wanted? (isExtreme : b.wanted? = some wanted) : wanted ≠ .eq := by
  cases b <;> cases isExtreme <;> exact nofun

/-- The value of a search. -/
def Value.ofExtreme : Option Scalar → Value
  | some a => .scalar a
  | none => .nil

theorem Operators.extreme_apply (wanted : Ordering) (site : Site) (op : Operator) (field : String)
    (s : State) :
    (extreme site (.mk op [.field field]) wanted s).1 =
      (extremum wanted none (column site.rows field)).map Value.ofExtreme := by
  have run : extreme site (.mk op [.field field]) wanted s =
      (Act.ofExcept (extremum wanted none (column site.rows field)) >>= fun
        | some a => pure (.scalar a)
        | none => pure .nil : Act Value) s := rfl
  rw [run]
  rcases extremum wanted none (column site.rows field) with e | _ | a
  · rfl
  · rfl
  · rfl

theorem Builtin.run_extreme (isExtreme : b.wanted? = some wanted) (settings : Settings)
    (evaluate : Evaluator) (site : Site) (field : String) (s : State) :
    (b.run settings evaluate site (.mk (.builtin b) [.field field]) s).1 =
      (extremum wanted none (column site.rows field)).map Value.ofExtreme := by
  cases b
  case least =>
    cases isExtreme
    exact Operators.extreme_apply .lt site _ field s
  case greatest =>
    cases isExtreme
    exact Operators.extreme_apply .gt site _ field s
  all_goals cases isExtreme

/-- **`min` and `max` find an extreme of the column**, all scalars that the rows hold for the
field, integers and floats in any mixture and order.  There is nothing in an empty column alone.
The search succeeds if there is one scalar at most, or all are on one line, and otherwise fails
for two that cannot be compared.  What it finds is one of them, and none is less, or greater,
than that. -/
theorem extreme_of_column (isExtreme : b.wanted? = some wanted) (settings : Settings)
    (levels : Nat) (site : Site) (field : String) {s : State}
    (hosted : s.world.registry.hosts b = true) :
    let t : Term := .mk (.builtin b) [.field field]
    let scalars := column site.rows field
    let result := (evalAt settings (levels + 1) site t s).1
    (result = .ok .nil ↔ scalars = []) ∧
    ((∃ v, result = .ok v) ↔ scalars.length ≤ 1 ∨ Scalar.Aligned scalars) ∧
    (∀ e, result = .error e → ∃ cause : EvalError, cause.Incomparable scalars ∧
      e = .evaluation t.text ⟨site.depth, t.name, site.rows.length⟩ cause) ∧
    (∀ v, result = .ok v → v ≠ .nil → ∃ a ∈ scalars, v = .scalar a ∧
      ∀ c ∈ scalars, c.compare a ≠ some wanted) := by
  intro t scalars result
  have strict := Builtin.strict_of_wanted? isExtreme
  have ran : result = ((extremum wanted none scalars).map Value.ofExtreme).mapError
      (.evaluation t.text ⟨site.depth, t.name, site.rows.length⟩) :=
    dispatch_local rfl hosted (extremum_error_isLocal wanted none scalars)
      (Builtin.run_extreme isExtreme settings _ site field)
  rw [ran]
  rcases scalars with _ | ⟨a, rest⟩
  · refine ⟨⟨fun _ => rfl, fun _ => rfl⟩, ⟨fun _ => .inl (Nat.zero_le 1), fun _ => ⟨_, rfl⟩⟩, nofun,
      fun v none_ some_ => absurd (Except.ok.inj none_).symm some_⟩
  have ends := extremum_ok_iff wanted a rest
  have single : (a :: rest).length ≤ 1 ↔ rest = [] := by
    rw [List.length_cons, Nat.succ_le_succ_iff, Nat.le_zero, List.length_eq_zero_iff]
  have first : extremum wanted none (a :: rest) = extremum wanted (some a) rest := rfl
  rw [single, ← ends, first]
  rcases found : extremum wanted (some a) rest with e | r
  · refine ⟨⟨nofun, nofun⟩, ⟨nofun, nofun⟩, ?_, nofun⟩
    rintro _ ⟨⟩
    exact ⟨e, extremum_error found, rfl⟩
  · obtain ⟨x, member, rfl, -, none_⟩ := extremum_spec strict found
    refine ⟨⟨nofun, nofun⟩, ⟨fun _ => ⟨_, rfl⟩, fun _ => ⟨_, rfl⟩⟩, nofun, ?_⟩
    rintro _ ⟨⟩ -
    exact ⟨x, member, rfl, none_⟩

/-- An odd integer, a float that ties with it, and a lesser integer that ties with the float. -/
theorem extreme_of_column_ties :
    let rows : List Row :=
      [[("n", .sequence [.integer 9007199254740993, .float (.ofInt 9007199254740992)])],
        [("n", .scalar (.integer 9007199254740992))]]
    Builtin.least.wanted? = some .lt ∧ Registry.standard.hosts .least = true ∧
      ∃ a ∈ column rows "n",
        (evalAt {} 1 ⟨rows, 0⟩ (.mk (.builtin .least) [.field "n"]) ⟨.mk none [], {}⟩).1 =
            .ok (.scalar a) ∧
          ∀ c ∈ column rows "n", c.compare a ≠ some .lt := by
  intro rows
  obtain ⟨none_, succeeds, -, found⟩ := extreme_of_column (b := .least) rfl {} 0 ⟨rows, 0⟩ "n"
    (s := ⟨.mk none [], {}⟩) (Registry.standard_hosts .least)
  obtain ⟨v, ran⟩ := succeeds.2 (.inr ⟨.numbers, by decide⟩)
  have some_ : v ≠ .nil := by
    rintro rfl
    cases none_.1 ran
  obtain ⟨a, member, rfl, least⟩ := found v ran some_
  exact ⟨rfl, Registry.standard_hosts .least, a, member, ran, least⟩

end

end FactScan
