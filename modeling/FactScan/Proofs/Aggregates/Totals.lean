/-
# FactScan.Proofs.Aggregates.Totals — `sum` is exact or fails

The total of integers is exact as long as no running total leaves the 64 bits, and the first one
that does ends it (`sumFrom_integers`, `sumFrom_overflow`).  From the first float on everything
is added as floats, which never fails (`sumFrom_floats`); and a scalar that is no number ends it
wherever it comes up (`sumFrom_append`).  So of the two errors the one that comes first counts.

* `sumFields_apply`: the fields one after another are one column.
* `sum_of_columns`: the term `(sum field ...)`.
-/
import FactScan.Proofs.Dispatch

namespace FactScan

set_option autoImplicit false

/-- A number that a signed integer of 64 bits can be. -/
def Fits (n : Int) : Prop := -9223372036854775808 ≤ n ∧ n < 9223372036854775808

instance (n : Int) : Decidable (Fits n) := inferInstanceAs (Decidable (_ ∧ _))

/-- The exact total of integers. -/
def exactTotal : List Int64 → Int
  | [] => 0
  | m :: ms => m.toInt + exactTotal ms

/-- Some running total of the integers with which a column begins does not fit. -/
def Overflows (scalars : List Scalar) : Prop :=
  ∃ ms : List Int64, ms.map .integer <+: scalars ∧ ¬ Fits (exactTotal ms)

/-! ## Totals of a column -/

theorem fits_toInt (n : Int64) : Fits n.toInt := ⟨n.le_toInt, n.toInt_lt⟩

theorem Arithmetic.fit?_of_fits {n : Int} (fits : Fits n) :
    ∃ k : Int64, fit? n = some k ∧ k.toInt = n :=
  ⟨.ofInt n, if_pos ⟨fits.1, Int.le_of_lt_add_one fits.2⟩, Int64.toInt_ofInt_of_le fits.1 fits.2⟩

theorem Arithmetic.fit?_of_not_fits {n : Int} (beyond : ¬ Fits n) : fit? n = none :=
  if_neg fun ⟨least, most⟩ => beyond ⟨least, Int.lt_add_one_of_le most⟩

@[simp] theorem exactTotal_nil : exactTotal [] = 0 := rfl

@[simp] theorem exactTotal_cons (m : Int64) (ms : List Int64) :
    exactTotal (m :: ms) = m.toInt + exactTotal ms := rfl

theorem Arithmetic.add_integers (n m : Int64) :
    Arithmetic.add.apply (.integer n) (.integer m) =
      match fit? (n.toInt + m.toInt) with
      | some k => .ok (.integer k)
      | none => .error (.overflow "add") := by
  show onIntegers .add n m = _
  unfold onIntegers
  rw [if_neg (fun h => nomatch h.1)]
  rfl

/-- A step between integers. -/
theorem sumFrom_integer (n m : Int64) (rest : List Scalar) :
    sumFrom (.integer n) (.integer m :: rest) =
      match Arithmetic.fit? (n.toInt + m.toInt) with
      | some k => sumFrom (.integer k) rest
      | none => .error (.overflow "add") := by
  have numeric : (Scalar.integer m).isNumeric = true := rfl
  rw [sumFrom, if_pos numeric, Arithmetic.add_integers]
  cases Arithmetic.fit? (n.toInt + m.toInt) <;> rfl

/-- **Integers are added exactly** while the running totals fit. -/
theorem sumFrom_integers {n : Int64} {ms : List Int64} (rest : List Scalar)
    (fits : ∀ p, p <+: ms → Fits (n.toInt + exactTotal p)) :
    ∃ k : Int64, k.toInt = n.toInt + exactTotal ms ∧
      sumFrom (.integer n) (ms.map .integer ++ rest) = sumFrom (.integer k) rest := by
  induction ms generalizing n with
  | nil => exact ⟨n, (Int.add_zero _).symm, rfl⟩
  | cons m ms ih =>
      have first := fits [m] (List.prefix_append [m] ms)
      rw [exactTotal_cons, exactTotal_nil, Int.add_zero] at first
      obtain ⟨k, fit, exact_⟩ := Arithmetic.fit?_of_fits first
      have fits' (p : List Int64) (start : p <+: ms) : Fits (k.toInt + exactTotal p) := by
        have := fits (m :: p) (List.cons_prefix_cons.2 ⟨rfl, start⟩)
        rwa [exactTotal_cons, ← Int.add_assoc, ← exact_] at this
      obtain ⟨l, exact', same⟩ := ih fits'
      refine ⟨l, by rw [exact', exact_, exactTotal_cons, Int.add_assoc], ?_⟩
      rw [List.map_cons, List.cons_append, sumFrom_integer, fit]
      exact same

/-- **The first running total that does not fit ends it.** -/
theorem sumFrom_overflow {n : Int64} {ms : List Int64} {scalars : List Scalar}
    (start : ms.map .integer <+: scalars) (beyond : ¬ Fits (n.toInt + exactTotal ms)) :
    sumFrom (.integer n) scalars = .error (.overflow "add") := by
  induction ms generalizing n scalars with
  | nil =>
      rw [exactTotal_nil, Int.add_zero] at beyond
      exact absurd (fits_toInt n) beyond
  | cons m ms ih =>
      obtain ⟨rest, rfl⟩ := start
      rw [List.map_cons, List.cons_append, sumFrom_integer]
      by_cases fits : Fits (n.toInt + m.toInt)
      · obtain ⟨k, fit, exact_⟩ := Arithmetic.fit?_of_fits fits
        rw [fit]
        refine ih (List.prefix_append _ rest) ?_
        rwa [exact_, Int.add_assoc, ← exactTotal_cons]
      · rw [Arithmetic.fit?_of_not_fits fits]

/-- **Floats are added one after another**, integers among them as floats. -/
theorem sumFrom_floats {x : Binary64} {rest : List Scalar}
    (numeric : ∀ a ∈ rest, a.isNumeric = true) :
    sumFrom (.float x) rest =
      .ok (.float ((rest.filterMap Scalar.float?).foldl Binary64.add x)) := by
  induction rest generalizing x with
  | nil => rfl
  | cons a rest ih =>
      have later := fun b member => numeric b (List.mem_cons_of_mem a member)
      have own := numeric a List.mem_cons_self
      cases a with
      | integer m =>
          rw [sumFrom, if_pos own]
          exact ih later
      | float y =>
          rw [sumFrom, if_pos own]
          exact ih later
      | _ => cases own

/-- A column is added up part by part. -/
theorem sumFrom_append (t : Scalar) (front rest : List Scalar) :
    sumFrom t (front ++ rest) = (sumFrom t front).bind (sumFrom · rest) := by
  induction front generalizing t with
  | nil => rfl
  | cons a front ih =>
      rw [List.cons_append, sumFrom, sumFrom]
      split
      · split
        · exact ih _
        · rfl
      · rfl

/-! ## From zero -/

section

variable {scalars front rest : List Scalar} {ms : List Int64}

theorem Overflows.of_prefix (overflows : Overflows front) (start : front <+: scalars) :
    Overflows scalars := by
  obtain ⟨ms, start', beyond⟩ := overflows
  exact ⟨ms, start'.trans start, beyond⟩

theorem sum_overflow (overflows : Overflows scalars) :
    sumFrom (.integer 0) scalars = .error (.overflow "add") := by
  obtain ⟨ms, start, beyond⟩ := overflows
  exact sumFrom_overflow start (by rwa [show (0 : Int64).toInt = 0 from rfl, Int.zero_add])

/-- The integers with which a column begins, added up. -/
theorem sum_integers (within : ¬ Overflows (ms.map .integer ++ rest)) :
    ∃ k : Int64, k.toInt = exactTotal ms ∧
      sumFrom (.integer 0) (ms.map .integer ++ rest) = sumFrom (.integer k) rest := by
  have fits (p : List Int64) (start : p <+: ms) : Fits ((0 : Int64).toInt + exactTotal p) := by
    rw [show (0 : Int64).toInt = 0 from rfl, Int.zero_add]
    refine Decidable.byContradiction fun beyond => within ⟨p, ?_, beyond⟩
    exact (start.map Scalar.integer).trans (List.prefix_append _ rest)
  obtain ⟨k, exact_, same⟩ := sumFrom_integers rest fits
  rw [show (0 : Int64).toInt = 0 from rfl, Int.zero_add] at exact_
  exact ⟨k, exact_, same⟩

/-- Then a float, and numbers after it. -/
theorem sum_floats {x : Binary64} (numeric : ∀ a ∈ rest, a.isNumeric = true)
    (within : ¬ Overflows (ms.map .integer ++ .float x :: rest)) :
    sumFrom (.integer 0) (ms.map .integer ++ .float x :: rest) =
      .ok (.float ((rest.filterMap Scalar.float?).foldl Binary64.add
        ((Binary64.ofInt (exactTotal ms)).add x))) := by
  obtain ⟨k, exact_, same⟩ := sum_integers within
  have number : (Scalar.float x).isNumeric = true := rfl
  rw [same, ← exact_, sumFrom, if_pos number]
  exact sumFrom_floats numeric

/-- Numbers are integers up to the first float. -/
theorem numbers_cases (numeric : ∀ a ∈ front, a.isNumeric = true) :
    ∃ ms : List Int64, front = ms.map .integer ∨
      ∃ x later, front = ms.map .integer ++ .float x :: later := by
  induction front with
  | nil => exact ⟨[], .inl rfl⟩
  | cons a front ih =>
      have own := numeric a List.mem_cons_self
      cases a with
      | integer m =>
          obtain ⟨ms, rfl | ⟨x, later, rfl⟩⟩ :=
            ih fun b member => numeric b (List.mem_cons_of_mem _ member)
          · exact ⟨m :: ms, .inl rfl⟩
          · exact ⟨m :: ms, .inr ⟨x, later, rfl⟩⟩
      | float x => exact ⟨[], .inr ⟨x, front, rfl⟩⟩
      | _ => cases own

theorem sum_numbers (numeric : ∀ a ∈ front, a.isNumeric = true) (within : ¬ Overflows front) :
    ∃ t, sumFrom (.integer 0) front = .ok t := by
  obtain ⟨ms, rfl | ⟨x, later, rfl⟩⟩ := numbers_cases numeric
  · rw [← List.append_nil (ms.map _)] at within ⊢
    obtain ⟨k, -, same⟩ := sum_integers within
    exact ⟨.integer k, same⟩
  · refine ⟨_, sum_floats (fun a member => numeric a ?_) within⟩
    exact List.mem_append_right _ (List.mem_cons_of_mem _ member)

/-- Then something that is no number. -/
theorem sum_stops {bad : Scalar} (numeric : ∀ a ∈ front, a.isNumeric = true)
    (other : bad.isNumeric = false) (within : ¬ Overflows (front ++ bad :: rest)) :
    sumFrom (.integer 0) (front ++ bad :: rest) = .error (.typeMismatch "number" bad.typeName) := by
  obtain ⟨t, added⟩ := sum_numbers numeric
    fun overflows => within (overflows.of_prefix (List.prefix_append front _))
  rw [sumFrom_append, added]
  show sumFrom t (bad :: rest) = _
  rw [sumFrom, other, if_neg Bool.false_ne_true]

end

/-! ## The operator -/

/-- **The fields one after another are one column.** -/
theorem sumFields_apply (site : Site) {t : Term} {positions : List Nat} {fields : List String}
    (named : positions.map t.operand? = fields.map fun field => some (.field field)) (a : Scalar)
    (s : State) :
    Operators.sumFields site t a positions s =
      (sumFrom a (fields.flatMap (column site.rows)), s) := by
  induction positions generalizing fields a with
  | nil =>
      obtain rfl := List.map_eq_nil_iff.1 named.symm
      rfl
  | cons position positions ih =>
      obtain ⟨field, fields, rfl, own, later⟩ := List.map_eq_cons_iff.1 named.symm
      have name : fieldName t position = pure field := by
        unfold fieldName
        rw [← own]
        rfl
      have run : Operators.sumFields site t a (position :: positions) s =
          (Act.ofExcept (sumFrom a (column site.rows field)) >>= fun a =>
            Operators.sumFields site t a positions) s := by
        rw [Operators.sumFields, name]
        rfl
      rw [run, List.flatMap_cons, sumFrom_append]
      cases sumFrom a (column site.rows field) with
      | error e => rfl
      | ok a' => exact ih later.symm a'

theorem Term.positions_map_operand? (op : Operator) (operands : List Operand) :
    (Term.mk op operands).positions.map (Term.mk op operands).operand? = operands.map some := by
  refine List.ext_getElem (by simp [positions, arity, Term.operands]) fun i _ inside => ?_
  rw [List.length_map] at inside
  simp [positions, operand?, Term.operands, inside]

theorem Operators.sum_apply {fields : List String} (some_ : fields ≠ []) (site : Site)
    (op : Operator) (s : State) :
    (sum site (.mk op (fields.map .field)) s).1 =
      (sumFrom (.integer 0) (fields.flatMap (column site.rows))).map Value.scalar := by
  have arity : checkArity (.mk op (fields.map .field)) (.atLeast 1) = pure () := by
    have admitted : (Arity.atLeast 1).admits (Term.mk op (fields.map .field)).arity = true := by
      have positive : 1 ≤ fields.length := List.length_pos_iff.2 some_
      simpa [Arity.admits, Term.arity, Term.operands] using positive
    exact checkArity_of_admits admitted
  have named := (Term.positions_map_operand? op (fields.map .field)).trans (List.map_map ..)
  have run : sum site (.mk op (fields.map .field)) s =
      (sumFields site (.mk op (fields.map .field)) (.integer 0)
          (Term.mk op (fields.map .field)).positions >>= fun a =>
        (pure (.scalar a) : Act Value)) s := by
    unfold sum
    rw [arity]
    rfl
  rw [run]
  have added := sumFields_apply site named (.integer 0) s
  cases total : sumFrom (.integer 0) (fields.flatMap (column site.rows)) with
  | error e => rw [Act.bind_error (added.trans (by rw [total]))]; rfl
  | ok a => rw [Act.bind_ok (added.trans (by rw [total]))]; rfl

/-- **`sum` is exact or fails**, with a definite first failure.  Its scalars are those of the first
field over all rows, then of the second, and so on.  If some running total of the integers with
which they begin leaves the 64 bits, that is the failure.  Otherwise it is the first scalar that
is no number; and if there is none, the sum is the exact total, or from the first float on that
of floats from left to right. -/
theorem sum_of_columns (fields : List String) (some_ : fields ≠ []) (settings : Settings)
    (levels : Nat) (site : Site) {s : State} (hosted : s.world.registry.hosts .sum = true) :
    let t : Term := .mk (.builtin .sum) (fields.map .field)
    let scalars := fields.flatMap (column site.rows)
    let result := (evalAt settings (levels + 1) site t s).1
    let failure := EvalError.evaluation t.text ⟨site.depth, t.name, site.rows.length⟩
    (Overflows scalars → result = .error (failure (.overflow "add"))) ∧
    (¬ Overflows scalars →
      (∀ ms : List Int64, scalars = ms.map .integer →
        ∃ k : Int64, k.toInt = exactTotal ms ∧ result = .ok (.scalar (.integer k))) ∧
      (∀ (ms : List Int64) (x : Binary64) (rest : List Scalar),
        scalars = ms.map .integer ++ .float x :: rest → (∀ a ∈ rest, a.isNumeric = true) →
        result = .ok (.scalar (.float ((rest.filterMap Scalar.float?).foldl Binary64.add
          ((Binary64.ofInt (exactTotal ms)).add x))))) ∧
      (∀ (front : List Scalar) (bad : Scalar) (rest : List Scalar),
        scalars = front ++ bad :: rest → (∀ a ∈ front, a.isNumeric = true) →
        bad.isNumeric = false →
        result = .error (failure (.typeMismatch "number" bad.typeName)))) := by
  intro t scalars result failure
  have ran : result = ((sumFrom (.integer 0) scalars).map Value.scalar).mapError failure :=
    dispatch_local rfl hosted (sumFrom_error_isLocal (.integer 0) scalars)
      (Operators.sum_apply some_ site _)
  rw [ran]
  refine ⟨fun overflows => ?overflow, fun within => ⟨fun ms same => ?integers,
    fun ms x rest same numeric => ?floats, fun front bad rest same numeric other => ?stops⟩⟩
  case overflow =>
    rw [sum_overflow overflows]
    rfl
  case integers =>
    rw [same, ← List.append_nil (ms.map _)] at within ⊢
    obtain ⟨k, exact_, added⟩ := sum_integers within
    exact ⟨k, exact_, by rw [added]; rfl⟩
  case floats =>
    rw [same] at within ⊢
    rw [sum_floats numeric within]
    rfl
  case stops =>
    rw [same] at within ⊢
    rw [sum_stops numeric other within]
    rfl

/-- Two errors that the same two fields may come to, each in one of their orders. -/
theorem sum_of_columns_ends :
    let rows : List Row := [[("a", .scalar (.integer 9223372036854775807)),
      ("b", .sequence [.integer 1, .string "x"])]]
    let sum (fields : List String) : Term := .mk (.builtin .sum) (fields.map .field)
    let result (t : Term) := (evalAt {} 1 ⟨rows, 0⟩ t ⟨.mk none [], {}⟩).1
    Registry.standard.hosts .sum = true ∧ ["a", "b"] ≠ [] ∧ ["b", "a"] ≠ [] ∧
      result (sum ["a", "b"]) =
        .error (.evaluation (sum ["a", "b"]).text ⟨0, "sum", 1⟩ (.overflow "add")) ∧
      result (sum ["b", "a"]) =
        .error (.evaluation (sum ["b", "a"]).text ⟨0, "sum", 1⟩
          (.typeMismatch "number" "string")) := by
  intro rows sum result
  have hosted := Registry.standard_hosts .sum
  refine ⟨hosted, List.cons_ne_nil _ _, List.cons_ne_nil _ _, ?_, ?_⟩
  · refine (sum_of_columns ["a", "b"] (List.cons_ne_nil _ _) {} 0 ⟨rows, 0⟩
      (s := ⟨.mk none [], {}⟩) hosted).1 ?_
    exact ⟨[9223372036854775807, 1], ⟨[.string "x"], rfl⟩, by decide⟩
  · refine ((sum_of_columns ["b", "a"] (List.cons_ne_nil _ _) {} 0 ⟨rows, 0⟩
      (s := ⟨.mk none [], {}⟩) hosted).2 ?_).2.2 [.integer 1] (.string "x")
      [.integer 9223372036854775807] rfl (by decide) rfl
    rintro ⟨ms, start, beyond⟩
    rcases ms with _ | ⟨m, _ | ⟨m', ms⟩⟩
    · exact beyond (by decide)
    · obtain ⟨same, -⟩ := List.cons_prefix_cons.1 start
      cases same
      exact beyond (by decide)
    · obtain ⟨other, -⟩ := List.cons_prefix_cons.1 (List.cons_prefix_cons.1 start).2
      cases other

end FactScan
