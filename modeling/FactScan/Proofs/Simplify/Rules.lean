/-
# FactScan.Proofs.Simplify.Rules — every rule of simplification refines

One lemma for each way in which a term is simplified, about terms with operands that were
simplified already: operands of a junction that cannot decide are dropped one at a time
(`Refines.drop`, `Refines.stop`), and what is worth a scalar becomes a constant.  Together
they say that a simplified term refines the original, if what that carries as data does no
more than give a value (`Term.simplifyAt_inertly`).
-/
import FactScan.Proofs.Simplify.Outcome
import FactScan.Proofs.Simplify.Simulation

namespace FactScan

set_option autoImplicit false

/-! ## Positions -/

/-- Operands in front that are all kept. -/
theorem Thinned.keepAll {absorbing : Bool} {operands : List Operand} {place : Nat → Nat}
    {ps ks : List Nat} (rest : Thinned absorbing operands place ps ks) (front : List Nat) :
    Thinned absorbing operands place (front.map place ++ ps) (front ++ ks) := by
  induction front with
  | nil => exact rest
  | cons k front ih => exact .keep k ih

/-- Positions before, at and after one of them. -/
theorem range_around (q r : Nat) :
    List.range (q + (r + 1)) = List.range q ++ q :: (List.range r).map (q + 1 + ·) := by
  rw [Nat.add_comm r 1, ← Nat.add_assoc, List.range_add, List.range_succ, List.append_assoc]
  rfl

/-- Where operands stood before the one at a position was dropped. -/
def around (q k : Nat) : Nat := if k < q then k else k + 1

theorem around_of_lt {q k : Nat} (low : k < q) : around q k = k := if_pos low

theorem around_of_le {q k : Nat} (high : q ≤ k) : around q k = k + 1 :=
  if_neg (Nat.not_lt_of_le high)

theorem around_injective (q : Nat) : (around q).Injective := by
  intro k k' same
  unfold around at same
  split at same <;> split at same <;> omega

theorem around_ne (q k : Nat) : around q k ≠ q := by
  unfold around
  split <;> omega

namespace Refines

variable {settings : Settings} {absorbing : Bool}

/-! ## Junctions -/

theorem child_ofParts (op : Operator) (parts : List Part) {p : Nat} {part : Part}
    (at_ : parts[p]? = some part) : (Instance.ofParts op parts).memory.child p = part.memory := by
  show (parts.map (·.memory)).getD p .blank = _
  rw [List.getD_eq_getElem?_getD, List.getElem?_map, at_]
  rfl

/-- A junction and what is left of it, each part with the memory it had. -/
theorem ofThinned {place : Nat → Nat} {parts parts' : List Part} (injective : place.Injective)
    (some_ : parts' ≠ [])
    (thin : Thinned absorbing (parts.map (·.operand)) place (List.range parts.length)
      (List.range parts'.length))
    (kept : ∀ k, k < parts'.length → parts'[k]? = parts[place k]?) :
    Refines settings (.ofParts (.builtin (.junction absorbing)) parts)
      (.ofParts (.builtin (.junction absorbing)) parts') := by
  refine .thinned injective ?_ ?_ ?_ ?_
  · intro empty
    exact some_ (List.map_eq_nil_iff.1 empty)
  · rw [List.length_map, List.length_map]
    exact thin
  · intro k low
    rw [List.length_map] at low
    rw [List.getElem?_map, List.getElem?_map, kept k low]
  · intro k t t' here here'
    rw [List.getElem?_map] at here here'
    obtain ⟨o', at_', carried'⟩ := Option.bind_eq_some_iff.1 here'
    obtain ⟨part', found', rfl⟩ := Option.map_eq_some_iff.1 at_'
    have found := (kept k (List.getElem?_eq_some_iff.1 found').1).symm.trans found'
    rw [found] at here
    obtain rfl : t = t' := Option.some.inj (here.symm.trans carried')
    have same := (child_ofParts (.builtin (.junction absorbing)) parts found).trans
      (child_ofParts (.builtin (.junction absorbing)) parts' found').symm
    exact congrArg (Instance.mk t) same ▸ .refl _

/-- A neutral constant is dropped, unless nothing would be left. -/
theorem drop {before after : List Part} {part : Part} {a : Scalar}
    (constant : part.operand.constant? = some a) (neutral : a.isTruthy ≠ absorbing)
    (some_ : before ++ after ≠ []) :
    Refines settings (.ofParts (.builtin (.junction absorbing)) (before ++ part :: after))
      (.ofParts (.builtin (.junction absorbing)) (before ++ after)) := by
  refine ofThinned (around_injective before.length) some_ ?_ ?_
  · have here : ((before ++ part :: after).map (·.operand))[before.length]?.bind
        Operand.constant? = some a := by
      rw [List.getElem?_map, List.getElem?_append_right (Nat.le_refl _), Nat.sub_self]
      exact constant
    have front : (List.range before.length).map (around before.length) =
        List.range before.length := by
      refine (List.map_congr_left fun k low => ?_).trans (List.map_id _)
      exact around_of_lt (List.mem_range.1 low)
    have back : (((List.range after.length).map (before.length + ·)).map
        (around before.length)) = (List.range after.length).map (before.length + 1 + ·) := by
      rw [List.map_map]
      refine List.map_congr_left fun k _ => ?_
      refine (around_of_le (Nat.le_add_right _ _)).trans ?_
      omega
    have none_ : Thinned absorbing ((before ++ part :: after).map (·.operand))
        (around before.length) [] [] := .nil
    have after_ := none_.keepAll ((List.range after.length).map (before.length + ·))
    have all := (after_.drop before.length a here neutral (around_ne before.length)).keepAll
      (List.range before.length)
    rw [front, back, List.append_nil, List.append_nil] at all
    rw [List.length_append, List.length_append, List.length_cons, range_around, List.range_add]
    exact all
  · intro k low
    by_cases first : k < before.length
    · rw [around_of_lt first, List.getElem?_append_left first, List.getElem?_append_left first]
    · have high : before.length ≤ k := Nat.le_of_not_lt first
      rw [around_of_le high, List.getElem?_append_right high,
        List.getElem?_append_right (Nat.le_succ_of_le high), Nat.succ_sub high]
      rfl

/-- What follows an absorbing constant is dropped. -/
theorem stop {before after : List Part} {part : Part} {a : Scalar}
    (constant : part.operand.constant? = some a) (absorbs : a.isTruthy = absorbing) :
    Refines settings (.ofParts (.builtin (.junction absorbing)) (before ++ part :: after))
      (.ofParts (.builtin (.junction absorbing)) (before ++ [part])) := by
  have here : ((before ++ part :: after).map (·.operand))[id before.length]?.bind
      Operand.constant? = some a := by
    rw [id_eq, List.getElem?_map, List.getElem?_append_right (Nat.le_refl _), Nat.sub_self]
    exact constant
  refine ofThinned Function.injective_id (by simp) ?_ ?_
  · have thin := (Thinned.stop before.length a
      ((List.range after.length).map (before.length + 1 + ·)) here absorbs).keepAll
        (List.range before.length)
    rw [List.map_id, id_eq] at thin
    rw [List.length_append, List.length_append, List.length_cons, List.length_singleton,
      range_around, List.range_succ]
    exact thin
  · intro k low
    rw [List.length_append, List.length_singleton] at low
    rw [id_eq]
    by_cases first : k < before.length
    · rw [List.getElem?_append_left first, List.getElem?_append_left first]
    · obtain rfl : k = before.length := by omega
      rw [List.getElem?_append_right (Nat.le_refl _), List.getElem?_append_right (Nat.le_refl _),
        Nat.sub_self]
      rfl

theorem live_refines (parts : List Part) :
    ∀ before : List Part, before ++ (Simplify.live absorbing parts).1 ≠ [] →
      Refines settings (.ofParts (.builtin (.junction absorbing)) (before ++ parts))
        (.ofParts (.builtin (.junction absorbing))
          (before ++ (Simplify.live absorbing parts).1)) := by
  induction parts with
  | nil =>
      intro before _
      exact .refl _
  | cons part rest ih =>
      intro before
      cases constant : part.operand.constant? with
      | some a =>
          by_cases absorbs : a.isTruthy = absorbing
          · have live : Simplify.live absorbing (part :: rest) = ([part], true) := by
              rw [Simplify.live, constant]
              exact if_pos absorbs
            intro _
            rw [live]
            exact stop constant absorbs
          · have live : Simplify.live absorbing (part :: rest) = Simplify.live absorbing rest := by
              rw [Simplify.live, constant]
              exact if_neg absorbs
            rw [live]
            intro some_
            refine .trans (drop constant absorbs ?_) (ih before some_)
            intro none_
            obtain ⟨rfl, rfl⟩ := List.append_eq_nil_iff.1 none_
            exact some_ rfl
      | none =>
          have live : (Simplify.live absorbing (part :: rest)).1 =
              part :: (Simplify.live absorbing rest).1 := by
            rw [Simplify.live, constant]
          rw [live]
          intro _
          have step := ih (before ++ [part]) (by simp)
          rw [List.append_assoc, List.append_assoc] at step
          exact step

end Refines

namespace Refines

variable {settings : Settings}

/-- Parts that carry inert terms only. -/
def InertParts (parts : List Part) : Prop := ∀ part ∈ parts, part.operand.HoldsInert

theorem junction {absorbing : Bool} {parts : List Part} (inert : InertParts parts) :
    Refines settings (.ofParts (.builtin (.junction absorbing)) parts)
      (Simplify.junction absorbing (.builtin (.junction absorbing)) parts) := by
  unfold Simplify.junction
  split
  · exact .refl _
  · have thinned := @live_refines settings absorbing parts []
    have members : ∀ p, p ∈ (Simplify.live absorbing parts).1 → p ∈ parts :=
      fun _ member => (Simplify.live_sublist absorbing parts).subset member
    split
    · rename_i kept live
      rw [live] at thinned members
      obtain ⟨front, part, a, rfl, -, constant, absorbs⟩ := Simplify.live_absorbed live
      have left := thinned (by simp)
      split
      · rename_i pures
        refine .trans left (.constant ?_)
        have operands : (front ++ [part]).map (·.operand) =
            front.map (·.operand) ++ [part.operand] := List.map_append
        show (Term.mk _ ((front ++ [part]).map (·.operand))).IsWorth settings _
        rw [operands]
        refine Term.isWorth_absorbed constant absorbs ?_ ?_
        · intro o member
          obtain ⟨p, inside, rfl⟩ := List.mem_map.1 member
          exact List.all_eq_true.1 pures p (List.mem_append_left _ inside)
        · intro o member
          obtain ⟨p, inside, rfl⟩ := List.mem_map.1 member
          exact (inert p (members p (List.mem_append_left _ inside))).carriesInert
      · exact left
    · rename_i live
      refine .constant (Term.isWorth_neutral fun o member => ?_)
      obtain ⟨part, inside, rfl⟩ := List.mem_map.1 member
      exact Simplify.live_empty live part inside
    · rename_i kept none_ live
      rw [live] at thinned
      refine thinned ?_
      rintro rfl
      exact none_ rfl

/-! ## Constants -/

theorem fold (registry : Registry) {b : Builtin} (parts : List Part)
    (isBinary : (∃ c, b = .compare c) ∨ ∃ a, b = .arithmetic a) :
    Refines settings (.ofParts (.builtin b) parts)
      (Simplify.fold settings registry (.builtin b) parts) := by
  unfold Simplify.fold
  split
  · rename_i a worth
    obtain ⟨probe, probed, worth⟩ := Option.bind_eq_some_iff.1 worth
    unfold Simplify.probe? at probed
    split at probed
    · rename_i first second
      split at probed
      · rename_i x y isX isY
        cases probed
        have made := Builtin.combine_of_worth isBinary worth
        exact .constant (Term.isWorth_folded isX isY isBinary made)
      · cases probed
    · cases probed
  · exact .refl _

/-! ## Terms -/

theorem builtin (registry : Registry) (b : Builtin) {parts : List Part}
    (inert : InertParts parts) :
    Refines settings (.ofParts (.builtin b) parts)
      (Simplify.builtin settings registry b parts) := by
  cases b with
  | and => exact @junction settings false parts inert
  | or => exact @junction settings true parts inert
  | compare c => exact fold registry parts (.inl ⟨c, rfl⟩)
  | arithmetic a => exact fold registry parts (.inr ⟨a, rfl⟩)
  | not =>
      match parts with
      | [] => exact .refl _
      | _ :: _ :: _ => exact .refl _
      | [part] =>
          show Refines settings _ ((part.operand.constant?.map _).getD _)
          cases constant : part.operand.constant? with
          | none => exact .refl _
          | some a => exact .constant (Term.isWorth_not constant)
  | either =>
      match parts with
      | [] => exact .refl _
      | [_] => exact .refl _
      | _ :: _ :: _ :: _ => exact .refl _
      | [part, other] =>
          show Refines settings _ ((part.operand.constant?.map _).getD _)
          cases constant : part.operand.constant? with
          | none => exact .refl _
          | some a => exact .constant (Term.isWorth_either constant)
  | _ => exact .refl _

theorem apply {registry : Registry} (hookless : ∀ d ∈ registry.custom, d.hook = none)
    (op : Operator) {parts : List Part} (inert : InertParts parts) :
    Refines settings (.ofParts op parts) (Simplify.apply settings registry op parts) := by
  cases op with
  | builtin b => exact builtin registry b inert
  | custom name =>
      have settled : Simplify.NoRule settings registry (.custom name) (parts.map (·.operand)) :=
        trivial
      rw [Simplify.apply_eq hookless settled]
      exact .refl _

end Refines

/-! ## The simplifier -/

/-- What a simplified term carries as data is inert, if what the original carries is. -/
theorem Term.carriesInert_simplifyAt {settings : Settings} {registry : Registry}
    (hookless : ∀ d ∈ registry.custom, d.hook = none) {t : Term}
    (carries : (Operand.nested t).CarriesInert) (depth : Nat) (m : Memory) :
    (Operand.nested (t.simplifyAt settings registry depth m).term).CarriesInert := by
  have compositional : Simplify.Compositional (fun _ t => (Operand.nested t).CarriesInert)
      (fun _ _ => True) fun _ o => o.HoldsInert :=
    { term := by simp [Operand.carriesInert_mk]
      nested := .rfl
      const := id
      made := fun {_ a} made => by
        cases a with
        | term _ => cases made
        | _ => trivial
      raised := id }
  refine compositional.simplifyAt (fun d member hook hooked => ?_) carries m
  exact absurd hooked (Simplify.not_hooked hookless member hook)

/-- An operand and what it is simplified to: of one shape, without terms that do more than
give a value, and refined where it holds a term. -/
structure Operand.Simplified (settings : Settings) (o : Operand) (m : Memory) (part : Part) :
    Prop where
  shape : o.shape = part.operand.shape
  inert : part.operand.HoldsInert
  refines : ∀ t t', o.carried? = some t → part.operand.carried? = some t' →
    Refines settings ⟨t, o.freshMemory m⟩ ⟨t', part.memory⟩

theorem Operand.simplifyAt_simplified {settings : Settings} {registry : Registry}
    (hookless : ∀ d ∈ registry.custom, d.hook = none) {depth : Nat} {o : Operand} {m : Memory}
    (inert : o.HoldsInert)
    (below : ∀ t, o = .nested t →
      Refines settings ⟨t, t.freshMemory m⟩ (t.simplifyAt settings registry depth m)) :
    o.Simplified settings m (o.simplifyAt settings registry depth m) := by
  match o with
  | .nested t =>
      refine ⟨rfl, Term.carriesInert_simplifyAt hookless inert depth m, ?_⟩
      rintro u u' ⟨⟩ ⟨⟩
      exact below t rfl
  | .literal (.term c) =>
      refine ⟨rfl, inert, ?_⟩
      rintro u u' ⟨⟩ ⟨⟩
      exact .refl _
  | .literal (.integer _) | .literal (.float _) | .literal (.string _) | .literal (.boolean _)
  | .literal (.timestamp _) | .literal (.regex _) | .field _ | .placeholder _ =>
      refine ⟨rfl, trivial, ?_⟩
      rintro u u' ⟨⟩

/-- **A simplified term refines the original**, whatever the original remembers, since a
fresh copy remembers nothing, as long as the terms that the original carries as data are
inert. -/
theorem Term.simplifyAt_inertly {settings : Settings} {registry : Registry}
    (hookless : ∀ d ∈ registry.custom, d.hook = none) (t : Term)
    (carries : (Operand.nested t).CarriesInert) (depth : Nat) (m : Memory) :
    Refines settings ⟨t, t.freshMemory m⟩ (t.simplifyAt settings registry depth m) := by
  induction t using Term.nested_induction generalizing depth m with
  | step op operands ih =>
      rw [Term.simplifyAt]
      split
      · exact .refl _
      · rename_i simplified
        have other : op ≠ .builtin .define := by
          rintro rfl
          exact simplified (by simp [Simplify.isKept])
        have below := Operand.carriesInert_mk.1 carries
        generalize made : Operand.listSimplifyAt settings registry (depth + 1) operands
          m.children = parts
        have at_ (p : Nat) : parts[p]? = operands[p]?.map fun o =>
            o.simplifyAt settings registry (depth + 1) (m.child p) := by
          rw [← made]
          exact Operand.getElem?_listSimplifyAt settings registry (depth + 1) operands m.children p
        have each {p : Nat} {o : Operand} (found : operands[p]? = some o) :
            o.Simplified settings (m.child p)
              (o.simplifyAt settings registry (depth + 1) (m.child p)) := by
          have member := List.mem_of_getElem? found
          refine Operand.simplifyAt_simplified hookless (below o member) fun t is => ?_
          subst is
          exact ih t member (below _ member) (depth + 1) (m.child p)
        have inertParts : Refines.InertParts parts := by
          intro part member
          obtain ⟨p, found⟩ := List.mem_iff_getElem?.1 member
          rw [at_, Option.map_eq_some_iff] at found
          obtain ⟨o, found, rfl⟩ := found
          exact (each found).inert
        have shapes : operands.map Operand.shape =
            (parts.map (·.operand)).map Operand.shape := by
          refine List.ext_getElem? fun p => ?_
          rw [List.getElem?_map, List.getElem?_map, List.getElem?_map, at_]
          cases found : operands[p]? with
          | none => rfl
          | some o => exact congrArg some (each found).shape
        have refined : Refines settings ⟨.mk op operands, (Term.mk op operands).freshMemory m⟩
            (.ofParts op parts) := by
          refine Refines.unevaluated other shapes ?_ rfl rfl
          intro p t t' here here'
          rw [id_eq] at here ⊢
          obtain ⟨o, found, carried⟩ := Option.bind_eq_some_iff.1 here
          have part : parts[p]? = some _ := (at_ p).trans (by rw [found]; rfl)
          rw [List.getElem?_map, part] at here'
          rw [Term.child_freshMemory, found]
          show Refines settings ⟨t, _⟩ ⟨t', (Instance.ofParts op parts).memory.child p⟩
          rw [Refines.child_ofParts op parts part]
          exact (each found).refines t t' carried here'
        exact .trans refined (Refines.apply hookless op inertParts)

/-- Terms that carry none as data are refined, and the outcome carries none that could do more
than give a value. -/
theorem Term.simplifyAt_refines {settings : Settings} {registry : Registry}
    (hookless : ∀ d ∈ registry.custom, d.hook = none) {t : Term} (plain : t.IsPlain)
    (depth : Nat) (m : Memory) :
    Refines settings ⟨t, t.freshMemory m⟩ (t.simplifyAt settings registry depth m) ∧
      (Operand.nested (t.simplifyAt settings registry depth m).term).CarriesInert := by
  have carries : (Operand.nested t).CarriesInert := Operand.carriesInert_of_isPlain plain
  exact ⟨t.simplifyAt_inertly hookless carries depth m,
    Term.carriesInert_simplifyAt hookless carries depth m⟩

end FactScan
