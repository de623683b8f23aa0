/-
# FactScan.Proofs.Facts.Documents — facts written as documents and loaded again

The writer turns a history of one scalar into a bare value.  The loader takes an array for a
history, leaves out what holds nothing, and makes a double of an integer that is too large for
one.  So many documents are loaded as the same fact, and none is written back as it was.  But what
is loaded is always a fact that has grown from appends (`Histories.IsGrown`), hence has no empty
history, and all of whose scalars a document has as such (`Scalar.IsPlain`).  Of such facts none
is changed by writing and loading.

* `Json.exists_ofMembers`: an object has the members it is made of, in the order of their names.
* `historyOfJson_toJson`: a history is loaded as it was written.
* `Histories.load_eq`, `Row.load_eq`: distinct entries are taken up as they are.
* `Histories.ofJson_toRow_toJson`: the whole.
-/
import Mathlib.Data.List.Nodup
import Mathlib.Data.List.Perm.Basic
import FactScan.Proofs.Facts.Loading
import FactScan.Proofs.Reading.Places

namespace FactScan

set_option autoImplicit false

/-! ## Scalars and histories -/

/-- The double of an integer is far from the largest. -/
theorem Binary64.isFinite_ofInt {n : Int} (small : n.natAbs ≤ UInt64.size) :
    (ofInt n).isFinite = true := by
  have below : n.natAbs * one ≤ units (top - 1) * 1 :=
    Nat.le_trans (Nat.mul_le_mul_right one small) (by decide +kernel)
  have place : nearestPlace (n.natAbs * one) 1 ≤ top - 1 :=
    Nat.le_trans (nearestPlace_mono below 1)
      (Nat.le_of_eq (nearestPlace_units (Nat.sub_le top 1) Nat.one_pos))
  have positive : 0 < top := by decide
  show decide (nearestPlace (n.natAbs * one) 1 < top) = true
  exact decide_eq_true (by omega)

/-- A scalar that a document has as such: not one that is written as a text, and no double that
is written as nothing. -/
def Scalar.IsPlain : Scalar → Prop
  | .integer _ | .string _ | .boolean _ => True
  | .float x => x.isFinite = true
  | .timestamp _ | .regex _ | .term _ => False

theorem Scalar.ofJson_toJson {s : Scalar} (plain : s.IsPlain) :
    Scalar.ofJson s.toJson = .ok (some s) := by
  cases s with
  | integer n => rfl
  | float x =>
      have finite : x.isFinite = true := plain
      rw [toJson, Json.ofFloat, dif_pos finite, ofJson]
  | string s => rfl
  | boolean b => rfl
  | timestamp t => cases plain
  | regex p => cases plain
  | term t => cases plain

/-- A scalar of a document is plain. -/
theorem Scalar.isPlain_ofJson {j : Json} {s : Scalar} (read : Scalar.ofJson j = .ok (some s)) :
    s.IsPlain := by
  cases j with
  | null => cases read
  | boolean b => cases read; trivial
  | integer n => cases read; trivial
  | large n beyond =>
      cases read
      exact Binary64.isFinite_ofInt (Nat.le_of_lt n.toNat_lt)
  | float x finite => cases read; exact finite
  | string s => cases read; trivial
  | array items => cases read
  | object members => cases read

theorem Scalar.listOfJson_toJson {items : List Scalar} (plain : ∀ s ∈ items, s.IsPlain) :
    Scalar.listOfJson (items.map toJson) = .ok items := by
  induction items with
  | nil => rfl
  | cons s rest ih =>
      obtain ⟨first, others⟩ := List.forall_mem_cons.1 plain
      rw [List.map_cons, listOfJson, ofJson_toJson first, ih others]
      rfl

theorem Scalar.isPlain_listOfJson {items : List Json} {read : List Scalar}
    (loaded : Scalar.listOfJson items = .ok read) : ∀ s ∈ read, s.IsPlain := by
  induction items generalizing read with
  | nil => cases loaded; exact fun s member => absurd member List.not_mem_nil
  | cons j rest ih =>
      unfold listOfJson at loaded
      cases first : ofJson j with
      | error e => rw [first] at loaded; cases loaded
      | ok found =>
          cases others : listOfJson rest with
          | error e => rw [first, others] at loaded; cases loaded
          | ok read' =>
              rw [first, others] at loaded
              cases loaded
              refine List.forall_mem_append.2 ⟨fun s member => ?_, ih others⟩
              exact isPlain_ofJson (first.trans (congrArg _ (Option.mem_toList.1 member)))

theorem historyOfJson_scalar {s : Scalar} (plain : s.IsPlain) :
    historyOfJson s.toJson = .ok [s] := by
  have bare : ∀ items, s.toJson ≠ .array items := by
    intro items array
    have read := Scalar.ofJson_toJson plain
    rw [array] at read
    cases read
  rw [historyOfJson, Scalar.ofJson_toJson plain]
  · rfl
  · exact bare

/-- **A history is loaded as it was written**, though a single scalar is written bare and nothing
at all as `null`. -/
theorem historyOfJson_toJson {items : List Scalar} (plain : ∀ s ∈ items, s.IsPlain) :
    historyOfJson (Value.ofHistory items).toJson = .ok items := by
  match items with
  | [] => rfl
  | [s] => exact historyOfJson_scalar (plain s List.mem_cons_self)
  | _ :: _ :: _ => exact Scalar.listOfJson_toJson plain

theorem isPlain_historyOfJson {j : Json} {items : List Scalar}
    (read : historyOfJson j = .ok items) : ∀ s ∈ items, s.IsPlain := by
  unfold historyOfJson at read
  split at read
  · exact Scalar.isPlain_listOfJson read
  · cases single : Scalar.ofJson j with
    | error e => rw [single] at read; cases read
    | ok found =>
        rw [single] at read
        cases read
        exact fun s member =>
          Scalar.isPlain_ofJson (single.trans (congrArg _ (Option.mem_toList.1 member)))

/-! ## Objects -/

namespace Json

theorem perm_insertMember {name : String} (value : Json) {members : List (String × Json)}
    (new : name ∉ members.map (·.1)) :
    (insertMember name value members).Perm ((name, value) :: members) := by
  induction members with
  | nil => exact .refl _
  | cons m rest ih =>
      obtain ⟨n, v⟩ := m
      obtain ⟨other, later⟩ := not_or.1 (List.mem_cons.not.1 new)
      unfold insertMember
      split
      · exact .refl _
      · exact ((ih later).cons (n, v)).trans (.swap (name, value) (n, v) rest)

theorem perm_insertMembers (members ms : List (String × Json))
    (distinct : ((members ++ ms).map (·.1)).Nodup) :
    (members.foldl (fun ms m => insertMember m.1 m.2 ms) ms).Perm (members ++ ms) := by
  induction members generalizing ms with
  | nil => exact .refl ms
  | cons m rest ih =>
      have new : m.1 ∉ ms.map (·.1) := fun member =>
        (List.nodup_cons.1 distinct).1 (List.map_append ▸ List.mem_append_right _ member)
      have inserted := (perm_insertMember m.2 new).append_left rest
      have moved := inserted.trans List.perm_middle
      exact (ih _ ((moved.map (·.1)).symm.nodup distinct)).trans moved

/-- **An object has the members it is made of**, if their names are distinct, in the order of the
names. -/
theorem exists_ofMembers {members : List (String × Json)} (distinct : (members.map (·.1)).Nodup) :
    ∃ sorted : List (String × Json), ofMembers members = .object sorted ∧ sorted.Perm members ∧
      (sorted.map (·.1)).Pairwise (· < ·) := by
  have perm := perm_insertMembers members [] (by rwa [List.append_nil])
  rw [List.append_nil] at perm
  exact ⟨_, rfl, perm, sorted_insertMembers members .nil⟩

end Json

/-- A row as a document. -/
def Row.toJson (r : Row) : Json := .ofMembers (r.map fun (name, v) => (name, v.toJson))

/-! ## Entries -/

namespace Fields

variable {α : Type} {name : String}

theorem alter_append (f : Option α → α) {fields : Fields α} (rest : Fields α)
    (new : name ∉ fields.map (·.1)) :
    alter name f (fields ++ rest) = fields ++ alter name f rest := by
  induction fields with
  | nil => rfl
  | cons e fields ih =>
      obtain ⟨n, a⟩ := e
      obtain ⟨other, later⟩ := not_or.1 (List.mem_cons.not.1 new)
      rw [List.cons_append, alter, if_neg (Ne.symm other), ih later, List.cons_append]

theorem alter_new (f : Option α → α) {fields : Fields α} (new : name ∉ fields.map (·.1)) :
    alter name f fields = fields ++ [(name, f none)] := by
  have end_ := alter_append f [] new
  rwa [List.append_nil] at end_

theorem names_alter (f : Option α → α) (fields : Fields α) :
    (alter name f fields).map (·.1) =
      if name ∈ fields.map (·.1) then fields.map (·.1) else fields.map (·.1) ++ [name] := by
  induction fields with
  | nil => rfl
  | cons e fields ih =>
      obtain ⟨n, a⟩ := e
      unfold alter
      split
      · rename_i same
        subst same
        exact (if_pos List.mem_cons_self).symm
      · rename_i other
        rw [List.map_cons, ih, List.map_cons]
        simp only [List.mem_cons, Ne.symm other, false_or]
        split <;> rfl

theorem mem_alter {f : Option α → α} {fields : Fields α} {e : String × α}
    (member : e ∈ alter name f fields) :
    e ∈ fields ∨ e = (name, f none) ∨ ∃ a, (name, a) ∈ fields ∧ e = (name, f (some a)) := by
  induction fields with
  | nil => exact .inr (.inl (List.mem_singleton.1 member))
  | cons e' fields ih =>
      obtain ⟨n, a⟩ := e'
      unfold alter at member
      split at member
      · rename_i same
        subst same
        rcases List.mem_cons.1 member with rfl | later
        · exact .inr (.inr ⟨a, List.mem_cons_self, rfl⟩)
        · exact .inl (List.mem_cons_of_mem _ later)
      · rcases List.mem_cons.1 member with rfl | later
        · exact .inl List.mem_cons_self
        · rcases ih later with old | new | ⟨b, old, changed⟩
          · exact .inl (List.mem_cons_of_mem _ old)
          · exact .inr (.inl new)
          · exact .inr (.inr ⟨b, List.mem_cons_of_mem _ old, changed⟩)

end Fields

theorem Histories.appendAll_new {name : String} {items : List Scalar} {h : Histories}
    (new : name ∉ h.map (·.1)) (some_ : items ≠ []) :
    items.foldl (fun h s => append name s h) h = h ++ [(name, items)] := by
  suffices more : ∀ (items old : List Scalar),
      items.foldl (fun h s => append name s h) (h ++ [(name, old)]) =
        h ++ [(name, old ++ items)] by
    cases items with
    | nil => exact absurd rfl some_
    | cons s rest =>
        rw [List.foldl_cons, append, Fields.alter_new _ new]
        exact more rest [s]
  intro items
  induction items with
  | nil => exact fun old => by rw [List.append_nil]; rfl
  | cons s rest ih =>
      intro old
      rw [List.foldl_cons, append, Fields.alter_append _ _ new, Fields.alter, if_pos rfl,
        Option.getD_some, ih, List.append_assoc]
      rfl

/-- **Entries are taken up as they are by a fact in memory**, if their names are new and distinct
and none is empty. -/
theorem Histories.load_eq {entries : List (String × List Scalar)} {h : Histories}
    (distinct : ((h ++ entries).map (·.1)).Nodup) (some_ : ∀ e ∈ entries, e.2 ≠ []) :
    load entries h = h ++ entries := by
  induction entries generalizing h with
  | nil => exact (List.append_nil h).symm
  | cons e rest ih =>
      obtain ⟨name, items⟩ := e
      obtain ⟨first, others⟩ := List.forall_mem_cons.1 some_
      have new : name ∉ h.map (·.1) := by
        rw [List.map_append] at distinct
        exact fun member => distinct.disjoint member List.mem_cons_self
      rw [List.append_cons] at distinct ⊢
      rw [← ih distinct others, ← appendAll_new new first]
      rfl

/-- **So they are by a row**, which enters an empty history, too. -/
theorem Row.load_eq {entries : List (String × List Scalar)} {r : Row}
    (distinct : (r.map (·.1) ++ entries.map (·.1)).Nodup) :
    load entries r = r ++ Histories.toRow entries := by
  induction entries generalizing r with
  | nil => exact (List.append_nil r).symm
  | cons e rest ih =>
      obtain ⟨name, items⟩ := e
      have new : name ∉ r.map (·.1) :=
        fun member => distinct.disjoint member List.mem_cons_self
      have entered : load ((name, items) :: rest) r =
          load rest (r ++ [(name, .ofHistory items)]) :=
        congrArg (load rest) (Fields.alter_new _ new)
      rw [entered, ih, List.append_assoc]
      · rfl
      · rw [List.map_append, List.append_assoc]
        exact distinct

/-! ## Facts that grow -/

namespace Histories

/-- The fact that scalars make when they are appended one by one, each under its name. -/
def ofRecords (records : List (String × Scalar)) : Histories :=
  records.foldl (fun h (name, s) => h.append name s) []

/-- A fact in memory, which takes nothing but appends. -/
def IsGrown (h : Histories) : Prop := ∃ records, h = ofRecords records

/-- A fact all of whose scalars are plain. -/
def IsPlain (h : Histories) : Prop := ∀ e ∈ h, ∀ s ∈ e.2, s.IsPlain

/-- What is true of no fields, and stays true when a scalar is appended, is true of every fact in
memory. -/
theorem IsGrown.induction {P : Histories → Prop} (empty : P [])
    (append : ∀ (name : String) (s : Scalar) (h : Histories), P h → P (h.append name s))
    {h : Histories} (grown : h.IsGrown) : P h := by
  obtain ⟨records, rfl⟩ := grown
  exact List.foldlRecOn records _ empty fun h before r _ => append r.1 r.2 h before

theorem IsGrown.distinct {h : Histories} (grown : h.IsGrown) : (h.map (·.1)).Nodup := by
  refine IsGrown.induction (P := fun h => (h.map (·.1)).Nodup) .nil ?_ grown
  intro name s h before
  rw [append, Fields.names_alter]
  split
  · exact before
  · rename_i new
    exact List.concat_eq_append ▸ (List.nodup_concat _ _).2 ⟨new, before⟩

theorem mem_append {name : String} {s : Scalar} {h : Histories} {e : String × List Scalar}
    (member : e ∈ h.append name s) :
    e ∈ h ∨ ∃ old, e = (name, old ++ [s]) ∧ ∀ a ∈ old, ∃ e' ∈ h, a ∈ e'.2 := by
  rcases Fields.mem_alter member with before | rfl | ⟨old, before, rfl⟩
  · exact .inl before
  · exact .inr ⟨[], rfl, fun a member => absurd member List.not_mem_nil⟩
  · exact .inr ⟨old, rfl, fun a member => ⟨_, before, member⟩⟩

theorem IsGrown.nonempty {h : Histories} (grown : h.IsGrown) : ∀ e ∈ h, e.2 ≠ [] := by
  refine IsGrown.induction (P := fun h => ∀ e ∈ h, e.2 ≠ []) (List.forall_mem_nil _) ?_ grown
  intro name s h before e member
  rcases mem_append member with there | ⟨old, rfl, -⟩
  · exact before e there
  · exact List.concat_ne_nil s old

theorem IsPlain.append {h : Histories} (plain : h.IsPlain) (name : String) {s : Scalar}
    (new : s.IsPlain) : (h.append name s).IsPlain := by
  intro e member a held
  rcases mem_append member with before | ⟨old, rfl, from_⟩
  · exact plain e before a held
  · rcases List.mem_append.1 held with before | last
    · obtain ⟨e', member', held'⟩ := from_ a before
      exact plain e' member' a held'
    · rw [List.mem_singleton.1 last]
      exact new

/-- The entries of a document, scalar by scalar. -/
theorem load_eq_ofRecords (entries : List (String × List Scalar)) :
    load entries [] = ofRecords (entries.flatMap fun e => e.2.map fun s => (e.1, s)) := by
  rw [ofRecords, List.foldl_flatMap]
  simp only [List.foldl_map]
  rfl

theorem isPlain_ofRecords {records : List (String × Scalar)}
    (plain : ∀ r ∈ records, r.2.IsPlain) : (ofRecords records).IsPlain :=
  List.foldlRecOn records _ (motive := IsPlain) (List.forall_mem_nil _)
    fun _ before r member => before.append r.1 (plain r member)

end Histories

/-! ## There and back -/

/-- The member that a history is written as. -/
def writtenEntry (e : String × List Scalar) : String × Json :=
  (e.1, (Value.ofHistory e.2).toJson)

theorem historiesOf_written {h : Histories} (plain : h.IsPlain) :
    historiesOf (h.map writtenEntry) = .ok h := by
  induction h with
  | nil => rfl
  | cons e rest ih =>
      obtain ⟨name, items⟩ := e
      obtain ⟨first, others⟩ := List.forall_mem_cons.1 plain
      rw [List.map_cons, writtenEntry, historiesOf, historyOfJson_toJson first, ih others]
      rfl

theorem isPlain_historiesOf {members : List (String × Json)}
    {entries : List (String × List Scalar)} (read : historiesOf members = .ok entries) :
    Histories.IsPlain entries := by
  induction members generalizing entries with
  | nil => cases read; exact fun e member => absurd member List.not_mem_nil
  | cons m rest ih =>
      obtain ⟨name, j⟩ := m
      obtain ⟨items, others, first, below, rfl⟩ := historiesOf_cons_eq_ok read
      exact List.forall_mem_cons.2 ⟨isPlain_historyOfJson first, ih below⟩

/-- The entries of a fact's document are those of the fact, in the order of their names. -/
theorem Histories.exists_entriesOf {h : Histories} (grown : h.IsGrown) (plain : h.IsPlain) :
    ∃ h' : Histories, entriesOf h.toRow.toJson = .ok h' ∧ h'.Perm h ∧
      (h'.map (·.1)).Pairwise (· < ·) := by
  have distinct : ((h.map writtenEntry).map (·.1)).Nodup := by
    rw [List.map_map]
    exact grown.distinct
  obtain ⟨sorted, object, perm, inOrder⟩ := Json.exists_ofMembers distinct
  obtain ⟨h', rfl, same⟩ : ∃ h' : Histories, sorted = h'.map writtenEntry ∧ h'.Perm h :=
    (congrFun (congrFun (List.eq_map_comp_perm writtenEntry) sorted) h).mpr perm
  refine ⟨h', ?_, same, by rwa [List.map_map] at inOrder⟩
  rw [Row.toJson, toRow, List.map_map]
  show entriesOf (Json.ofMembers (h.map writtenEntry)) = _
  rw [object]
  exact historiesOf_written fun e member => plain e (same.subset member)

/-- What is loaded as a fact has grown from appends, and has the scalars that documents have. -/
theorem Histories.isGrown_ofJson {j : Json} {h : Histories} (read : Histories.ofJson j = .ok h) :
    h.IsGrown ∧ h.IsPlain := by
  rw [ofJson_eq] at read
  cases found : entriesOf j with
  | error e => rw [found] at read; cases read
  | ok entries =>
      rw [found] at read
      cases read
      have plain : IsPlain entries := by
        cases j with
        | object members => exact isPlain_historiesOf found
        | _ => cases found
      dsimp only
      rw [load_eq_ofRecords]
      refine ⟨⟨_, rfl⟩, isPlain_ofRecords fun r member => ?_⟩
      obtain ⟨e, entry, scalar⟩ := List.mem_flatMap.1 member
      obtain ⟨s, held, rfl⟩ := List.mem_map.1 scalar
      exact plain e entry s held

/-- A fact that is written and loaded again, as a fact and as a row. -/
theorem Histories.exists_reloaded {h : Histories} (grown : h.IsGrown) (plain : h.IsPlain) :
    ∃ h' : Histories, Histories.ofJson h.toRow.toJson = .ok h' ∧
      Row.ofJson h.toRow.toJson = .ok h'.toRow ∧ h'.Perm h ∧
      (h'.map (·.1)).Pairwise (· < ·) := by
  obtain ⟨h', read, same, inOrder⟩ := exists_entriesOf grown plain
  have distinct : (h'.map (·.1)).Nodup := (same.map _).symm.nodup grown.distinct
  have some_ : ∀ e ∈ h', e.2 ≠ [] := fun e member => grown.nonempty e (same.subset member)
  refine ⟨h', ?_, ?_, same, inOrder⟩
  · rw [ofJson_eq, read]
    exact congrArg _ (load_eq (h := []) distinct some_)
  · rw [Row.ofJson_eq, read]
    exact congrArg _ (Row.load_eq (r := []) distinct)

/-- **Facts survive the trip through a document.**  A fact in memory with plain scalars, written
member by member as its row is, is loaded as a fact with the same fields and histories and as an
equal row; the fields come in the order of their names, which no equality of facts or rows looks
at.  And every document that is a fact at all is loaded as such a fact. -/
theorem Histories.ofJson_toRow_toJson :
    (∀ h : Histories, h.IsGrown → h.IsPlain →
      ∃ (h' : Histories) (r : Row),
        Histories.ofJson h.toRow.toJson = .ok h' ∧ h'.Perm h ∧
        Row.ofJson h.toRow.toJson = .ok r ∧ r.Perm h.toRow ∧
        (h'.map (·.1)).Pairwise (· < ·)) ∧
    ∀ (j : Json) (h : Histories), Histories.ofJson j = .ok h →
      h.IsGrown ∧ h.IsPlain ∧
        ∃ h' : Histories, Histories.ofJson h.toRow.toJson = .ok h' ∧ h'.Perm h := by
  refine ⟨fun h grown plain => ?_, fun j h read => ?_⟩
  · obtain ⟨h', fact, row, same, inOrder⟩ := exists_reloaded grown plain
    exact ⟨h', _, fact, same, row, same.map _, inOrder⟩
  · obtain ⟨grown, plain⟩ := isGrown_ofJson read
    obtain ⟨h', fact, -, same, -⟩ := exists_reloaded grown plain
    exact ⟨grown, plain, h', fact, same⟩

/-- A fact with negative zero for its only scalar under one name, and an integer beside the same
number as a double under another; and a document with an array of one, an unsigned number and an
empty array. -/
theorem Histories.ofJson_toRow_toJson_collapsed :
    let h := ofRecords
      [("b", .integer 2), ("a", .float (.zero true)), ("b", .float (.ofInt 2)),
        ("b", .boolean true)]
    let j : Json := .object
      [("k", .array [.integer 1, .null]), ("n", .large 18446744073709551615 (by decide)),
        ("z", .array [])]
    (h.IsPlain ∧
      ∃ (h' : Histories) (r : Row),
        Histories.ofJson h.toRow.toJson = .ok h' ∧ h'.Perm h ∧
        Row.ofJson h.toRow.toJson = .ok r ∧ r.Perm h.toRow ∧
        (h'.map (·.1)).Pairwise (· < ·)) ∧
    ∃ g : Histories, Histories.ofJson j = .ok g ∧ g.IsGrown ∧ g.IsPlain ∧
      ∃ g' : Histories, Histories.ofJson g.toRow.toJson = .ok g' ∧ g'.Perm g := by
  intro h j
  have plain : h.IsPlain := by
    refine isPlain_ofRecords ?_
    simp only [List.forall_mem_cons]
    exact ⟨trivial, rfl, Binary64.isFinite_ofInt (by decide), trivial, List.forall_mem_nil _⟩
  exact ⟨⟨plain, ofJson_toRow_toJson.1 h ⟨_, rfl⟩ plain⟩, _, rfl,
    ofJson_toRow_toJson.2 j _ rfl⟩

end FactScan
