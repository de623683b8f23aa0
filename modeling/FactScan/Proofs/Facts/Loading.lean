/-
# FactScan.Proofs.Facts.Loading — facts and rows from one document

A document becomes a fact in memory by appending the scalars of its members one after the
other, and a row by entering the value of each member whole.  Since the names of an object's
members are distinct (`Json.IsMap`, which what is read from a text always is), the fact and
the row read the same under every field, and what is no fact is no row either:
`Row.ofJson_agrees`.
-/
import Mathlib.Data.String.Basic
import FactScan.Json.Reader
import FactScan.Fact.Document
import FactScan.Proofs.Facts.Reading

namespace FactScan

set_option autoImplicit false

/-! ## Objects -/

namespace Json

/-- An object has one member of a name. -/
def IsMap : Json → Prop
  | .object members => (members.map (·.1)).Nodup
  | _ => True

theorem mem_insertMember {name other : String} {value : Json} {members : List (String × Json)}
    (member : other ∈ (insertMember name value members).map (·.1)) :
    other = name ∨ other ∈ members.map (·.1) := by
  induction members with
  | nil => exact .inl (List.mem_singleton.1 member)
  | cons m rest ih =>
      obtain ⟨n, v⟩ := m
      unfold insertMember at member
      split at member
      · exact List.mem_cons.1 member
      · split at member
        · rename_i same
          subst same
          exact .inr member
        · rcases List.mem_cons.1 member with rfl | later
          · exact .inr List.mem_cons_self
          · exact (ih later).imp_right (List.mem_cons_of_mem n)

/-- Members stay in the order of their names. -/
theorem sorted_insertMember (name : String) (value : Json) {members : List (String × Json)}
    (sorted : (members.map (·.1)).Pairwise (· < ·)) :
    ((insertMember name value members).map (·.1)).Pairwise (· < ·) := by
  induction members with
  | nil => exact List.pairwise_singleton _ _
  | cons m rest ih =>
      obtain ⟨n, v⟩ := m
      obtain ⟨least, sorted'⟩ := List.pairwise_cons.1 sorted
      unfold insertMember
      split
      · rename_i before
        refine List.pairwise_cons.2 ⟨fun other member => ?_, sorted⟩
        rcases List.mem_cons.1 member with rfl | later
        · exact before
        · exact before.trans (least other later)
      · rename_i notBefore
        split
        · rename_i same
          subst same
          exact sorted
        · rename_i different
          refine List.pairwise_cons.2 ⟨fun other member => ?_, ih sorted'⟩
          rcases mem_insertMember member with rfl | later
          · exact lt_of_le_of_ne (not_lt.1 notBefore) (Ne.symm different)
          · exact least other later

theorem sorted_insertMembers (members : List (String × Json)) {ms : List (String × Json)}
    (sorted : (ms.map (·.1)).Pairwise (· < ·)) :
    ((members.foldl (fun ms m => insertMember m.1 m.2 ms) ms).map (·.1)).Pairwise (· < ·) := by
  induction members generalizing ms with
  | nil => exact sorted
  | cons m rest ih => exact ih (sorted_insertMember m.1 m.2 sorted)

theorem isMap_ofMembers (members : List (String × Json)) : (ofMembers members).IsMap :=
  (sorted_insertMembers members .nil).imp fun before => ne_of_lt before

theorem isMap_ofInt? {n : Int} {j : Json} (made : ofInt? n = some j) : j.IsMap := by
  unfold ofInt? at made
  split at made
  · cases made
    trivial
  · split at made
    · cases made
      trivial
    · cases made

theorem isMap_ofFloat (x : Binary64) : (ofFloat x).IsMap := by
  unfold ofFloat
  split <;> trivial

theorem isMap_json? {n : Reader.Numeral} {j : Json} (read : n.json? = some j) : j.IsMap := by
  unfold Reader.Numeral.json? at read
  dsimp only at read
  split at read
  · rename_i integral
    cases read
    split at integral
    · obtain ⟨m, -, made⟩ := Option.bind_eq_some_iff.1 integral
      exact isMap_ofInt? made
    · cases integral
  · obtain ⟨x, -, rfl⟩ := Option.map_eq_some_iff.1 read
    exact isMap_ofFloat x

theorem isMap_number? {strict : Bool} {cs rest : List Char} {j : Json}
    (read : Reader.number? strict cs = some (j, rest)) : j.IsMap := by
  obtain ⟨⟨n, rest⟩, -, made⟩ := Option.bind_eq_some_iff.1 read
  dsimp only at made
  split at made
  · obtain ⟨j, json, same⟩ := Option.bind_eq_some_iff.1 made
    cases same
    exact isMap_json? json
  · cases made
    trivial

theorem isMap_value? {strict : Bool} {room : Nat} {cs rest : List Char} {j : Json}
    (read : Reader.value? strict room cs = some (j, rest)) : j.IsMap := by
  unfold Reader.value? at read
  split at read
  iterate 4
    · obtain ⟨_, -, made⟩ := Option.map_eq_some_iff.1 read
      cases made
      trivial
  · split at read
    · cases read
    · obtain ⟨_, -, made⟩ := Option.map_eq_some_iff.1 read
      cases made
      trivial
  · split at read
    · cases read
    · obtain ⟨_, -, made⟩ := Option.map_eq_some_iff.1 read
      cases made
      exact isMap_ofMembers _
  · exact isMap_number? read

/-- **Documents that are read are maps.** -/
theorem isMap_ofText? {source : String} {j : Json} (read : ofText? source = some j) : j.IsMap := by
  obtain ⟨⟨j', rest⟩, value, ended⟩ := Option.bind_eq_some_iff.1 read
  dsimp only at ended
  split at ended
  · cases ended
    exact isMap_value? value
  · cases ended

end Json

/-! ## Histories -/

namespace Histories

theorem history_append (field : String) (a : Scalar) (h : Histories) (name : String) :
    (h.append field a).history name = h.history name ++ if name = field then [a] else [] := by
  unfold history append
  split
  · rename_i same
    subst same
    rw [Fields.get?_alter_self]
    rfl
  · rename_i other
    rw [Fields.get?_alter_ne other, List.append_nil]

theorem history_appendAll (field : String) (items : List Scalar) (h : Histories) (name : String) :
    (items.foldl (fun h s => append field s h) h).history name =
      h.history name ++ if name = field then items else [] := by
  induction items generalizing h with
  | nil => rw [ite_self, List.append_nil]; rfl
  | cons a rest ih =>
      rw [List.foldl_cons, ih, history_append, List.append_assoc]
      split <;> rfl

end Histories

/-! ## Members -/

/-- The scalars of an object's members. -/
def entriesOf (j : Json) : Except EvalError (List (String × List Scalar)) :=
  membersOf j >>= historiesOf

/-- Entries taken up by a fact in memory. -/
def Histories.load (entries : List (String × List Scalar)) (h : Histories) : Histories :=
  entries.foldl (fun h (name, items) => items.foldl (fun h s => Histories.append name s h) h) h

/-- Entries taken up by a row. -/
def Row.load (entries : List (String × List Scalar)) (r : Row) : Row :=
  entries.foldl (fun row (name, items) => row.alter name fun _ => .ofHistory items) r

theorem Histories.ofJson_eq (j : Json) :
    Histories.ofJson j = (entriesOf j).map fun entries => load entries [] := by
  unfold Histories.ofJson entriesOf
  cases membersOf j with
  | error e => rfl
  | ok members =>
      show (historiesOf members >>= _) = (historiesOf members).map _
      cases historiesOf members <;> rfl

theorem Row.ofJson_eq (j : Json) :
    Row.ofJson j = (entriesOf j).map fun entries => load entries [] := by
  unfold Row.ofJson entriesOf
  cases membersOf j with
  | error e => rfl
  | ok members =>
      show (historiesOf members >>= _) = (historiesOf members).map _
      cases historiesOf members <;> rfl

/-- The histories of members are those of each. -/
theorem historiesOf_cons_eq_ok {name : String} {j : Json} {rest : List (String × Json)}
    {entries : List (String × List Scalar)} (read : historiesOf ((name, j) :: rest) = .ok entries) :
    ∃ items others, historyOfJson j = .ok items ∧ historiesOf rest = .ok others ∧
      entries = (name, items) :: others := by
  unfold historiesOf at read
  cases items : historyOfJson j with
  | error e => rw [items] at read; cases read
  | ok items' =>
      cases others : historiesOf rest with
      | error e => rw [items, others] at read; cases read
      | ok others' =>
          rw [items, others] at read
          exact ⟨items', others', rfl, rfl, (Except.ok.inj read).symm⟩

theorem names_historiesOf {members : List (String × Json)} {entries : List (String × List Scalar)}
    (read : historiesOf members = .ok entries) :
    entries.map (·.1) = members.map (·.1) := by
  induction members generalizing entries with
  | nil => cases read; rfl
  | cons m rest ih =>
      obtain ⟨name, j⟩ := m
      obtain ⟨items, others, -, below, rfl⟩ := historiesOf_cons_eq_ok read
      exact congrArg (name :: ·) (ih below)

theorem Json.IsMap.nodup_entries {j : Json} (map : j.IsMap)
    {entries : List (String × List Scalar)} (read : entriesOf j = .ok entries) :
    (entries.map (·.1)).Nodup := by
  cases j with
  | object members => exact (names_historiesOf read).symm ▸ map
  | _ => cases read

/-- Entries under distinct names, taken up by a fact in memory that has none of them and by a
row that reads the same before. -/
theorem Histories.read_load {entries : List (String × List Scalar)}
    (distinct : (entries.map (·.1)).Nodup) (h : Histories) (r : Row)
    (new : ∀ name ∈ entries.map (·.1), h.history name = [])
    (same : ∀ name, h.read name = r.read name) (name : String) :
    (load entries h).read name = (Row.load entries r).read name := by
  induction entries generalizing h r with
  | nil => exact same name
  | cons e rest ih =>
      obtain ⟨n, items⟩ := e
      obtain ⟨fresh, distinct⟩ := List.nodup_cons.1 distinct
      refine ih distinct _ _ (fun name member => ?_) fun name => ?_
      · have other : name ≠ n := fun is => fresh (is ▸ member)
        rw [history_appendAll, if_neg other, List.append_nil]
        exact new name (List.mem_cons_of_mem n member)
      · unfold Histories.read Row.read
        rw [history_appendAll]
        split
        · -- The name is new, so its items appended are all there are, as in the row.
          rename_i is
          subst is
          rw [new name List.mem_cons_self, Fields.get?_alter_self]
          rfl
        · rename_i other
          rw [Fields.get?_alter_ne other, List.append_nil]
          exact same name

/-- **A document is a fact in memory if and only if it is a row**, with the same error if it is
neither, and then the two read the same. -/
theorem Row.ofJson_agrees {j : Json} (map : j.IsMap) :
    (∃ e, Histories.ofJson j = .error e ∧ Row.ofJson j = .error e) ∨
      ∃ h r, Histories.ofJson j = .ok h ∧ Row.ofJson j = .ok r ∧
        ∀ name, h.read name = r.read name := by
  rw [Histories.ofJson_eq, Row.ofJson_eq]
  cases read : entriesOf j with
  | error e => exact .inl ⟨e, rfl, rfl⟩
  | ok entries =>
      exact .inr ⟨_, _, rfl, rfl,
        Histories.read_load (map.nodup_entries read) [] [] (fun _ _ => rfl) fun _ => rfl⟩

end FactScan
