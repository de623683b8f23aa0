/-
# FactScan.Proofs.Facts.Reading — what can be read off a fact

All that an evaluation learns of a fact are the values of fields, whether fields hold
anything, and whether an append is accepted.  The second follows from the first
(`Fact.holds_eq`), the third is the same for all fields and scalars (`Fact.isReadOnly`), and
what is read after an append depends only on what was read before (`Fact.read_append`).  So
facts that agree on the values of some fields (`Fact.AgreeOn`) go on agreeing.
-/
import Mathlib.Data.List.Forall2
import FactScan.Fact.Basic

namespace FactScan

set_option autoImplicit false

theorem Value.isNil_eq_isEmpty_items_ofHistory (items : List Scalar) :
    (Value.ofHistory items).isNil = items.isEmpty := by
  match items with
  | [] | [_] | _ :: _ :: _ => rfl

/-- A fact that takes no appends. -/
def Fact.isReadOnly : Fact → Bool
  | .memory _ | .row _ => false
  | .empty | .overlay .. => true

/-- Rows with the same values under certain fields. -/
def Row.AgreeOn (S : String → Prop) (r r' : Row) : Prop :=
  ∀ name, S name → r.read name = r'.read name

theorem Row.AgreeOn.forall₂_refl (S : String → Prop) (rows : List Row) :
    List.Forall₂ (AgreeOn S) rows rows :=
  List.forall₂_same.2 fun _ _ _ _ => rfl

namespace Fact

variable {x x' y : Fact} {field name : String} {a : Scalar}

/-- A field holds something exactly if its value is not nothing. -/
theorem holds_eq (x : Fact) (name : String) : x.holds name = !(x.read name).isNil := by
  induction x with
  | memory h =>
      rw [holds, read, Histories.read, Value.isNil_eq_isEmpty_items_ofHistory]
  | row r => rfl
  | empty => rfl
  | overlay r outer ih =>
      rw [holds, read, ih]
      cases shown : r.holds name with
      | true =>
          rw [if_pos rfl, Bool.true_or, ← shown]
          rfl
      | false => rw [if_neg Bool.false_ne_true, Bool.false_or]

theorem append?_of_isReadOnly (readOnly : x.isReadOnly = true) (field : String) (a : Scalar) :
    x.append? field a = none := by
  cases x with
  | memory h => cases readOnly
  | row r => cases readOnly
  | empty => rfl
  | overlay r outer => rfl

theorem exists_append? (writable : x.isReadOnly = false) (field : String) (a : Scalar) :
    ∃ y, x.append? field a = some y ∧ y.isReadOnly = false := by
  cases x with
  | memory h => exact ⟨_, rfl, rfl⟩
  | row r => exact ⟨_, rfl, rfl⟩
  | empty => cases writable
  | overlay r outer => cases writable

/-- An append makes the value of its field anew from the scalars there were and the new one,
and leaves all others. -/
theorem read_append (appended : x.append? field a = some y) (name : String) :
    y.read name =
      if name = field then .ofHistory ((x.read field).items ++ [a]) else x.read name := by
  cases x with
  | memory h =>
      cases appended
      simp only [read, Histories.read, Histories.history, Histories.append]
      split
      · rename_i same
        subst same
        rw [Fields.get?_alter_self, Option.getD_some, Value.items_ofHistory]
      · rename_i other
        rw [Fields.get?_alter_ne other]
  | row r =>
      cases appended
      simp only [read, Row.read, Row.append]
      split
      · rename_i same
        subst same
        rw [Fields.get?_alter_self, Option.getD_some]
      · rename_i other
        rw [Fields.get?_alter_ne other]
  | empty => cases appended
  | overlay r outer => cases appended

/-- An append lengthens the history of its field by one and no other. -/
theorem items_read_append (appended : x.append? field a = some y) (name : String) :
    (y.read name).items = (x.read name).items ++ if name = field then [a] else [] := by
  rw [read_append appended]
  split
  · rename_i same
    rw [Value.items_ofHistory, same]
  · rw [List.append_nil]

/-! ## Agreement -/

/-- Facts with the same values under certain fields, both or neither of which take appends. -/
structure AgreeOn (S : String → Prop) (x x' : Fact) : Prop where
  read {name : String} : S name → x.read name = x'.read name
  readOnly : x.isReadOnly = x'.isReadOnly

namespace AgreeOn

variable {S : String → Prop}

theorem refl (x : Fact) : AgreeOn S x x := ⟨fun _ => rfl, rfl⟩

theorem holds (agree : AgreeOn S x x') (named : S name) : x.holds name = x'.holds name := by
  rw [holds_eq, holds_eq, agree.read named]

/-- Rows with the same values laid over facts that agree. -/
theorem overlay {r r' : Row} (rows : r.AgreeOn S r')
    (agree : AgreeOn S x x') : AgreeOn S (.overlay r x) (.overlay r' x') where
  read {name} named := by
    have shown : r.holds name = r'.holds name := by rw [Row.holds, Row.holds, rows name named]
    rw [Fact.read, Fact.read, shown, rows name named, agree.read named]
  readOnly := rfl

/-- An append that one of them takes the other takes, too, and then they agree again. -/
theorem append (agree : AgreeOn S x x') (named : S field)
    (appended : x.append? field a = some y) :
    ∃ y', x'.append? field a = some y' ∧ AgreeOn S y y' := by
  cases readOnly : x.isReadOnly with
  | true =>
      rw [append?_of_isReadOnly readOnly] at appended
      cases appended
  | false =>
      obtain ⟨y₀, appended₀, writable⟩ := exists_append? readOnly field a
      cases appended₀.symm.trans appended
      obtain ⟨y', appended', writable'⟩ :=
        exists_append? (agree.readOnly.symm.trans readOnly) field a
      refine ⟨y', appended', fun {name} named' => ?_, writable.trans writable'.symm⟩
      rw [read_append appended, read_append appended', agree.read named, agree.read named']

theorem append_none (agree : AgreeOn S x x') (refused : x.append? field a = none) :
    x'.append? field a = none := by
  cases readOnly : x.isReadOnly with
  | true => exact append?_of_isReadOnly (agree.readOnly.symm.trans readOnly) field a
  | false =>
      obtain ⟨y, appended, -⟩ := exists_append? readOnly field a
      rw [refused] at appended
      cases appended

end AgreeOn

end Fact

end FactScan
