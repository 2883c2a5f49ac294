/-
Module: Syscat.Proofs.Document.Order
Purpose: Values in which the tables among the entries of every table stand behind its other entries. They
  equal the values themselves, since the order of entries does not count.
Main exports: Value.tablesLast, Document.equal_tablesLast
-/
import Syscat.Proofs.Document.Tree

namespace Syscat

namespace Value

/-- Whether a value is a table. -/
def isTable : Value → Bool
  | table _ => true
  | _ => false

mutual

/-- The value with the tables behind the other entries of every table, in unchanged order otherwise. -/
def tablesLast : Value → Value
  | list items => list (itemsTablesLast items)
  | tuple items => tuple (itemsTablesLast items)
  | table entries => table (entriesWhere false entries ++ entriesWhere true entries)
  | v => v

/-- The items of a sequence, each with its tables behind its other entries. -/
def itemsTablesLast : List Value → List Value
  | [] => []
  | v :: rest => v.tablesLast :: itemsTablesLast rest

/-- The entries of a table that are tables, or those that are not. -/
def entriesWhere (tables : Bool) : List (Value × Value) → List (Value × Value)
  | [] => []
  | (k, v) :: rest =>
      if v.isTable = tables then (k, v.tablesLast) :: entriesWhere tables rest else
        entriesWhere tables rest

end

/-- An entry is among the tables or among the others, and all of them come from the table. -/
theorem mem_entriesWhere {tables : Bool} {entries : List (Value × Value)} {e : Value × Value}
    (inside : e ∈ entriesWhere tables entries) : ∃ v, (e.1, v) ∈ entries ∧ e.2 = v.tablesLast := by
  induction entries with
  | nil => cases inside
  | cons first rest ih =>
      obtain ⟨k, v⟩ := first
      rw [entriesWhere] at inside
      split at inside
      case isTrue =>
        rcases List.mem_cons.mp inside with rfl | later
        · exact ⟨v, List.mem_cons_self, rfl⟩
        · obtain ⟨w, listed, same⟩ := ih later
          exact ⟨w, List.mem_cons_of_mem _ listed, same⟩
      case isFalse =>
        obtain ⟨w, listed, same⟩ := ih inside
        exact ⟨w, List.mem_cons_of_mem _ listed, same⟩

theorem length_entriesWhere (entries : List (Value × Value)) :
    (entriesWhere false entries).length + (entriesWhere true entries).length = entries.length := by
  induction entries with
  | nil => rfl
  | cons e rest ih =>
      obtain ⟨k, v⟩ := e
      cases kind : v.isTable <;> simp [entriesWhere, kind] <;> omega

theorem containsEntries_iff (entries : List (Value × Value)) (some : List (Value × Value)) :
    containsEntries entries some = true ↔
      ∀ e ∈ some, ∃ e' ∈ entries, equal e.1 e'.1 = true ∧ equal e.2 e'.2 = true := by
  induction some with
  | nil => simp [containsEntries]
  | cons e rest ih => simp [containsEntries, ih]

end Value

namespace Document

open Value

mutual

/-- The order of entries does not count, at any depth. -/
theorem equal_tablesLast : (d : Document) → equal d.toValue.tablesLast d.toValue = true
  | null => rfl
  | flag b => by cases b <;> decide +kernel
  | integer n => by simp [toValue, tablesLast, equal, number?]
  | text s => by simp [toValue, tablesLast, equal]
  | list items => by
      rw [toValue, tablesLast, equal]
      exact equalItems_tablesLast items
  | record fields => by
      rw [toValue, tablesLast, equal, List.length_append, length_entriesWhere, Bool.and_eq_true,
        containsEntries_iff]
      refine ⟨by simp, fun e inside => ?_⟩
      have own : ∃ v, (e.1, v) ∈ fieldEntries fields ∧ e.2 = v.tablesLast := by
        rcases List.mem_append.mp inside with simple | table
        · exact mem_entriesWhere simple
        · exact mem_entriesWhere table
      obtain ⟨v, listed, same⟩ := own
      have equal := equalEntries_tablesLast fields (e.1, v) listed
      exact ⟨(e.1, v), listed, equal.1, same ▸ equal.2⟩

theorem equalItems_tablesLast : (items : List Document) →
    equalItems (itemsTablesLast (itemValues items)) (itemValues items) = true
  | [] => rfl
  | d :: rest => by
      rw [itemValues, itemsTablesLast, equalItems, equal_tablesLast d, equalItems_tablesLast rest]
      rfl

theorem equalEntries_tablesLast : (fields : List (String × Document)) →
    ∀ e ∈ fieldEntries fields, equal e.1 e.1 = true ∧ equal e.2.tablesLast e.2 = true
  | [], _, inside => nomatch inside
  | (name, d) :: rest, e, inside => by
      rcases List.mem_cons.mp inside with rfl | later
      · exact ⟨by simp [equal], equal_tablesLast d⟩
      · exact equalEntries_tablesLast rest e later

end

end Document

end Syscat
