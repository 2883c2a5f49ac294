/-
Module: Syscat.Proofs.Row.Relation
Purpose: Rows with the same columns whose values are related column by column. A relation between the
  entries that two rows are read from becomes one between the rows, and so one between what each column
  holds.
Main exports: Row.Related, RowSource.Related, Row.Related.get, RowSource.Related.row
-/
import Mathlib.Data.List.Forall2
import Syscat.Proofs.Logged
import Syscat.Row

namespace Syscat

/-- How the value of a column in one row is related to its value in another. The column is given by its
name in upper case. -/
abbrev ColumnRelation := String → Value → Value → Prop

namespace Row

section
variable {R : ColumnRelation}

/-- Two cells belong to the same column and have related values. -/
def CellsRelated (R : ColumnRelation) (cell cell' : String × Value) : Prop :=
  cell.1 = cell'.1 ∧ R cell.1 cell.2 cell'.2

/-- Two rows have the same columns in the same order, with related values. -/
def Related (R : ColumnRelation) (row row' : Row) : Prop :=
  List.Forall₂ (CellsRelated R) row.cells row'.cells

/-- A column is absent from two related rows, or its values are related. -/
theorem Related.get {row row' : Row} (related : row.Related R row') (column : String) :
    (row.get column = .null ∧ row'.get column = .null) ∨
      R (uppercased column) (row.get column) (row'.get column) := by
  obtain ⟨cells⟩ := row
  obtain ⟨cells'⟩ := row'
  change List.Forall₂ (CellsRelated R) cells cells' at related
  simp only [Row.get]
  induction related with
  | nil => exact .inl ⟨rfl, rfl⟩
  | @cons cell cell' rest rest' first others ih =>
      obtain ⟨c, v⟩ := cell
      obtain ⟨c', v'⟩ := cell'
      obtain ⟨rfl, values⟩ := first
      by_cases here : c = uppercased column
      · simp only [List.find?_cons, beq_iff_eq.mpr here]
        exact .inr (here ▸ values)
      · simp only [List.find?_cons, beq_eq_false_iff_ne.mpr here]
        exact ih

/-- Setting a column to related values keeps rows related. -/
theorem forall₂_put {column : String} {v v' : Value} (values : R column v v')
    {cells cells' : List (String × Value)} (related : List.Forall₂ (CellsRelated R) cells cells') :
    List.Forall₂ (CellsRelated R) (put column v cells) (put column v' cells') := by
  induction related with
  | nil => exact .cons ⟨rfl, values⟩ .nil
  | @cons cell cell' rest rest' first others ih =>
      obtain ⟨c, w⟩ := cell
      obtain ⟨c', w'⟩ := cell'
      obtain ⟨rfl, same⟩ := first
      by_cases here : c = column
      · subst here
        simp only [put, if_true]
        exact .cons ⟨rfl, values⟩ others
      · simp only [put, here, if_false]
        exact .cons ⟨rfl, same⟩ ih

/-- Named values that are related under their names in upper case give related cells. -/
theorem forall₂_collect {cells cells' : List (String × Value)}
    (related : List.Forall₂ (CellsRelated fun name => R (uppercased name)) cells cells') :
    List.Forall₂ (CellsRelated R) (collect cells) (collect cells') := by
  refine List.rel_foldl (fun row row' soFar cell cell' first => ?_) .nil related
  obtain ⟨same, values⟩ := first
  rw [← same]
  exact forall₂_put values soFar

end

end Row

section
variable {R : ColumnRelation}

/-- Two entries have the same key, and if the key has a text, their values are related under it. -/
def EntriesRelated (R : ColumnRelation) (entry entry' : Value × Value) : Prop :=
  entry.1 = entry'.1 ∧ ∀ name, entry.1.text? = some name → R (uppercased name) entry.2 entry'.2

theorem Row.agree_named {entries entries' : List (Value × Value)}
    (related : List.Forall₂ (EntriesRelated R) entries entries') :
    Agree (List.Forall₂ (CellsRelated fun name => R (uppercased name))) (named entries)
      (named entries') := by
  induction related with
  | nil => exact .ok .nil
  | @cons entry entry' rest rest' first others ih =>
      obtain ⟨k, v⟩ := entry
      obtain ⟨k', v'⟩ := entry'
      obtain ⟨rfl, values⟩ := first
      unfold named
      cases text : Value.text? k with
      | none => exact .error _
      | some name => exact ih.bind fun _ _ cells => .ok (.cons ⟨rfl, values name text⟩ cells)

/-- Rows that are read from related entries are related, or none of them can be read. -/
theorem Row.agree_ofEntries {entries entries' : List (Value × Value)}
    (related : List.Forall₂ (EntriesRelated R) entries entries') :
    Agree (Row.Related R) (ofEntries entries) (ofEntries entries') :=
  (Row.agree_named related).bind fun _ _ cells => .ok (Row.forall₂_collect cells)

/-- Two sources of rows are carried in the same way and have related entries, or they are the same
value that is no row. -/
inductive RowSource.Related (R : ColumnRelation) : RowSource → RowSource → Prop where
  | carried (carrier : Carrier) {entries entries' : List (Value × Value)}
      (entriesRelated : List.Forall₂ (EntriesRelated R) entries entries') :
      Related R (.carried carrier entries) (.carried carrier entries')
  | read {row row' : Row} (rowsRelated : row.Related R row') : Related R (.read row) (.read row')
  | table {entries entries' : List (Value × Value)}
      (entriesRelated : List.Forall₂ (EntriesRelated R) entries entries') :
      Related R (.value (.table entries)) (.value (.table entries'))
  | value {v : Value} (noRow : ∀ entries, v ≠ .table entries) : Related R (.value v) (.value v)

/-- Rows that are read from related sources are related, or they cannot be read for the same reason. -/
theorem RowSource.Related.row {source source' : RowSource} (related : source.Related R source') :
    Agree (Row.Related R) source.row source'.row := by
  cases related with
  | carried carrier entriesRelated => exact Row.agree_ofEntries entriesRelated
  | read rowsRelated => exact .ok rowsRelated
  | table entriesRelated => exact Row.agree_ofEntries entriesRelated
  | @value v noRow =>
      cases v with
      | table entries => exact absurd rfl (noRow entries)
      | _ => exact .error _

end

end Syscat
