/-
Module: Syscat.Proofs.Row.Assignment
Purpose: Values by column names as the contents of a row, however they are carried. The order of the
  columns, the letter case of their names, nulls and columns that nobody reads can change without a
  change of what is read, and of columns whose names are the same in upper case the last one counts.
Main exports: Assignment, Assignment.CarriedBy, Assignment.Altered, Assignment.agree_readRow,
  lastOfEach, Assignment.ofLast, agree_readRow_ofLast
-/
import Mathlib.Data.List.Forall2
import Mathlib.Logic.Relation
import Syscat.Proofs.Row.Lookup

namespace Syscat

/-! ### Letter case -/

/-- Upper-casing does not depend on the case of an ASCII letter. -/
theorem upperChar_toUpper (c : Char) : upperChar c.toUpper = upperChar c := by
  by_cases ascii : c.toNat < 128
  · have each : ∀ n < 128, upperChar (Char.ofNat n).toUpper = upperChar (Char.ofNat n) := by decide
    rw [← Char.ofNat_toNat c]
    exact each c.toNat ascii
  · have kept : c.toUpper = c := dif_neg fun letter => ascii (Nat.lt_of_le_of_lt letter.2 (by decide))
    rw [kept]

/-- Texts that differ in the case of ASCII letters only are the same in upper case. -/
theorem uppercased_of_map_toUpper {s s' : String}
    (same : s.toList.map Char.toUpper = s'.toList.map Char.toUpper) : uppercased s = uppercased s' := by
  have through : ∀ t : List Char, upper (t.map Char.toUpper) = upper t := by
    intro t
    rw [upper, List.flatMap_map]
    exact congrArg t.flatMap (funext upperChar_toUpper)
  rw [uppercased, uppercased, ← through s.toList, ← through s'.toList, same]

/-! ### Values by column names -/

/-- The name of a column in upper case. -/
def columnKey (cell : String × Value) : String :=
  uppercased cell.1

/-- Whether a cell belongs to a column. -/
def belongsTo (column : String) (cell : String × Value) : Bool :=
  columnKey cell == uppercased column

/-- Named values as the entries of a row. -/
def entriesOf (cells : List (String × Value)) : List (Value × Value) :=
  cells.map fun cell => (.text cell.1, cell.2)

/-- Entries whose keys are texts make up a row. -/
theorem Row.ofEntries_entriesOf (cells : List (String × Value)) :
    ofEntries (entriesOf cells) = .ok ⟨collect cells⟩ := by
  have named : named (entriesOf cells) = .ok cells := by
    induction cells with
    | nil => rfl
    | cons cell rest ih =>
        rw [entriesOf, List.map_cons]
        change (do return (cell.1, cell.2) :: (← Row.named (entriesOf rest)) : Except Failure _) = _
        rw [ih]
        rfl
  rw [ofEntries, named]
  rfl

/-- Values by column names that are distinct in upper case. -/
structure Assignment where
  cells : List (String × Value)
  distinct : (cells.map columnKey).Nodup

/-- Among names that are distinct, a column is the only one with its name. -/
theorem find?_eq_some_iff_of_distinct {cells : List (String × Value)}
    (distinct : (cells.map columnKey).Nodup) {column : String} {cell : String × Value} :
    cells.find? (belongsTo column) = some cell ↔ cell ∈ cells ∧
      columnKey cell = uppercased column := by
  constructor
  · intro found
    have belongs : belongsTo column cell = true := List.find?_some found
    exact ⟨List.mem_of_find?_eq_some found, eq_of_beq belongs⟩
  · rintro ⟨inside, named⟩
    obtain ⟨front, back, rfl⟩ := List.append_of_mem inside
    have apart : ∀ c ∈ front, columnKey c ≠ columnKey cell := by
      intro c earlier
      rw [List.map_append, List.nodup_append] at distinct
      exact distinct.2.2 _ (List.mem_map_of_mem earlier) _ (List.mem_map_of_mem List.mem_cons_self)
    rw [List.find?_append, List.find?_eq_none.mpr, Option.none_or, List.find?_cons_of_pos]
    · exact beq_iff_eq.mpr named
    · intro c earlier here
      exact apart c earlier ((eq_of_beq here).trans named.symm)

/-- Two cells have the same value, and names that differ in the case of ASCII letters only. -/
def Respelled (cell cell' : String × Value) : Prop :=
  cell.1.toList.map Char.toUpper = cell'.1.toList.map Char.toUpper ∧ cell.2 = cell'.2

theorem find?_respelled {cells cells' : List (String × Value)}
    (same : List.Forall₂ Respelled cells cells') (column : String) :
    (cells'.find? (belongsTo column)).map (·.2) = (cells.find? (belongsTo column)).map (·.2) := by
  induction same with
  | nil => rfl
  | @cons cell cell' _ _ first _ ih =>
      obtain ⟨names, values⟩ := first
      have sameKey : belongsTo column cell' = belongsTo column cell := by
        rw [belongsTo, belongsTo, columnKey, columnKey, uppercased_of_map_toUpper names]
      rw [List.find?_cons, List.find?_cons, sameKey]
      cases belongsTo column cell with
      | true => exact congrArg some values.symm
      | false => exact ih

namespace Assignment

variable {a a' : Assignment} {columns : List String} {column : String}

/-- The value of a column, null if there is none. -/
def value (a : Assignment) (column : String) : Value :=
  ((a.cells.find? (belongsTo column)).map (·.2)).getD .null

/-- What carries an assignment: its entries in any carrier, a table with them, or the row that was
read from them beforehand. -/
inductive CarriedBy (a : Assignment) : RowSource → Prop where
  | carried (carrier : Carrier) : CarriedBy a (.carried carrier (entriesOf a.cells))
  | table : CarriedBy a (.value (.table (entriesOf a.cells)))
  | read {row : Row} (built : Row.ofEntries (entriesOf a.cells) = .ok row) : CarriedBy a (.read row)

/-- A change that leaves alone what some columns hold. -/
inductive Altered (columns : List String) (a a' : Assignment) : Prop where
  /-- The columns stand in another order. -/
  | reordered (same : a.cells.Perm a'.cells)
  /-- The names are written with ASCII letters of another case. -/
  | respelled (same : List.Forall₂ Respelled a.cells a'.cells)
  /-- A column that was absent is null. -/
  | nulled (name : String) (added : a'.cells = (name, .null) :: a.cells)
  /-- A column is added that is none of the given ones. -/
  | extended (name : String) (v : Value) (unread : Row.listedUpper columns (uppercased name) = false)
      (added : a'.cells = (name, v) :: a.cells)

/-! ### Changes of no account -/

theorem value_reordered (same : a.cells.Perm a'.cells) (column : String) :
    a'.value column = a.value column := by
  have found : a'.cells.find? (belongsTo column) = a.cells.find? (belongsTo column) := by
    ext cell
    rw [find?_eq_some_iff_of_distinct a'.distinct, find?_eq_some_iff_of_distinct a.distinct, same.mem_iff]
  rw [value, value, found]

theorem value_respelled (same : List.Forall₂ Respelled a.cells a'.cells) (column : String) :
    a'.value column = a.value column :=
  congrArg (fun found => found.getD .null) (find?_respelled same column)

/-- A column that is put in front counts for its own name and no other. -/
theorem value_added {name : String} {v : Value} (added : a'.cells = (name, v) :: a.cells)
    (column : String) :
    a'.value column = if uppercased name = uppercased column then v else a.value column := by
  rw [value, value, added, List.find?_cons, belongsTo, columnKey]
  by_cases here : uppercased name = uppercased column
  · rw [if_pos here, beq_iff_eq.mpr here]
    rfl
  · rw [if_neg here, beq_eq_false_iff_ne.mpr here]

/-- A column with another name than all others was absent. -/
theorem value_of_added {name : String} {v : Value} (added : a'.cells = (name, v) :: a.cells)
    {column : String} (here : uppercased name = uppercased column) : a.value column = .null := by
  have absent : a.cells.find? (belongsTo column) = none := by
    rw [List.find?_eq_none]
    intro cell inside belongs
    have distinct := a'.distinct
    rw [added, List.map_cons, List.nodup_cons] at distinct
    have named : columnKey cell = columnKey (name, v) := (eq_of_beq belongs).trans here.symm
    exact distinct.1 (named ▸ List.mem_map_of_mem inside)
  rw [value, absent]
  rfl

/-- Such a change does not show in any of the given columns. -/
theorem Altered.value_eq (altered : Altered columns a a') (inside : column ∈ columns) :
    a'.value column = a.value column := by
  cases altered with
  | reordered same => exact value_reordered same column
  | respelled same => exact value_respelled same column
  | nulled name added =>
      rw [value_added added]
      split
      case isTrue here => rw [value_of_added added here]
      case isFalse => rfl
  | extended name v unread added =>
      rw [value_added added, if_neg]
      intro here
      rw [here, Row.listedUpper_of_mem inside] at unread
      cases unread

/-- Neither do such changes one after the other, made or undone. -/
theorem value_eq_of_altered (altered : Relation.EqvGen (Altered columns) a a') :
    ∀ column ∈ columns, a'.value column = a.value column := by
  induction altered with
  | rel a a' step => exact fun column inside => step.value_eq inside
  | refl a => exact fun column _ => rfl
  | symm a a' _ ih => exact fun column inside => (ih column inside).symm
  | trans a b c _ _ ih ih' => exact fun column inside => (ih' column inside).trans (ih column inside)

/-! ### Reading -/

theorem get_collect (a : Assignment) (column : String) :
    (Row.mk (Row.collect a.cells)).get column = a.value column := by
  rw [Row.get_collect]
  -- the search goes from the end, but among distinct names it finds the same
  have turned : a.cells.reverse.Perm a.cells := List.reverse_perm a.cells
  let back : Assignment := ⟨a.cells.reverse, (turned.map columnKey).nodup_iff.mpr a.distinct⟩
  exact (@value_reordered back a turned column).symm

/-- What carries an assignment is read into a row that holds its values. -/
theorem CarriedBy.readRow {source : RowSource} (carried : a.CarriedBy source) :
    ∃ row, Syscat.readRow source = .ok row ∧ ∀ column, row.get column = a.value column := by
  refine ⟨⟨Row.collect a.cells⟩, ?_, a.get_collect⟩
  cases carried with
  | carried carrier =>
      rw [readRow_of_supported rfl]
      exact Row.ofEntries_entriesOf a.cells
  | table =>
      rw [readRow_of_supported rfl]
      exact Row.ofEntries_entriesOf a.cells
  | read built =>
      rw [Row.ofEntries_entriesOf] at built
      cases built
      rfl

/-- Carriers of assignments that differ by such changes are read into rows that hold the same in the given
columns. -/
theorem agree_readRow {source source' : RowSource} (carried : a.CarriedBy source)
    (carried' : a'.CarriedBy source') (altered : Relation.EqvGen (Altered columns) a a') :
    Agree (Row.SameIn columns) (readRow source) (readRow source') := by
  obtain ⟨row, read, holds⟩ := carried.readRow
  obtain ⟨row', read', holds'⟩ := carried'.readRow
  rw [read, read']
  refine .ok fun column inside => ?_
  rw [holds, holds']
  exact value_eq_of_altered altered column inside

end Assignment

/-! ### Names that are the same in upper case -/

/-- The last value for each name in upper case. -/
def lastOfEach : List (String × Value) → List (String × Value)
  | [] => []
  | cell :: rest =>
      if rest.any (belongsTo cell.1) then lastOfEach rest else cell :: lastOfEach rest

theorem mem_lastOfEach {cells : List (String × Value)} {cell : String × Value}
    (inside : cell ∈ lastOfEach cells) : cell ∈ cells := by
  induction cells with
  | nil => cases inside
  | cons first rest ih =>
      rw [lastOfEach] at inside
      split at inside
      case isTrue => exact List.mem_cons_of_mem first (ih inside)
      case isFalse =>
        rcases List.mem_cons.mp inside with rfl | later
        · exact List.mem_cons_self
        · exact List.mem_cons_of_mem first (ih later)

/-- The last values are an assignment. -/
def Assignment.ofLast (cells : List (String × Value)) : Assignment where
  cells := lastOfEach cells
  distinct := by
    induction cells with
    | nil => exact List.nodup_nil
    | cons cell rest ih =>
        rw [lastOfEach]
        split
        case isTrue => exact ih
        case isFalse last =>
          rw [List.map_cons, List.nodup_cons]
          refine ⟨fun again => ?_, ih⟩
          obtain ⟨other, later, same⟩ := List.mem_map.mp again
          exact last (List.any_eq_true.mpr ⟨other, mem_lastOfEach later, beq_iff_eq.mpr same⟩)

/-- Only the last value for a name counts. -/
theorem find?_reverse_lastOfEach (cells : List (String × Value)) (column : String) :
    (lastOfEach cells).reverse.find? (belongsTo column) = cells.reverse.find? (belongsTo column) := by
  induction cells with
  | nil => rfl
  | cons cell rest ih =>
      rw [lastOfEach, List.reverse_cons, List.find?_append, ← ih]
      split
      case isFalse => rw [List.reverse_cons, List.find?_append]
      case isTrue replaced =>
        by_cases here : belongsTo column cell = true
        · obtain ⟨other, later, same⟩ := List.any_eq_true.mp replaced
          have found : (rest.reverse.find? (belongsTo column)).isSome := by
            rw [List.find?_isSome]
            exact ⟨other, List.mem_reverse.mpr later,
              beq_iff_eq.mpr ((eq_of_beq same).trans (eq_of_beq here))⟩
          rw [ih, Option.or_of_isSome found]
        · rw [List.find?_cons_of_neg here, List.find?_nil, Option.or_none]

/-- A row whose names collide is read like any carrier of the last values. -/
theorem agree_readRow_ofLast (columns : List String) (carrier : Carrier) {cells : List (String × Value)}
    {source : RowSource} (carried : (Assignment.ofLast cells).CarriedBy source) :
    Agree (Row.SameIn columns) (readRow source) (readRow (.carried carrier (entriesOf cells))) := by
  obtain ⟨row, read, holds⟩ := carried.readRow
  rw [read, readRow_of_supported rfl, RowSource.row, Row.ofEntries_entriesOf]
  refine .ok fun column _ => ?_
  rw [holds, ← Assignment.get_collect, Row.get_collect, Row.get_collect]
  exact congrArg (fun found => (Option.map Prod.snd found).getD .null)
    (find?_reverse_lastOfEach cells column).symm

end Syscat
