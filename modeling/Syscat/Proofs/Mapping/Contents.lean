/-
Module: Syscat.Proofs.Mapping.Contents
Purpose: A mapping depends on the contents of the columns that it reads and on nothing else: not on
  what carries them, nor on the order of the columns, the letter case of their names, explicit nulls
  or further columns.
Main exports: parameterColumns, mapParameter_sameRead, mapRoutine_contents
-/
import Syscat.Proofs.Mapping.Gating
import Syscat.Proofs.Row.Assignment

namespace Syscat

/-! ### Parameters -/

/-- The columns of the view of parameters that a mapping reads. The others tell whose parameters are
wanted. -/
def parameterColumns : List String :=
  parameterView.columns.filter fun column => !(["ROUTINESCHEMA", "SPECIFICNAME"].contains column)

/-- Two rows that hold the same in the columns that are read are mapped to parameters alike, down to the
notices. -/
theorem mapParameter_sameRead {source source' : RowSource} (codes : UnknownCodes)
    (rows : Agree (Row.SameIn parameterColumns) (readRow source) (readRow source')) :
    mapParameter source' codes = mapParameter source codes := by
  unfold mapParameter
  generalize readRow source = read at rows ⊢
  generalize readRow source' = read' at rows ⊢
  cases rows with
  | error failure => rfl
  | @ok row row' same =>
      have ordinal := same "ORDINAL" (by decide)
      have name := same "PARMNAME" (by decide)
      have mode := same "ROWTYPE" (by decide)
      have typeSchema := same "TYPESCHEMA" (by decide)
      have typeName := same "TYPENAME" (by decide)
      have length := same "LENGTH" (by decide)
      have scale := same "SCALE" (by decide)
      have codepage := same "CODEPAGE" (by decide)
      have isLocator := same "LOCATOR" (by decide)
      have defaultValue := same "DEFAULT" (by decide)
      have remarks := same "REMARKS" (by decide)
      simp only [Logged.ofExcept_ok_bind, Row.integer?_congr ordinal, Row.text?_congr name,
        Row.code?_congr _ _ _ mode, Row.trimmedText?_congr typeSchema, Row.trimmedText?_congr typeName,
        Row.integer?_congr length, Row.integer?_congr scale, Row.integer?_congr codepage,
        Row.flag?_congr _ isLocator, Row.text?_congr defaultValue, Row.text?_congr remarks]

/-! ### Contents -/

/-- Rows that carry the same values in the columns that a mapping reads are mapped alike: to the same
descriptor or the same failure, with the same notices. It does not matter which carriers they come in,
in which order their columns stand, in which case the ASCII letters of the names are written, whether
a column is absent or null, and which other columns there are. Where the names in a row are the same
in upper case, the last one counts, so the row is mapped as the one without the others is. -/
theorem mapRoutine_contents :
    (∀ (a a' : Assignment) (source source' : RowSource), a.CarriedBy source → a'.CarriedBy source' →
      (∀ owner capabilities options,
        Relation.EqvGen (Assignment.Altered (readColumns capabilities)) a a' →
          mapRoutine source' owner capabilities options = mapRoutine source owner capabilities options) ∧
      (∀ codes, Relation.EqvGen (Assignment.Altered parameterColumns) a a' →
        mapParameter source' codes = mapParameter source codes)) ∧
    (∀ (carrier : Carrier) (cells : List (String × Value)) (source : RowSource),
      (Assignment.ofLast cells).CarriedBy source →
        (∀ owner capabilities options,
          mapRoutine (.carried carrier (entriesOf cells)) owner capabilities options =
            mapRoutine source owner capabilities options) ∧
        (∀ codes, mapParameter (.carried carrier (entriesOf cells)) codes =
          mapParameter source codes)) := by
  constructor
  · intro a a' source source' carried carried'
    constructor
    · intro owner capabilities options altered
      exact mapRoutine_sameRead options (Assignment.agree_readRow carried carried' altered)
    · intro codes altered
      exact mapParameter_sameRead codes (Assignment.agree_readRow carried carried' altered)
  · intro carrier cells source carried
    constructor
    · intro owner capabilities options
      exact mapRoutine_sameRead options (agree_readRow_ofLast _ carrier carried)
    · intro codes
      exact mapParameter_sameRead codes (agree_readRow_ofLast _ carrier carried)

/-- The name of a routine and nothing else. -/
def bareAssignment : Assignment where
  cells := [("ROUTINENAME", .text "PAY")]
  distinct := by decide +kernel

/-- The name in another spelling. -/
def respelledAssignment : Assignment where
  cells := [("routineName", .text "PAY")]
  distinct := by decide +kernel

/-- The same with a column that no mapping reads. -/
def extendedAssignment : Assignment where
  cells := [("ROUTINESCHEMA", .text "APP"), ("routineName", .text "PAY")]
  distinct := by decide +kernel

/-- The same in another order. -/
def reorderedAssignment : Assignment where
  cells := [("routineName", .text "PAY"), ("ROUTINESCHEMA", .text "APP")]
  distinct := by decide +kernel

/-- The same behind a null. -/
def nulledAssignment : Assignment where
  cells := [("Remarks", .null), ("routineName", .text "PAY"), ("ROUTINESCHEMA", .text "APP")]
  distinct := by decide +kernel

theorem altered_nulledAssignment :
    Relation.EqvGen (Assignment.Altered (readColumns .old)) bareAssignment nulledAssignment := by
  have respelled : Assignment.Altered (readColumns .old) bareAssignment respelledAssignment :=
    .respelled (.cons ⟨by decide, rfl⟩ .nil)
  have extended : Assignment.Altered (readColumns .old) respelledAssignment extendedAssignment :=
    .extended "ROUTINESCHEMA" (.text "APP") (by decide +kernel) rfl
  have reordered : Assignment.Altered (readColumns .old) extendedAssignment reorderedAssignment :=
    .reordered (.swap _ _ _)
  have nulled : Assignment.Altered (readColumns .old) reorderedAssignment nulledAssignment :=
    .nulled "Remarks" rfl
  exact .trans _ _ _ (.rel _ _ respelled)
    (.trans _ _ _ (.rel _ _ extended) (.trans _ _ _ (.rel _ _ reordered) (.rel _ _ nulled)))

/-- The mapping of a result row comes to the same as that of a dictionary with the name alone. -/
theorem mapRoutine_contents_nulledAssignment :
    bareAssignment.CarriedBy (.carried .dictionary (entriesOf bareAssignment.cells)) ∧
      nulledAssignment.CarriedBy (.carried .resultRow (entriesOf nulledAssignment.cells)) ∧
      Relation.EqvGen (Assignment.Altered (readColumns .old)) bareAssignment nulledAssignment ∧
      mapRoutine (.carried .resultRow (entriesOf nulledAssignment.cells)) .app .old .standard =
        mapRoutine (.carried .dictionary (entriesOf bareAssignment.cells)) .app .old .standard := by
  have carried : bareAssignment.CarriedBy (.carried .dictionary (entriesOf bareAssignment.cells)) :=
    .carried .dictionary
  have carried' : nulledAssignment.CarriedBy (.carried .resultRow (entriesOf nulledAssignment.cells)) :=
    .carried .resultRow
  refine ⟨carried, carried', altered_nulledAssignment, ?_⟩
  exact (mapRoutine_contents.1 _ _ _ _ carried carried').1 .app .old .standard altered_nulledAssignment

end Syscat
