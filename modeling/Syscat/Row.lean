/-
Module: Syscat.Row
Purpose: One row of a catalog view. Columns are found by name without regard to case, and an absent
  column reads like one that holds null.
Main exports: Row, Row.ofEntries, Row.get, Row.contains, Row.text?, Row.trimmedText?, Row.integer?,
  Row.flag?, Row.timestamp?
-/
import Syscat.Notice
import Syscat.Text.Upper
import Syscat.Text.Utf8
import Syscat.Time.Catalog

namespace Syscat

/-- The values of a row by their column names in upper case, no name twice. -/
structure Row where
  cells : List (String × Value)
deriving Repr, Inhabited

namespace Row

/-- Set the value of a column. A column that is there already keeps its position. -/
def put (column : String) (value : Value) : List (String × Value) → List (String × Value)
  | [] => [(column, value)]
  | (c, v) :: rest => if c = column then (c, value) :: rest else (c, v) :: put column value rest

/-- The cells of a row as named values in order. The last value of a column wins. -/
def collect (cells : List (String × Value)) : List (String × Value) :=
  cells.foldl (fun row cell => put (uppercased cell.1) cell.2 row) []

/-- The text of each column's name. -/
def named : List (Value × Value) → Except Failure (List (String × Value))
  | [] => .ok []
  | (k, v) :: rest => do
      let name ← Failure.printed k.text?
      return (name, v) :: (← named rest)

/-- The row with the given entries. -/
def ofEntries (entries : List (Value × Value)) : Except Failure Row := do
  return ⟨collect (← named entries)⟩

/-- The value of a column, null if there is none. -/
def get (row : Row) (column : String) : Value :=
  ((row.cells.find? fun cell => cell.1 == uppercased column).map (·.2)).getD .null

/-- Whether the row has a column. -/
def contains (row : Row) (column : String) : Bool :=
  row.cells.any fun cell => cell.1 == uppercased column

/-! ### Reading a column -/

/-- The text of a value that is not null. Octets are read as UTF-8, with a replacement character for
each ill-formed stretch. -/
def textOf? (v : Value) : Option String :=
  match v.bytes? with
  | some bytes => some (String.ofList (utf8DecodeLossy bytes))
  | none => v.text?

/-- The text of a column. -/
def text? (row : Row) (column : String) : Except Failure (Option String) :=
  match row.get column with
  | .null => .ok none
  | v => (Failure.printed (textOf? v)).map some

/-- The text of a column without the blanks around it. -/
def trimmedText? (row : Row) (column : String) : Except Failure (Option String) := do
  return (← row.text? column).map stripped

/-- The integer in a column. A flag is no integer, and any other value is read as a numeral. -/
def integer? (row : Row) (column : String) : Logged (Option Int) :=
  match row.get column with
  | .null => pure none
  | .flag _ => pure none
  | .integer n => pure (some n)
  | v =>
      match (textOf? v).map fun s => Numeral.read s.toList with
      | some (.ok n) => pure (some n)
      | _ => do
          let literal ← Logged.ofExcept (Failure.printed v.literal?)
          Logged.note (.nonInteger column literal)
          return none

/-- The flag in a column: a text is compared with the one that stands for true. -/
def flag? (row : Row) (column : String) (trueText : Value) : Except Failure (Option Bool) :=
  match row.get column with
  | .null => .ok none
  | .flag b => .ok (some b)
  | v => do
      let text ← Failure.printed v.text?
      return some ((Value.text (stripped text)).equal trueText)

/-- The text that stands for true in the flag columns of the catalog. -/
def catalogTrue : Value := .text "Y"

/-- The timestamp in a column. Any other value is read from its text. -/
def timestamp? (row : Row) (column : String) : Logged (Option Timestamp) :=
  match row.get column with
  | .null => pure none
  | .moment t => pure (some t)
  | v => do
      let text ← Logged.ofExcept (Failure.printed v.text?)
      match readTimestamp? (strip text.toList) with
      | some t => return some t
      | none =>
          let literal ← Logged.ofExcept (Failure.printed v.literal?)
          Logged.note (.unparsableTimestamp column literal)
          return none

end Row

/-! ### What a row comes as -/

/-- How a row is carried: as a dictionary, a view of one, a result row of a query or the mapping of
such a row. -/
inductive Carrier where
  | dictionary
  | view
  | resultRow
  | resultMapping
deriving DecidableEq, Repr, Inhabited

/-- What a caller passes as a row: a carrier with its entries, a row read before, or any other value.
A table counts as a row. -/
inductive RowSource where
  | carried (carrier : Carrier) (entries : List (Value × Value))
  | read (row : Row)
  | value (v : Value)
deriving Repr, Inhabited

namespace RowSource

/-- Read a row. -/
def row : RowSource → Except Failure Row
  | carried _ entries => Row.ofEntries entries
  | read row => .ok row
  | value (.table entries) => Row.ofEntries entries
  | value v => .error (.unsupportedRow v)

end RowSource

end Syscat
