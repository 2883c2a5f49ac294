/-
Module: Syscat.Catalog
Purpose: Catalogs as tables of rows, the answers of queries on them, and scans that map everything a
  container holds.
Main exports: Record, Catalog, Query.answer, Catalog.scan, Catalog.parametersOf
-/
import Syscat.Cache.Fetch
import Syscat.Definition
import Syscat.Mapping
import Syscat.Query

namespace Syscat

/-- A stored row: the values of its columns by name. -/
abbrev Record := List (String × Value)

/-- The stored rows of the two views. -/
structure Catalog where
  routines : List Record
  parameters : List Record
deriving Inhabited

/-- The value of a column in a stored row, null if it was never set. -/
def Record.get (record : Record) (column : String) : Value :=
  ((record.find? fun cell => cell.1 == column).map (·.2)).getD .null

/-- The order of texts by their octets in UTF-8. -/
def octetsBefore : List UInt8 → List UInt8 → Bool
  | _, [] => false
  | [], _ :: _ => true
  | a :: as, b :: bs => a < b || (a == b && octetsBefore as bs)

/-- The order of stored values: null first, then integers, then texts by their octets. -/
def storedBefore : Value → Value → Bool
  | .null, .null => false
  | .null, _ => true
  | .integer a, .integer b => a < b
  | .integer _, .text _ => true
  | .text a, .text b => octetsBefore (utf8Encode a.toList) (utf8Encode b.toList)
  | _, _ => false

/-- The order of stored rows by some columns, the first of which counts most. -/
def recordBefore : List String → Record → Record → Bool
  | [], _, _ => false
  | column :: columns, a, b =>
      storedBefore (a.get column) (b.get column)
        || (!storedBefore (b.get column) (a.get column) && recordBefore columns a b)

/-- Whether a stored row meets a condition. A comparison with null is never met. -/
def Condition.holds (record : Record) : Condition → Bool
  | equals column value =>
      match record.get column with
      | .text s => s == value
      | _ => false
  | isNull column =>
      match record.get column with
      | .null => true
      | _ => false

namespace Query

/-- The answer of a query: the rows that meet its conditions, in its order, with its columns. Rows that
the order does not tell apart keep the order in which they are stored. -/
def answer (q : Query) (records : List Record) : List Record :=
  let matching := records.filter fun record => q.conditions.all (Condition.holds record)
  let sorted := matching.mergeSort fun a b => !recordBefore q.order b a
  sorted.map fun record => q.columns.map fun column => (column, record.get column)

end Query

/-- A stored row as what a query gives. -/
def Record.source (record : Record) : RowSource :=
  .carried .resultRow (record.map fun cell => (.text cell.1, cell.2))

/-- The parameters of rows, mapped one after the other under the strict treatment of unknown codes. -/
def mapParameters : List RowSource → Logged (List Parameter)
  | [] => pure []
  | source :: rest => do
      let parameter ← mapParameter source .strict
      let parameters ← mapParameters rest
      return parameter :: parameters

namespace Catalog

/-- The parameters of a routine. -/
def parametersOf (catalog : Catalog) (routine : Routine) : Logged (List Parameter) :=
  mapParameters (((selectParameters routine).answer catalog.parameters).map Record.source)

/-- The fetch that gives the parameters of a routine. -/
def parameterFetch (catalog : Catalog) (routine : Routine) : Fetch :=
  .finish (do return (← catalog.parametersOf routine).map Child.parameter)

/-- The rows of an owner's routines. -/
def routinesOf (catalog : Catalog) (owner : Owner) (capabilities : Capabilities) :
    Except Failure (List RowSource) := do
  let query ← selectRoutines capabilities owner
  return (query.answer catalog.routines).map Record.source

/-- Map the routines that `selected` owns as routines of `owner`. -/
def scan (catalog : Catalog) (selected owner : Owner) (capabilities : Capabilities)
    (options : MappingOptions) : Logged (List RowOutcome) := do
  let rows ← .ofExcept (catalog.routinesOf selected capabilities)
  mapRoutines rows owner capabilities options

end Catalog

end Syscat
