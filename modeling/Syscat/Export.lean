/-
Module: Syscat.Export
Purpose: Routines as documents in JSON, YAML or TOML. Null fields are left out at every level, since TOML
  has no null.
Main exports: routineFields, writeRoutines, exportRoutines
-/
import Syscat.Json.Writer
import Syscat.Notice
import Syscat.Routine
import Syscat.Toml.Writer
import Syscat.Yaml.Writer

namespace Syscat

/-- The fields of a routine in a document. -/
def routineFields (routine : Routine) : List (String × Document) :=
  match routine.document.withoutNulls with
  | .record fields => fields
  | _ => []

/-- Routines in a format. JSON and YAML hold a list of them, TOML an array of tables with a name, since
its documents are tables. -/
def writeRoutines (format : DocumentFormat) (routines : List Routine) : Except WriteFailure String :=
  let tables := routines.map routineFields
  match format with
  | .json => Json.write (.list (tables.map Document.record))
  | .yaml => Yaml.writeItems (tables.map Document.record)
  | .toml => Toml.writeTables "routines" tables

/-- Map routines and write them in the format that is asked for. The format is looked at first: without
a known one nothing is mapped. -/
def exportRoutines (format : Value) (routines : Logged (List Routine)) : Logged String :=
  match DocumentFormat.ofValue? format with
  | none => Logged.fail .documentFormat
  | some format => do
      let routines ← routines
      Logged.ofExcept ((writeRoutines format routines).mapError Failure.ofWrite)

end Syscat
