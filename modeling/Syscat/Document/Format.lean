/-
Module: Syscat.Document.Format
Purpose: The formats that documents are written in and settings are read from.
Main exports: DocumentFormat, DocumentFormat.ofValue?, DocumentFormat.ofPath?
-/
import Syscat.Value

namespace Syscat

/-- A format of documents and of settings files. -/
inductive DocumentFormat where
  | json
  | yaml
  | toml
deriving DecidableEq, Repr, Inhabited

namespace DocumentFormat

/-- The format that a value asks for by its name in small letters. -/
def ofValue? : Value → Option DocumentFormat
  | .text "json" => some json
  | .text "yaml" => some yaml
  | .text "toml" => some toml
  | _ => none

/-- The ends of a file's path that tell its format. They are written in small or in capital letters, but
not in both. -/
def suffixes : DocumentFormat → List String
  | json => [".json", ".JSON"]
  | yaml => [".yaml", ".yml", ".YAML", ".YML"]
  | toml => [".toml", ".TOML"]

/-- The format of a file, which the end of its path tells. -/
def ofPath? (path : String) : Option DocumentFormat :=
  [json, yaml, toml].find? fun format =>
    format.suffixes.any fun ending => ending.toList.isSuffixOf path.toList

end DocumentFormat

end Syscat
