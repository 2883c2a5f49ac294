/-
Module: Syscat.Document.File
Purpose: Files as the values that they hold. A file is read in the format that its path tells, as UTF-8
  text in which every sort of line end counts as a line feed.
Main exports: File, File.text, File.source, File.read
-/
import Syscat.Json.Reader
import Syscat.Toml.Reader
import Syscat.Yaml.Reader

namespace Syscat

/-- What a path leads to. -/
inductive FileContent where
  | absent
  | directory
  | octets (bytes : List UInt8)
deriving Repr, Inhabited

/-- A path and what it leads to. -/
structure File where
  path : String
  content : FileContent
deriving Repr, Inhabited

/-- A text with line feeds for its line ends: a carriage return, and one with a line feed behind it,
become a line feed. -/
def unifiedLines : List Char → List Char
  | [] => []
  | '\r' :: '\n' :: rest => '\n' :: unifiedLines rest
  | '\r' :: rest => '\n' :: unifiedLines rest
  | c :: rest => c :: unifiedLines rest

namespace DocumentFormat

/-- How ill-formed octets are reported. JSON and TOML are read at once, YAML piece by piece: an unfinished
character at the end is then a piece of its own, in which places are counted from its beginning. -/
def reported (format : DocumentFormat) (e : Utf8Error) : Utf8Error :=
  if format = yaml ∧ e.fault = .truncated then { e with position := 0 } else e

/-- Read a text as a value. -/
def readText : DocumentFormat → List Char → Except ReadFailure Value
  | json => Json.read
  | yaml => Yaml.read
  | toml => Toml.read

end DocumentFormat

namespace File

/-- The text of a file, the format being known. -/
def text (format : DocumentFormat) (bytes : List UInt8) : Except ReadFailure (List Char) :=
  match utf8Decode bytes with
  | .ok text => .ok (unifiedLines text)
  | .error e => .error (.encoding (format.reported e))

/-- The text in a file and the format that it is to be read in. That the file can be opened matters before
its format does, and its format before its text. -/
def source (file : File) : Except ReadFailure (DocumentFormat × List Char) :=
  if file.path.toList.contains '\x00' then .error .badPath
  else
    match file.content with
    | .absent => .error (.absent file.path)
    | .directory => .error (.directory file.path)
    | .octets bytes =>
        match DocumentFormat.ofPath? file.path with
        | none => .error .unknownFormat
        | some format => (text format bytes).map fun text => (format, text)

/-- The value that a file holds. -/
def read (file : File) : Except ReadFailure Value := do
  let (format, text) ← file.source
  format.readText text

end File

end Syscat
