/-
Module: Syscat.Definition
Purpose: The definition text that is shown for a routine. Only routines written in SQL have a source that
  can be shown.
Main exports: definition, Definition, Formatter
-/
import Syscat.Failure
import Syscat.Routine
import Syscat.Settings

namespace Syscat

/-- A formatter of SQL source. -/
def Formatter : Type := String → Except Signal Value

/-- What a request for a definition gave, and the sources that were passed to the formatter. -/
structure Definition where
  result : Except Failure Value
  formatted : List String

/-- What is shown for a routine that is not written in SQL. -/
def noSourceText : String :=
  "-- Source code is not available for routines not written in SQL"

/-- A field that may be null as a value. -/
def textValue (text : Option String) : Value :=
  (text.map Value.text).getD .null

/-- The format that a caller's options ask for, or else the settings. -/
def requestedFormat (options : Option Fields) (settings : Option Settings) : Value :=
  match (options.getD []).value? "format" with
  | some format => format
  | none => .text ((settings.map Settings.definitionFormat).getD .asIs).name

/-- The source of a routine in a format. A formatter is applied only if the formatted source is wanted
and there is one. -/
def formatSource (source : Option String) (format : DefinitionFormat) (formatter : Option Formatter) :
    Definition :=
  match format, source, formatter with
  | .formatted, some text, some apply =>
      if text = "" then ⟨.ok (.text text), []⟩
      else ⟨(apply text).mapError Failure.signalled, [text]⟩
  | _, source, _ => ⟨.ok (textValue source), []⟩

/-- The definition text of a routine. -/
def definition (routine : Routine) (options : Option Fields) (formatter : Option Formatter)
    (settings : Option Settings) : Definition :=
  if routine.language = some .sql then
    let requested := requestedFormat options settings
    match DefinitionFormat.ofValue? requested, requested.literal? with
    | some format, _ => formatSource routine.sourceText format formatter
    | none, some _ => ⟨.error (.definitionFormat requested), []⟩
    | none, none => ⟨.error .longInteger, []⟩
  else ⟨.ok (.text noSourceText), []⟩

end Syscat
