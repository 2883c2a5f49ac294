/-
Module: Syscat.Settings
Purpose: Settings of the mapping: thresholds, the treatment of unknown codes and the format of
  definitions.
Main exports: Settings, UnknownCodes, DefinitionFormat, Settings.check, Settings.capabilitiesFor
-/
import Syscat.Capability

namespace Syscat

/-- What happens to an unknown code: strictly it is a failure, leniently a fallback takes its place. -/
inductive UnknownCodes where
  | strict
  | lenient
deriving DecidableEq, Repr, Inhabited

/-- How the source of a routine is shown. -/
inductive DefinitionFormat where
  | asIs
  | formatted
deriving DecidableEq, Repr, Inhabited

/-- The settings of the mapping. -/
structure Settings where
  thresholds : Thresholds
  unknownCodes : UnknownCodes
  definitionFormat : DefinitionFormat
deriving Repr

namespace UnknownCodes

/-- The name of a treatment. -/
def name : UnknownCodes → String
  | strict => "strict"
  | lenient => "lenient"

/-- The treatment that a caller's word asks for. Any word other than `lenient` asks for the strict one. -/
def ofWord (word : String) : UnknownCodes :=
  if word = "lenient" then .lenient else .strict

/-- Check a value that is to be a treatment. -/
def checkValue : Value → Checked UnknownCodes
  | .text "strict" => Checked.ok .strict
  | .text "lenient" => Checked.ok .lenient
  | _ => Checked.fail (.notChoice ["strict", "lenient"])

end UnknownCodes

namespace DefinitionFormat

/-- The name of a format. -/
def name : DefinitionFormat → String
  | asIs => "as_is"
  | formatted => "formatted"

/-- The format that a value names. -/
def ofValue? : Value → Option DefinitionFormat
  | .text "as_is" => some .asIs
  | .text "formatted" => some .formatted
  | _ => none

/-- Check a value that is to be a format. -/
def checkValue (v : Value) : Checked DefinitionFormat :=
  match ofValue? v with
  | some format => Checked.ok format
  | none => Checked.fail (.notChoice ["as_is", "formatted"])

end DefinitionFormat

namespace Settings

/-- The settings that hold as long as nothing else is said. -/
def standard : Settings := ⟨.standard, .strict, .asIs⟩

instance : Inhabited Settings := ⟨standard⟩

/-- Check the fields of settings. Each has a default. -/
def check (fields : Fields) : Checked Settings :=
  Checked.map Settings.mk (optionalField fields "thresholds" standard.thresholds Thresholds.checkValue)
    |>.both (optionalField fields "enum_policy" standard.unknownCodes UnknownCodes.checkValue)
    |>.both (optionalField fields "definition_format" standard.definitionFormat
      DefinitionFormat.checkValue)

/-- Settings as a table. -/
def toValue (s : Settings) : Value :=
  .table [(.text "thresholds", s.thresholds.toValue), (.text "enum_policy", .text s.unknownCodes.name),
    (.text "definition_format", .text s.definitionFormat.name)]

/-- The capabilities of a server of a version under the settings' thresholds. -/
def capabilitiesFor (s : Settings) (version : Value) : Checked Capabilities :=
  Capabilities.forVersion version s.thresholds

end Settings

end Syscat
