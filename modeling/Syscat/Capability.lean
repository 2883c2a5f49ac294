/-
Module: Syscat.Capability
Purpose: What a catalog server provides. Some columns exist only from a certain server version on; the
  thresholds say from which.
Main exports: Feature, Thresholds, Capabilities, Capabilities.supports, Thresholds.check,
  Capabilities.forVersion
-/
import Syscat.Record

namespace Syscat

/-- A part of the catalog that older servers lack. -/
inductive Feature where
  | ownerType
  | dialect
  | functionSubtype
deriving DecidableEq, Repr, Inhabited

/-- The version from which on each feature exists. -/
structure Thresholds where
  ownerType : Version
  dialect : Version
  functionSubtype : Version
deriving Repr

/-- What a server provides: its version, and the thresholds to compare that with. -/
structure Capabilities where
  server : Version
  thresholds : Thresholds
deriving Repr

namespace Version

/-- Version 9.5. -/
def v9p5 : Version := ⟨"9.5", [9, 5], rfl⟩

/-- Version 9.7. -/
def v9p7 : Version := ⟨"9.7", [9, 7], rfl⟩

end Version

namespace Thresholds

/-- The thresholds of the product. -/
def standard : Thresholds := ⟨.v9p5, .v9p7, .v9p7⟩

instance : Inhabited Thresholds := ⟨standard⟩

/-- The threshold of a feature. -/
def of (t : Thresholds) : Feature → Version
  | .ownerType => t.ownerType
  | .dialect => t.dialect
  | .functionSubtype => t.functionSubtype

/-- Check the fields of thresholds. A threshold that is not given is the product's. -/
def check (fields : Fields) : Checked Thresholds :=
  Checked.map Thresholds.mk (optionalField fields "owner_type" standard.ownerType checkVersion)
    |>.both (optionalField fields "dialect" standard.dialect checkVersion)
    |>.both (optionalField fields "function_subtype" standard.functionSubtype checkVersion)

/-- Check a value that is to be thresholds. -/
def checkValue : Value → Checked Thresholds
  | .table entries => check (Fields.ofEntries entries)
  | _ => Checked.fail (.notRecord "CapabilityThresholds")

/-- Thresholds as a table. -/
def toValue (t : Thresholds) : Value :=
  .table [(.text "owner_type", .text t.ownerType.text), (.text "dialect", .text t.dialect.text),
    (.text "function_subtype", .text t.functionSubtype.text)]

end Thresholds

namespace Capabilities

instance : Inhabited Capabilities := ⟨⟨.v9p7, default⟩⟩

/-- A feature is there from its threshold on. -/
def supports (c : Capabilities) (f : Feature) : Bool :=
  c.server.atLeast (c.thresholds.of f)

/-- Whether the server has a version or a later one. -/
def isAtLeast (c : Capabilities) (version : Value) : Except VersionError Bool :=
  (Version.ofValue version).map c.server.atLeast

/-- The capabilities of a server of a version. -/
def forVersion (version : Value) (thresholds : Thresholds) : Checked Capabilities :=
  (Checked.within "server_version" (checkVersion version)).map fun server => ⟨server, thresholds⟩

/-- Check the fields of capabilities. -/
def check (fields : Fields) : Checked Capabilities :=
  Checked.map Capabilities.mk (requiredField fields "server_version" checkVersion)
    |>.both (optionalField fields "thresholds" default Thresholds.checkValue)

/-- Capabilities as a table. -/
def toValue (c : Capabilities) : Value :=
  .table [(.text "server_version", .text c.server.text), (.text "thresholds", c.thresholds.toValue)]

end Capabilities

end Syscat
