/-
Module: Syscat.Routine
Purpose: Descriptors of routines and of their parameters, laid out as records, and checked when they are
  built from fields.
Main exports: Routine, Parameter, JavaBinding, Routine.record, Parameter.record, Routine.check,
  Routine.revise, Parameter.check
-/
import Syscat.Code
import Syscat.Container
import Syscat.Document

namespace Syscat

/-- Where the code of a Java routine is found. -/
structure JavaBinding where
  jarId : Option String
  jarSchema : Option String
  jarSignature : Option String
  className : Option String
deriving DecidableEq, Repr, Inhabited

/-- A parameter of a routine: one row of `SYSCAT.ROUTINEPARMS`. -/
structure Parameter where
  name : Option String
  ordinal : Int
  mode : Option ParameterMode
  typeSchema : Option String
  typeName : Option String
  length : Option Int
  scale : Option Int
  codepage : Option Int
  isLocator : Option Bool
  defaultValue : Option String
  remarks : Option String
deriving DecidableEq, Repr, Inhabited

/-- A routine: one row of `SYSCAT.ROUTINES` and the container that owns it. -/
structure Routine where
  name : FilledText
  specificName : Option String
  routineId : Option Int
  kind : Option RoutineKind
  functionSubtype : Option FunctionSubtype
  origin : Option RoutineOrigin
  language : Option RoutineLanguage
  validity : ValidityState
  sourceText : Option String
  dialect : Option String
  externalName : Option String
  javaBinding : Option JavaBinding
  parameterStyle : Option String
  deterministic : Option Bool
  resultSets : Option Int
  debugMode : Option String
  remarks : Option String
  createdAt : Option Timestamp
  alteredAt : Option Timestamp
  lastRegeneratedAt : Option Timestamp
  ownerName : Option String
  ownerType : Option OwnerType
  container : Container
  effectiveSchema : Schema
  qualifiedName : FilledText
deriving DecidableEq, Repr, Inhabited

/-! ### Layout -/

/-- A schema as a record. -/
def Schema.record {β : Type} (target : RecordTarget β) (s : Schema) : β :=
  target.record [("name", target.text s.name.val)]

/-- A module as a record. -/
def Module.record {β : Type} (target : RecordTarget β) (m : Module) : β :=
  target.record [("name", target.text m.name.val),
    ("parent_schema", target.optional (Schema.record target) m.schema)]

/-- A container as a record. -/
def Container.record {β : Type} (target : RecordTarget β) : Container → β
  | .schema s => s.record target
  | .module m => m.record target

/-- A member of a code table as a field: its name. -/
def codeField {α β : Type} [CatalogCode α] (target : RecordTarget β) (m : α) : β :=
  target.text (CatalogCode.name m)

namespace JavaBinding

/-- A binding as a record. -/
def record {β : Type} (target : RecordTarget β) (b : JavaBinding) : β :=
  let text := target.optional target.text
  target.record [("jar_id", text b.jarId), ("jar_schema", text b.jarSchema),
    ("jar_signature", text b.jarSignature), ("class_name", text b.className)]

/-- Whether a binding says nothing: every part of it is absent or empty. -/
def isBlank (b : JavaBinding) : Bool :=
  [b.jarId, b.jarSchema, b.jarSignature, b.className].all fun part => (part.getD "").isEmpty

end JavaBinding

namespace Parameter

/-- A parameter as a record. -/
def record {β : Type} (target : RecordTarget β) (p : Parameter) : β :=
  let text := target.optional target.text
  let integer := target.optional target.integer
  target.record [
    ("name", text p.name),
    ("ordinal", target.integer p.ordinal),
    ("mode", target.optional (codeField target) p.mode),
    ("type_schema", text p.typeSchema),
    ("type_name", text p.typeName),
    ("length", integer p.length),
    ("scale", integer p.scale),
    ("codepage", integer p.codepage),
    ("is_locator", target.optional target.flag p.isLocator),
    ("default_value", text p.defaultValue),
    ("remarks", text p.remarks)]

end Parameter

namespace Routine

/-- A routine as a record. -/
def record {β : Type} (target : RecordTarget β) (r : Routine) : β :=
  let text := target.optional target.text
  let integer := target.optional target.integer
  let moment := target.optional target.moment
  target.record [
    ("name", target.text r.name.val),
    ("specific_name", text r.specificName),
    ("routine_id", integer r.routineId),
    ("routine_kind", target.optional (codeField target) r.kind),
    ("function_subtype", target.optional (codeField target) r.functionSubtype),
    ("origin", target.optional (codeField target) r.origin),
    ("language", target.optional (codeField target) r.language),
    ("validity_state", codeField target r.validity),
    ("source_text", text r.sourceText),
    ("dialect", text r.dialect),
    ("external_name", text r.externalName),
    ("java_binding", target.optional (JavaBinding.record target) r.javaBinding),
    ("parameter_style", text r.parameterStyle),
    ("deterministic", target.optional target.flag r.deterministic),
    ("result_sets", integer r.resultSets),
    ("debug_mode", text r.debugMode),
    ("remarks", text r.remarks),
    ("created_at", moment r.createdAt),
    ("altered_at", moment r.alteredAt),
    ("last_regenerated_at", moment r.lastRegeneratedAt),
    ("owner_name", text r.ownerName),
    ("owner_type", target.optional (codeField target) r.ownerType),
    ("container", r.container.record target),
    ("effective_schema", r.effectiveSchema.record target),
    ("fully_qualified_name", target.text r.qualifiedName.val)]

/-- A routine as an exported document. -/
def document (r : Routine) : Document :=
  r.record .document

/-- How a statement invokes the routine. -/
def procedureType (r : Routine) : Option ProcedureType :=
  r.kind.map RoutineKind.procedureType

/-- Whether the routine is a function. -/
def isFunction (r : Routine) : Bool :=
  r.kind == some .function

/-- A routine that is known to be valid is in its normal state. -/
def objectState (r : Routine) : ObjectState :=
  if r.validity = .valid then .normal else .unknown

end Routine

/-! ### Checks -/

/-- A member of a code table as a value: the pair of its code and its label. -/
def codeValue {α : Type} [CatalogCode α] (m : α) : Value :=
  .tuple [((CatalogCode.literal? m).map Value.text).getD .null, .text (CatalogCode.label m)]

/-- A member of a code table, given as the pair of its code and its label. -/
def checkCode {α : Type} [CatalogCode α] (v : Value) : Checked α :=
  let members : List α := CatalogCode.members
  match members.find? fun m => v.equal (codeValue m) with
  | some m => Checked.ok m
  | none => Checked.fail (.notCode (members.map fun m => ((codeValue m).literal?).getD ""))

/-- A field that is read if it is given, and otherwise has a value beforehand or is missing. -/
def revisedField {α : Type} (fields : Fields) (name : String) (before : Option α)
    (check : Value → Checked α) : Checked α :=
  match before with
  | some a => optionalField fields name a check
  | none => requiredField fields name check

namespace JavaBinding

/-- Check the fields of a binding. -/
def check (fields : Fields) : Checked JavaBinding :=
  let text := fun name => optionalField fields name none (checkOptional checkText)
  Checked.map JavaBinding.mk (text "jar_id")
    |>.both (text "jar_schema")
    |>.both (text "jar_signature")
    |>.both (text "class_name")

/-- Check a value that is to be a binding. -/
def checkValue : Value → Checked JavaBinding
  | .table entries => check (Fields.ofEntries entries)
  | _ => Checked.fail (.notRecord "JavaBinding")

end JavaBinding

namespace Parameter

/-- Check the fields of a parameter. -/
def check (fields : Fields) : Checked Parameter :=
  let text := fun name => optionalField fields name none (checkOptional checkText)
  let integer := fun name => optionalField fields name none (checkOptional checkInteger)
  Checked.map Parameter.mk (text "name")
    |>.both (requiredField fields "ordinal" checkInteger)
    |>.both (optionalField fields "mode" none (checkOptional checkCode))
    |>.both (text "type_schema")
    |>.both (text "type_name")
    |>.both (integer "length")
    |>.both (integer "scale")
    |>.both (integer "codepage")
    |>.both (optionalField fields "is_locator" none (checkOptional checkFlag))
    |>.both (text "default_value")
    |>.both (text "remarks")

end Parameter

namespace Routine

/-- Check the fields of a routine. A field that is not given is taken from the routine `before`, or has
its default if there is none. -/
def revise (before : Option Routine) (fields : Fields) : Checked Routine :=
  let text := fun name (part : Routine → Option String) =>
    optionalField fields name (before.bind part) (checkOptional checkText)
  let integer := fun name (part : Routine → Option Int) =>
    optionalField fields name (before.bind part) (checkOptional checkInteger)
  let moment := fun name (part : Routine → Option Timestamp) =>
    optionalField fields name (before.bind part) (checkOptional checkMoment)
  Checked.map Routine.mk (revisedField fields "name" (before.map (·.name)) checkFilledText)
    |>.both (text "specific_name" (·.specificName))
    |>.both (integer "routine_id" (·.routineId))
    |>.both (optionalField fields "routine_kind" (before.bind (·.kind)) (checkOptional checkCode))
    |>.both (optionalField fields "function_subtype" (before.bind (·.functionSubtype))
      (checkOptional checkCode))
    |>.both (optionalField fields "origin" (before.bind (·.origin)) (checkOptional checkCode))
    |>.both (optionalField fields "language" (before.bind (·.language)) (checkOptional checkCode))
    |>.both (optionalField fields "validity_state" ((before.map (·.validity)).getD .unknown) checkCode)
    |>.both (text "source_text" (·.sourceText))
    |>.both (text "dialect" (·.dialect))
    |>.both (text "external_name" (·.externalName))
    |>.both (optionalField fields "java_binding" (before.bind (·.javaBinding))
      (checkOptional JavaBinding.checkValue))
    |>.both (text "parameter_style" (·.parameterStyle))
    |>.both (optionalField fields "deterministic" (before.bind (·.deterministic))
      (checkOptional checkFlag))
    |>.both (integer "result_sets" (·.resultSets))
    |>.both (text "debug_mode" (·.debugMode))
    |>.both (text "remarks" (·.remarks))
    |>.both (moment "created_at" (·.createdAt))
    |>.both (moment "altered_at" (·.alteredAt))
    |>.both (moment "last_regenerated_at" (·.lastRegeneratedAt))
    |>.both (text "owner_name" (·.ownerName))
    |>.both (optionalField fields "owner_type" (before.bind (·.ownerType)) (checkOptional checkCode))
    |>.both (revisedField fields "container" (before.map (·.container)) Container.checkValue)
    |>.both (revisedField fields "effective_schema" (before.map (·.effectiveSchema)) Schema.checkValue)
    |>.both (revisedField fields "fully_qualified_name" (before.map (·.qualifiedName)) checkFilledText)

/-- Check the fields of a routine that is described by nothing else. -/
def check (fields : Fields) : Checked Routine :=
  revise none fields

end Routine

end Syscat
