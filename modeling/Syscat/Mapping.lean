/-
Module: Syscat.Mapping
Purpose: Mapping of catalog rows to descriptors. A column that is absent or null maps to nothing, a column
  that the server may lack is read only if it is known to provide it, and an unknown code is treated as
  the options say.
Main exports: MappingOptions, NamingRule, readRoutine, mapRoutineAsking, mapRoutine, mapParameter,
  mapRoutines, RowOutcome
-/
import Syscat.Code.Lookup
import Syscat.Identifier
import Syscat.Row
import Syscat.Routine
import Syscat.Settings

namespace Syscat

/-- How the qualified name of a routine is made from its owner and its name. -/
def NamingRule : Type := Owner → String → Except Signal Value

/-- The names of the owner's chain and of the routine, quoted where they must be. -/
def NamingRule.standard : NamingRule := fun owner name =>
  match owner.qualifiedName? name with
  | some qualified => .ok (.text qualified)
  | none => .error (.mapping (.text (Failure.ofProblem (.unresolvable owner)).message))

/-- How rows are mapped. -/
structure MappingOptions where
  /-- The naming rule. -/
  naming : NamingRule
  /-- The word for the treatment of unknown codes that the caller passes along. -/
  policy : Option String
  /-- Whether the mapping was bound to the lenient treatment beforehand. -/
  bound : Bool
  /-- Settings, whose treatment of unknown codes wins over the caller's word. -/
  settings : Option Settings
  /-- Values that take the place of what was read, by field. -/
  overrides : Fields

namespace MappingOptions

/-- The options of a caller that passes none. -/
def standard : MappingOptions := ⟨.standard, none, false, none, []⟩

instance : Inhabited MappingOptions := ⟨standard⟩

/-- The treatment of unknown codes that is in force. -/
def unknownCodes (options : MappingOptions) : UnknownCodes :=
  match options.settings, options.policy with
  | some settings, _ => settings.unknownCodes
  | none, some word => .ofWord word
  | none, none => if options.bound then .lenient else .strict

end MappingOptions

/-- The member of a code table that a column's text stands for, or the fallback if it stands for none.
Under the lenient treatment an unknown code stands for none. -/
def readCode {α : Type} [CatalogCode α] (codes : UnknownCodes) (column : String) (fallback : Option α)
    (raw : Option String) : Logged (Option α) :=
  match CatalogCode.lookupText column raw, codes with
  | .ok found, _ => pure (found.or fallback)
  | .error failure, .strict => Logged.fail failure
  | .error _, .lenient => do
      let shown := (fallback.map CatalogCode.label).getD "None"
      Logged.note (.downgraded (CatalogCode.title α) (quotedText (raw.getD "")) column shown)
      return fallback

/-- Read a column that holds a code, which may be padded with blanks. -/
def Row.code? {α : Type} [CatalogCode α] (row : Row) (codes : UnknownCodes) (column : String)
    (padded : Bool) (fallback : Option α) : Logged (Option α) := do
  let raw ← .ofExcept (if padded then row.trimmedText? column else row.text? column)
  readCode codes column fallback raw

/-- The qualified name of a routine in the answer of a naming rule. Its failures and every answer but
a text that is not empty are mapping problems; a request to stop passes through. -/
def namingAnswer (name : String) : Except Signal Value → Except Failure FilledText
  | .ok (.text s) =>
      if h : s = "" then .error (.ofProblem (.namingReturned name (.text s))) else .ok ⟨s, h⟩
  | .ok v => .error (.ofProblem (.namingReturned name v))
  | .error signal =>
      if signal.ordinary then .error (.ofProblem (.namingRaised name signal))
      else .error (.signalled signal)

/-- Read what a caller passes as a row. -/
def readRow (source : RowSource) : Except Failure Row :=
  match source.row, source with
  | .error (.unsupportedRow _), .value v => .error (.ofProblem (.unsupportedRow v))
  | result, _ => result

/-- The failure of a row whose routine name is known. -/
def Failure.withRowName (name : String) : Failure → Failure
  | .mapping e => .mapping { e with rowName := some name }
  | failure => failure

/-- The Java binding in a row, if any part of it is filled. -/
def readJavaBinding (row : Row) : Except Failure (Option JavaBinding) := do
  let jarId ← row.text? "JAR_ID"
  let jarSchema ← row.text? "JARSCHEMA"
  let jarSignature ← row.text? "JAR_SIGNATURE"
  let className ← row.text? "CLASS"
  let binding : JavaBinding := ⟨jarId, jarSchema, jarSignature, className⟩
  return if binding.isBlank then none else some binding

/-- The kind of a routine, and what is read only if the server has a column for it or the kind asks for
it. -/
structure Classification where
  kind : Option RoutineKind
  ownerType : Option OwnerType
  dialect : Option String
  functionSubtype : Option FunctionSubtype

/-- Where a routine comes from, its language and whether it is valid. -/
structure Provenance where
  origin : Option RoutineOrigin
  language : Option RoutineLanguage
  validity : ValidityState

/-- What else the catalog says about a routine. -/
structure RoutineDetails where
  sourceText : Option String
  externalName : Option String
  parameterStyle : Option String
  deterministic : Option Bool
  resultSets : Option Int
  debugMode : Option String
  remarks : Option String
  createdAt : Option Timestamp
  alteredAt : Option Timestamp
  lastRegeneratedAt : Option Timestamp
  ownerName : Option String

namespace Row

/-- Read the kind of a routine and the columns that the server may lack. Only a function has a
subtype. -/
def classification (row : Row) (capabilities : Capabilities) (codes : UnknownCodes) :
    Logged Classification := do
  let kind ← row.code? codes "ROUTINETYPE" false none
  let ownerType ← Logged.onlyIf (capabilities.supports .ownerType)
    (row.code? codes "OWNERTYPE" false none)
  let dialect ← Logged.onlyIf (capabilities.supports .dialect) (.ofExcept (row.text? "DIALECT"))
  let functionSubtype ←
    Logged.onlyIf (capabilities.supports .functionSubtype && kind == some RoutineKind.function)
      (row.code? codes "FUNCTIONTYPE" false none)
  return { kind, ownerType, dialect, functionSubtype }

/-- Read the codes that every server provides. -/
def provenance (row : Row) (codes : UnknownCodes) : Logged Provenance := do
  let origin ← row.code? codes "ORIGIN" false none
  let language ← row.code? codes "LANGUAGE" true none
  let validity ← row.code? codes "VALID" false (some ValidityState.unknown)
  return { origin, language, validity := validity.getD .unknown }

/-- Read the columns that hold no codes. -/
def details (row : Row) : Logged RoutineDetails := do
  let sourceText ← .ofExcept (row.text? "TEXT")
  let externalName ← .ofExcept (row.text? "IMPLEMENTATION")
  let parameterStyle ← .ofExcept (row.trimmedText? "PARAMETER_STYLE")
  let deterministic ← .ofExcept (row.flag? "DETERMINISTIC" Row.catalogTrue)
  let resultSets ← row.integer? "RESULT_SETS"
  let debugMode ← .ofExcept (row.text? "DEBUG_MODE")
  let remarks ← .ofExcept (row.text? "REMARKS")
  let createdAt ← row.timestamp? "CREATE_TIME"
  let alteredAt ← row.timestamp? "ALTER_TIME"
  let lastRegeneratedAt ← row.timestamp? "LAST_REGEN_TIME"
  let ownerName ← .ofExcept (row.text? "OWNER")
  return {
    sourceText, externalName, parameterStyle, deterministic, resultSets, debugMode, remarks, createdAt,
    alteredAt, lastRegeneratedAt, ownerName }

end Row

/-- Read the columns of a routine whose name and owner are known, in this order: the codes that decide
on other columns first. -/
def readRoutine (row : Row) (name qualifiedName : FilledText) (container : Container) (schema : Schema)
    (capabilities : Capabilities) (codes : UnknownCodes) : Logged Routine := do
  let { kind, ownerType, dialect, functionSubtype } ← row.classification capabilities codes
  let javaBinding ← .ofExcept (readJavaBinding row)
  let specificName ← .ofExcept (row.text? "SPECIFICNAME")
  let routineId ← row.integer? "ROUTINEID"
  let { origin, language, validity } ← row.provenance codes
  let details ← row.details
  return {
    details with
    name, specificName, routineId, kind, functionSubtype, origin, language, validity, dialect,
    javaBinding, ownerType, container, effectiveSchema := schema, qualifiedName }

/-- The container and the effective schema of an owner. -/
def resolveOwner (owner : Owner) : Except Failure (Container × Schema) :=
  match owner, owner.schema? with
  | .container c, some s => .ok (c, s)
  | owner, _ => owner.unresolved

/-- A routine with some of its fields overridden. -/
def overrideFields (overrides : Fields) (routine : Routine) : Except Failure Routine :=
  match Routine.revise (some routine) overrides with
  | .ok revised => .ok revised
  | .error faults => .error (.ofProblem (.rejected routine.name.val faults))

/-- The routine name in a row, which must be there. -/
def routineName (row : Row) : Except Failure FilledText := do
  let name := (← row.text? "ROUTINENAME").getD ""
  if h : name = "" then .error (.ofProblem (.missingColumn "Catalog" "ROUTINENAME"))
  else return ⟨name, h⟩

/-- A row whose routine is known by name, and what contains the routine. -/
structure NamedRow where
  row : Row
  name : FilledText
  container : Container
  schema : Schema

/-- Find out which routine a row is about. Until its name is read, a failure names no routine. -/
def readNamedRow (source : RowSource) (owner : Owner) : Except Failure NamedRow := do
  let row ← readRow source
  let name ← routineName row
  let (container, schema) ← (resolveOwner owner).mapError (Failure.withRowName name.val)
  return ⟨row, name, container, schema⟩

/-- Describe the routine of a row, given what the naming rule answered. -/
def NamedRow.describe (subject : NamedRow) (capabilities : Capabilities) (codes : UnknownCodes)
    (overrides : Fields) (answer : Except Signal Value) : Logged Routine :=
  Logged.mapFailure (Failure.withRowName subject.name.val) do
    let qualifiedName ← .ofExcept (namingAnswer subject.name.val answer)
    let routine ← readRoutine subject.row subject.name qualifiedName subject.container subject.schema
      capabilities codes
    .ofExcept (overrideFields overrides routine)

/-- Map one row of `SYSCAT.ROUTINES`. The naming rule is asked as part of a computation, in which it may
do more than answer. -/
def mapRoutineAsking {m : Type → Type} [Monad m] (ask : Owner → String → m (Except Signal Value))
    (source : RowSource) (owner : Owner) (capabilities : Capabilities) (codes : UnknownCodes)
    (overrides : Fields) : m (Logged Routine) :=
  match readNamedRow source owner with
  | .error failure => return .fail failure
  | .ok subject => do
      let answer ← ask owner subject.name.val
      return subject.describe capabilities codes overrides answer

/-- Map one row of `SYSCAT.ROUTINES`. -/
def mapRoutine (source : RowSource) (owner : Owner) (capabilities : Capabilities)
    (options : MappingOptions) : Logged Routine :=
  Id.run (mapRoutineAsking (fun owner name => pure (options.naming owner name)) source owner capabilities
    options.unknownCodes options.overrides)

/-- Map one row of `SYSCAT.ROUTINEPARMS`. -/
def mapParameter (source : RowSource) (codes : UnknownCodes) : Logged Parameter := do
  let row ← .ofExcept (readRow source)
  let some ordinal ← row.integer? "ORDINAL"
    | Logged.fail (.ofProblem (.missingColumn "Parameter" "ORDINAL"))
  let name ← .ofExcept (row.text? "PARMNAME")
  let mode ← row.code? codes "ROWTYPE" false none
  let typeSchema ← .ofExcept (row.trimmedText? "TYPESCHEMA")
  let typeName ← .ofExcept (row.trimmedText? "TYPENAME")
  let length ← row.integer? "LENGTH"
  let scale ← row.integer? "SCALE"
  let codepage ← row.integer? "CODEPAGE"
  let isLocator ← .ofExcept (row.flag? "LOCATOR" Row.catalogTrue)
  let defaultValue ← .ofExcept (row.text? "DEFAULT")
  let remarks ← .ofExcept (row.text? "REMARKS")
  return {
    name, ordinal, mode, typeSchema, typeName, length, scale, codepage, isLocator, defaultValue,
    remarks }

/-- What became of one row of a scan. -/
structure RowOutcome where
  index : Nat
  result : Except MappingError Routine

/-- Whether the row was mapped. -/
def RowOutcome.isMapped (outcome : RowOutcome) : Bool :=
  match outcome.result with
  | .ok _ => true
  | .error _ => false

/-- The outcome of mapping one row. A mapping problem is an outcome; any other failure is not. -/
def outcomeOf (index : Nat) (mapped : Logged Routine) : Logged RowOutcome :=
  match mapped.result with
  | .ok routine => ⟨mapped.notices, .ok ⟨index, .ok routine⟩⟩
  | .error (.mapping e) =>
      let notice := Notice.skipped index e.rowName (Failure.mapping e).message
      ⟨mapped.notices ++ [notice], .ok ⟨index, .error e⟩⟩
  | .error failure => ⟨mapped.notices, .error failure⟩

/-- The outcomes of rows that are counted from `index`. -/
def outcomesFrom (owner : Owner) (capabilities : Capabilities) (options : MappingOptions) :
    Nat → List RowSource → Logged (List RowOutcome)
  | _, [] => pure []
  | index, source :: rest => do
      let outcome ← outcomeOf index (mapRoutine source owner capabilities options)
      let outcomes ← outcomesFrom owner capabilities options (index + 1) rest
      return outcome :: outcomes

/-- Map the rows of a scan. A row that cannot be mapped does not stop it. -/
def mapRoutines (rows : List RowSource) (owner : Owner) (capabilities : Capabilities)
    (options : MappingOptions) : Logged (List RowOutcome) := do
  let outcomes ← outcomesFrom owner capabilities options 0 rows
  Logged.note (.scanned (outcomes.filter RowOutcome.isMapped).length outcomes.length)
  return outcomes

end Syscat
