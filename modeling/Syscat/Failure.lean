/-
Module: Syscat.Failure
Purpose: Everything that the operations of this library can fail with, and the messages.
Main exports: MappingProblem, MappingError, SettingsProblem, Failure, Failure.message?, Failure.ofProblem
-/
import Syscat.Container
import Syscat.Document
import Syscat.Document.ReadFailure
import Syscat.Signal

namespace Syscat

/-- Why a row cannot be mapped. -/
inductive MappingProblem where
  /-- A column holds a code that its table does not have. -/
  | unknownLiteral (table column : String) (value : Value)
  | unresolvable (owner : Owner)
  /-- A column that a row of this sort must have is absent, null or empty. -/
  | missingColumn (sort column : String)
  | unsupportedRow (row : Value)
  /-- The fields of the row with this routine name do not make up a routine. -/
  | rejected (name : String) (faults : List FieldFault)
  /-- The naming rule failed. -/
  | namingRaised (name : String) (signal : Signal)
  /-- The naming rule gave something other than a text that is not empty. -/
  | namingReturned (name : String) (value : Value)
deriving Repr

/-- A row that cannot be mapped, and the name of its routine as far as that was known. -/
structure MappingError where
  problem : MappingProblem
  rowName : Option String
deriving Repr

/-- Why a file gives no settings. -/
inductive SettingsProblem where
  | unreadable (cause : ReadFailure)
  | notTable
  | rejected (faults : List FieldFault)
deriving Repr

/-- What an operation fails with. -/
inductive Failure where
  /-- A caller's code signalled it. -/
  | signalled (signal : Signal)
  /-- An integer has too many digits to be printed. -/
  | longInteger
  | version (e : VersionError)
  /-- A value stands where a text has to stand. -/
  | notText (value : Value)
  /-- A value cannot be looked up in a table because of a type in it. -/
  | unhashable (type : String)
  | unsupportedRow (row : Value)
  | fields (faults : List FieldFault)
  | mapping (e : MappingError)
  | definitionFormat (format : Value)
  | documentFormat
  /-- A document cannot be written: the list or text at hand ended too early. -/
  | unwritable (sequence : String)
  | unreadable (cause : ReadFailure)
  | settings (path : String) (problem : SettingsProblem)
  | notIterable (value : Value)
  /-- The end of a sequence was signalled where it would be mistaken for the end of the caller's own. -/
  | exhausted (place : String)
  /-- The children of an object were requested while they were being fetched. -/
  | reentered (owner : Value)
  /-- The children of an object were requested under a lock that the same thread holds. -/
  | deadlocked (owner : Value)
  | fetch (owner : Value) (cause : Failure)
  | refresh (name : String) (cause : Failure)
deriving Repr

instance : Inhabited Failure := ⟨.longInteger⟩

namespace MappingProblem

/-- The short name of a mapping problem. -/
def code : MappingProblem → String
  | unknownLiteral _ _ _ => "unknown_enum_literal"
  | unresolvable _ => "unresolvable_container"
  | missingColumn _ _ => "missing_required_column"
  | unsupportedRow _ => "invalid_row"
  | rejected _ _ => "invalid_row"
  | namingRaised _ _ => "naming_failed"
  | namingReturned _ _ => "naming_failed"

/-- The column at fault, if there is one. -/
def column? : MappingProblem → Option String
  | unknownLiteral _ column _ => some column
  | missingColumn _ column => some column
  | _ => none

/-- What is at fault: a value or an owner, and null if nothing is to be named. -/
def subject : MappingProblem → Owner
  | unknownLiteral _ _ value => .other value
  | unresolvable owner => owner
  | missingColumn _ _ => .other .null
  | unsupportedRow row => .other row
  | rejected _ _ => .other .null
  | namingRaised name _ => .other (.text name)
  | namingReturned _ value => .other value

/-- The message of a mapping problem, if the values in it have a literal form. -/
def message? : MappingProblem → Option String
  | unknownLiteral table column value => do
      return "Unknown " ++ table ++ " literal " ++ (← value.literal?) ++ " in column " ++ column
  | unresolvable owner => do
      return "Cannot resolve a schema from container " ++ (← owner.literal?)
  | missingColumn sort column => some (sort ++ " row has no " ++ column)
  | unsupportedRow row => some ("Unsupported row type: " ++ row.typeName)
  | rejected name faults =>
      some ("Catalog row " ++ quotedText name ++ " rejected: " ++ toString faults.length
        ++ " invalid field(s)")
  | namingRaised name signal => do
      return "Naming function failed for " ++ quotedText name ++ ": " ++ (← signal.message?)
  | namingReturned name value => do
      return "Naming function returned " ++ (← value.literal?) ++ " for " ++ quotedText name

end MappingProblem

/-- The reason why a file gives no settings. -/
def SettingsProblem.message : SettingsProblem → String
  | unreadable cause => cause.message
  | notTable => "settings must be a mapping"
  | rejected faults => toString faults.length ++ " invalid field(s)"

namespace Failure

/-- The failure to write a document. -/
def ofWrite : WriteFailure → Failure
  | .longInteger => longInteger
  | .pastEnd sequence => unwritable sequence

/-- The failure of an operation that meets a mapping problem. A problem that cannot be put into words
because of an integer's length gives way to that. -/
def ofProblem (problem : MappingProblem) : Failure :=
  match problem.message? with
  | some _ => .mapping ⟨problem, none⟩
  | none => .longInteger

/-- The message of an integer that has too many digits to be printed. -/
def longIntegerMessage : String :=
  "Exceeds the limit (" ++ toString digitLimit
    ++ " digits) for integer string conversion; use sys.set_int_max_str_digits() to increase the limit"

/-- The message of a failure, if the values in it have a text. -/
def message? : Failure → Option String
  | signalled signal => signal.message?
  | longInteger => some longIntegerMessage
  | version e => some e.message
  | notText value => some value.notTextMessage
  | unhashable type => some ("unhashable type: \x27" ++ type ++ "\x27")
  | unsupportedRow row => some ("Unsupported row type: " ++ row.typeName)
  | fields faults => some (toString faults.length ++ " invalid field(s)")
  | mapping e => e.problem.message?
  | definitionFormat format => do
      return "Unsupported definition format: " ++ (← format.literal?)
  | documentFormat =>
      some "Unsupported format. Choose \x27json\x27, \x27yaml\x27, or \x27toml\x27."
  | unwritable sequence => some (sequence ++ " index out of range")
  | unreadable cause => some cause.message
  | settings path problem => some ("Invalid mapper settings in " ++ path ++ ": " ++ problem.message)
  | notIterable value => some ("\x27" ++ value.qualifiedTypeName ++ "\x27 object is not iterable")
  | exhausted place => some (place ++ " raised StopIteration")
  | reentered owner => do
      return "Failed to fetch parameters of " ++ (← owner.text?)
        ++ ": children requested again while being fetched"
  | deadlocked owner => do
      return "Deadlock on the children of " ++ (← owner.text?)
  | fetch owner cause => do
      return "Failed to fetch parameters of " ++ (← owner.text?) ++ ": " ++ (← cause.message?)
  | refresh name cause => do
      return "Failed to refresh " ++ name ++ ": " ++ (← cause.message?)

/-- The message of a failure. Failures are only built from values that have a text. -/
def message (f : Failure) : String :=
  (f.message?).getD ""

/-- A failure under the failure that a caller learns of, given how that is built from it. A failure that
cannot be put into words because of an integer's length gives way to that. -/
def wrapped (cause : Failure) (wrap : Failure → Failure) : Failure :=
  match cause.message? with
  | some _ => wrap cause
  | none => .longInteger

/-- A failure that leaves a place where the end of a sequence has a meaning of its own. -/
def leaving (place : String) : Failure → Failure
  | signalled (.raised .exhausted _) => exhausted place
  | failure => failure

/-- Requests to stop are no ordinary failures; everything else is. -/
def ordinary : Failure → Bool
  | signalled signal => signal.ordinary
  | _ => true

/-- Failures to fetch the children of an object. They are passed on as they are. -/
def isFetchFailure : Failure → Bool
  | signalled (.fetch _ _) => true
  | reentered _ => true
  | fetch _ _ => true
  | _ => false

/-- A printed text, or the failure to print it. -/
def printed (text? : Option String) : Except Failure String :=
  match text? with
  | some text => .ok text
  | none => .error .longInteger

end Failure

end Syscat
