/-
Module: Syscat.Code
Purpose: The code tables of the catalog. Each table assigns a name and a label for display to the short
  codes that a column stores.
Main exports: CatalogCode, RoutineKind, FunctionSubtype, RoutineOrigin, RoutineLanguage, OwnerType,
  ValidityState, ParameterMode, CatalogCode.ofLiteral?, ProcedureType, ObjectState
-/

namespace Syscat

/-- A table of codes: its title, its members in order, and for each member a name, the code that the
catalog stores for it, if there is one, and a label. -/
class CatalogCode (α : Type) where
  title : String
  members : List α
  name : α → String
  literal? : α → Option String
  label : α → String

/-- `SYSCAT.ROUTINES.ROUTINETYPE` -/
inductive RoutineKind where
  | function
  | method
  | procedure
deriving DecidableEq, Repr, Inhabited

/-- `SYSCAT.ROUTINES.FUNCTIONTYPE` -/
inductive FunctionSubtype where
  | columnOrAggregate
  | row
  | scalar
  | table
deriving DecidableEq, Repr, Inhabited

/-- `SYSCAT.ROUTINES.ORIGIN` -/
inductive RoutineOrigin where
  | builtIn
  | outside
  | federated
  | template
  | sqlBodied
  | systemGenerated
  | systemGeneratedSql
  | systemTransform
  | sourced
deriving DecidableEq, Repr, Inhabited

/-- `SYSCAT.ROUTINES.LANGUAGE`, which is padded with blanks -/
inductive RoutineLanguage where
  | c
  | clr
  | cobol
  | java
  | ole
  | oleDb
  | sql
deriving DecidableEq, Repr, Inhabited

/-- `SYSCAT.ROUTINES.OWNERTYPE` -/
inductive OwnerType where
  | system
  | user
deriving DecidableEq, Repr, Inhabited

/-- `SYSCAT.ROUTINES.VALID` -/
inductive ValidityState where
  | valid
  | invalid
  | inoperative
  | unknown
deriving DecidableEq, Repr, Inhabited

/-- `SYSCAT.ROUTINEPARMS.ROWTYPE` -/
inductive ParameterMode where
  | input
  | output
  | inputOutput
  | resultCast
  | result
deriving DecidableEq, Repr, Inhabited

instance : CatalogCode RoutineKind where
  title := "RoutineKind"
  members := [.function, .method, .procedure]
  name
    | .function => "FUNCTION"
    | .method => "METHOD"
    | .procedure => "PROCEDURE"
  literal?
    | .function => some "F"
    | .method => some "M"
    | .procedure => some "P"
  label
    | .function => "Function"
    | .method => "Method"
    | .procedure => "Procedure"

instance : CatalogCode FunctionSubtype where
  title := "FunctionSubtype"
  members := [.columnOrAggregate, .row, .scalar, .table]
  name
    | .columnOrAggregate => "COLUMN_OR_AGGREGATE"
    | .row => "ROW"
    | .scalar => "SCALAR"
    | .table => "TABLE"
  literal?
    | .columnOrAggregate => some "C"
    | .row => some "R"
    | .scalar => some "S"
    | .table => some "T"
  label
    | .columnOrAggregate => "Column or aggregate"
    | .row => "Row"
    | .scalar => "Scalar"
    | .table => "Table"

instance : CatalogCode RoutineOrigin where
  title := "RoutineOrigin"
  members := [.builtIn, .outside, .federated, .template, .sqlBodied, .systemGenerated,
    .systemGeneratedSql, .systemTransform, .sourced]
  name
    | .builtIn => "BUILT_IN"
    | .outside => "EXTERNAL"
    | .federated => "FEDERATED"
    | .template => "TEMPLATE"
    | .sqlBodied => "SQL_BODIED"
    | .systemGenerated => "SYSTEM_GENERATED"
    | .systemGeneratedSql => "SYSTEM_GENERATED_SQL"
    | .systemTransform => "SYSTEM_TRANSFORM"
    | .sourced => "SOURCED"
  literal?
    | .builtIn => some "B"
    | .outside => some "E"
    | .federated => some "F"
    | .template => some "M"
    | .sqlBodied => some "Q"
    | .systemGenerated => some "R"
    | .systemGeneratedSql => some "S"
    | .systemTransform => some "T"
    | .sourced => some "U"
  label
    | .builtIn => "Built-in"
    | .outside => "User-defined, external"
    | .federated => "Federated procedure"
    | .template => "Template function"
    | .sqlBodied => "SQL-bodied"
    | .systemGenerated => "System-generated"
    | .systemGeneratedSql => "System-generated"
    | .systemTransform => "System-generated transform"
    | .sourced => "User-defined, based on a source"

instance : CatalogCode RoutineLanguage where
  title := "RoutineLanguage"
  members := [.c, .clr, .cobol, .java, .ole, .oleDb, .sql]
  name
    | .c => "C"
    | .clr => "CLR"
    | .cobol => "COBOL"
    | .java => "JAVA"
    | .ole => "OLE"
    | .oleDb => "OLEDB"
    | .sql => "SQL"
  literal?
    | .c => some "C"
    | .clr => some "CLR"
    | .cobol => some "COBOL"
    | .java => some "JAVA"
    | .ole => some "OLE"
    | .oleDb => some "OLEDB"
    | .sql => some "SQL"
  label
    | .c => "C"
    | .clr => "Common Language Runtime"
    | .cobol => "COBOL"
    | .java => "Java"
    | .ole => "OLE"
    | .oleDb => "OLE DB"
    | .sql => "SQL"

instance : CatalogCode OwnerType where
  title := "OwnerType"
  members := [.system, .user]
  name
    | .system => "SYSTEM"
    | .user => "USER"
  literal?
    | .system => some "S"
    | .user => some "U"
  label
    | .system => "System"
    | .user => "User"

instance : CatalogCode ValidityState where
  title := "ValidityState"
  members := [.valid, .invalid, .inoperative, .unknown]
  name
    | .valid => "VALID"
    | .invalid => "INVALID"
    | .inoperative => "INOPERATIVE"
    | .unknown => "UNKNOWN"
  literal?
    | .valid => some "Y"
    | .invalid => some "N"
    | .inoperative => some "X"
    | .unknown => none
  label
    | .valid => "Valid"
    | .invalid => "Invalid"
    | .inoperative => "Inoperative"
    | .unknown => "Unknown"

instance : CatalogCode ParameterMode where
  title := "ParameterMode"
  members := [.input, .output, .inputOutput, .resultCast, .result]
  name
    | .input => "IN"
    | .output => "OUT"
    | .inputOutput => "INOUT"
    | .resultCast => "RESULT_CAST"
    | .result => "RESULT"
  literal?
    | .input => some "P"
    | .output => some "O"
    | .inputOutput => some "B"
    | .resultCast => some "C"
    | .result => some "R"
  label
    | .input => "In"
    | .output => "Out"
    | .inputOutput => "In/Out"
    | .resultCast => "Result after casting"
    | .result => "Result before casting"

namespace CatalogCode

/-- The member that the catalog stores a code for. -/
def ofLiteral? {α : Type} [CatalogCode α] (s : String) : Option α :=
  (members : List α).find? fun m => literal? m == some s

/-- The table of codes, in the order of the members. -/
def literalTable (α : Type) [CatalogCode α] : List (String × α) :=
  (members : List α).filterMap fun m => (literal? m).map (·, m)

end CatalogCode

/-- The two sorts of routines that a statement can invoke. -/
inductive ProcedureType where
  | procedure
  | function
deriving DecidableEq, Repr, Inhabited

/-- The state of a catalog object. -/
inductive ObjectState where
  | normal
  | unknown
deriving DecidableEq, Repr, Inhabited

/-- Functions are invoked as functions, methods and procedures as procedures. -/
def RoutineKind.procedureType : RoutineKind → ProcedureType
  | .function => .function
  | .method => .procedure
  | .procedure => .procedure

/-- The name of a sort of routines. -/
def ProcedureType.name : ProcedureType → String
  | .procedure => "PROCEDURE"
  | .function => "FUNCTION"

/-- The name of a state. -/
def ObjectState.name : ObjectState → String
  | .normal => "NORMAL"
  | .unknown => "UNKNOWN"

end Syscat
