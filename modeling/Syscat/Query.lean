/-
Module: Syscat.Query
Purpose: The catalog views and the queries over them: which columns are read, under which conditions and
  in which order. A query has a statement with parameters, and an answer on given rows.
Main exports: CatalogView, routineView, parameterView, routineColumns, Condition, Query, Query.statement,
  Query.parameters, selectRoutines, selectParameters
-/
import Syscat.Capability
import Syscat.Container.Resolution
import Syscat.Routine

namespace Syscat

/-- A view of the catalog with its columns in order. -/
structure CatalogView where
  name : String
  columns : List String
deriving DecidableEq, Repr, Inhabited

/-- The view of routines. -/
def routineView : CatalogView where
  name := "ROUTINES"
  columns := [
    "ROUTINESCHEMA", "ROUTINEMODULENAME", "ROUTINENAME", "SPECIFICNAME", "ROUTINEID", "ROUTINETYPE",
    "FUNCTIONTYPE", "ORIGIN", "LANGUAGE", "OWNER", "OWNERTYPE", "CREATE_TIME", "ALTER_TIME",
    "LAST_REGEN_TIME", "TEXT", "REMARKS", "RESULT_SETS", "PARAMETER_STYLE", "DETERMINISTIC",
    "IMPLEMENTATION", "DEBUG_MODE", "JAR_ID", "JARSCHEMA", "JAR_SIGNATURE", "CLASS", "VALID", "DIALECT"]

/-- The view of parameters. -/
def parameterView : CatalogView where
  name := "ROUTINEPARMS"
  columns := [
    "ROUTINESCHEMA", "SPECIFICNAME", "PARMNAME", "ORDINAL", "ROWTYPE", "TYPESCHEMA", "TYPENAME",
    "LENGTH", "SCALE", "CODEPAGE", "LOCATOR", "DEFAULT", "REMARKS"]

/-- The feature that a column of the view of routines belongs to. -/
def Feature.ofColumn? : String → Option Feature
  | "OWNERTYPE" => some .ownerType
  | "DIALECT" => some .dialect
  | "FUNCTIONTYPE" => some .functionSubtype
  | _ => none

/-- Whether a server provides a column. -/
def Capabilities.provides (c : Capabilities) (column : String) : Bool :=
  ((Feature.ofColumn? column).map c.supports).getD true

/-- The columns of the view of routines that a server provides. -/
def routineColumns (c : Capabilities) : List String :=
  routineView.columns.filter c.provides

/-- A condition on a row. -/
inductive Condition where
  | equals (column value : String)
  | isNull (column : String)
deriving DecidableEq, Repr, Inhabited

/-- A query over a view. -/
structure Query where
  view : CatalogView
  columns : List String
  conditions : List Condition
  order : List String
deriving DecidableEq, Repr, Inhabited

/-! ### Statement -/

/-- An identifier between double quotation marks. -/
def delimited (name : String) : String :=
  "\x22" ++ name ++ "\x22"

/-- A view with its schema. -/
def CatalogView.reference (view : CatalogView) : String :=
  delimited "SYSCAT" ++ "." ++ delimited view.name

/-- A column with its view. -/
def CatalogView.columnReference (view : CatalogView) (column : String) : String :=
  view.reference ++ "." ++ delimited column

/-- The name of the parameter that a column is compared with. -/
def parameterName (column : String) : String :=
  column ++ "_1"

namespace Condition

/-- A condition as it stands in a statement. -/
def clause (view : CatalogView) : Condition → String
  | equals column _ => view.columnReference column ++ " = :" ++ parameterName column
  | isNull column => view.columnReference column ++ " IS NULL"

/-- The parameter of a condition. -/
def parameter? : Condition → Option (String × String)
  | equals column value => some (parameterName column, value)
  | isNull _ => none

end Condition

namespace Query

/-- The statement of a query. -/
def statement (q : Query) : String :=
  let columns := ", ".intercalate (q.columns.map q.view.columnReference)
  let conditions :=
    if q.conditions.isEmpty then ""
    else " \nWHERE " ++ " AND ".intercalate (q.conditions.map (Condition.clause q.view))
  let order := ", ".intercalate (q.order.map q.view.columnReference)
  "SELECT " ++ columns ++ " \nFROM " ++ q.view.reference ++ conditions ++ " ORDER BY " ++ order

/-- The parameters of a query's statement. -/
def parameters (q : Query) : List (String × String) :=
  q.conditions.filterMap Condition.parameter?

end Query

/-! ### The queries of the catalog -/

/-- The conditions that pick a container's routines: those of a module have its name, and those of a
schema belong to no module. -/
def Container.conditions (c : Container) (schema : Schema) : List Condition :=
  let inSchema := Condition.equals "ROUTINESCHEMA" schema.name.val
  match c with
  | .schema _ => [inSchema, .isNull "ROUTINEMODULENAME"]
  | .module m => [inSchema, .equals "ROUTINEMODULENAME" m.name.val]

/-- The query for all routines that meet some conditions. -/
def routineQuery (c : Capabilities) (conditions : List Condition) : Query where
  view := routineView
  columns := routineColumns c
  conditions := conditions
  order := ["ROUTINENAME", "SPECIFICNAME"]

/-- The query for the routines of an owner, or for all routines if the owner is null. -/
def selectRoutines (c : Capabilities) (owner : Owner) : Except Failure Query :=
  match owner, owner.schema? with
  | .other .null, _ => .ok (routineQuery c [])
  | .container container, some schema => .ok (routineQuery c (container.conditions schema))
  | owner, _ => owner.unresolved

/-- The name that identifies a routine among those of its schema: the specific name, or the routine's
own name where that is missing. -/
def Routine.lookupName (r : Routine) : String :=
  match r.specificName with
  | some name => if name = "" then r.name.val else name
  | none => r.name.val

/-- The query for the parameters of a routine. -/
def selectParameters (r : Routine) : Query where
  view := parameterView
  columns := parameterView.columns
  conditions := [
    .equals "ROUTINESCHEMA" r.effectiveSchema.name.val, .equals "SPECIFICNAME" r.lookupName]
  order := ["ORDINAL"]

end Syscat
