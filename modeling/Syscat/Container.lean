/-
Module: Syscat.Container
Purpose: Schemas and modules, which own routines, and the schema that effectively contains a routine.
Main exports: Schema, Module, Container, Owner, Owner.schema?, Owner.chain?
-/
import Syscat.Record

namespace Syscat

/-- A schema, which owns routines directly. -/
structure Schema where
  name : FilledText
deriving DecidableEq, Repr, Inhabited

/-- A module. A module that is not part of a schema cannot be used to look routines up. -/
structure Module where
  name : FilledText
  schema : Option Schema
deriving DecidableEq, Repr, Inhabited

/-- What a routine may belong to. -/
inductive Container where
  | schema (s : Schema)
  | module (m : Module)
deriving DecidableEq, Repr, Inhabited

/-- What a caller names as the owner of routines: a container, or any other value by mistake. -/
inductive Owner where
  | container (c : Container)
  | other (v : Value)
deriving Repr

instance : Inhabited Owner := ⟨.other .null⟩

namespace Schema

/-- The literal form of a schema. -/
def literal (s : Schema) : String :=
  "SchemaContainer(name=" ++ quotedText s.name.val ++ ")"

/-- Check the fields of a schema. -/
def check (fields : Fields) : Checked Schema :=
  (requiredField fields "name" checkFilledText).map Schema.mk

/-- Check a value that is to be a schema. -/
def checkValue : Value → Checked Schema
  | .table entries => check (Fields.ofEntries entries)
  | _ => Checked.fail (.notRecord "SchemaContainer")

end Schema

namespace Module

/-- The literal form of a module. -/
def literal (m : Module) : String :=
  "ModuleContainer(name=" ++ quotedText m.name.val ++ ", parent_schema="
    ++ (m.schema.map Schema.literal).getD "None" ++ ")"

/-- Check the fields of a module. -/
def check (fields : Fields) : Checked Module :=
  Checked.map Module.mk (requiredField fields "name" checkFilledText)
    |>.both (optionalField fields "parent_schema" none (checkOptional Schema.checkValue))

/-- Check a value that is to be a module. -/
def checkValue : Value → Checked Module
  | .table entries => check (Fields.ofEntries entries)
  | _ => Checked.fail (.notRecord "ModuleContainer")

end Module

namespace Container

/-- The literal form of a container. -/
def literal : Container → String
  | schema s => s.literal
  | module m => m.literal

/-- The schema that effectively contains the routines of a container. -/
def schema? : Container → Option Schema
  | schema s => some s
  | module m => m.schema

/-- The names from the schema down to the container itself. -/
def chain? : Container → Option (List String)
  | schema s => some [s.name.val]
  | module m => m.schema.map fun s => [s.name.val, m.name.val]

/-- Check a value that is to be a container. A table that fits both kinds becomes a module only if it
says something about the module's schema. -/
def checkValue (v : Value) : Checked Container :=
  let asSchema := Checked.within "SchemaContainer" (Schema.checkValue v)
  let asModule := Checked.within "ModuleContainer" (Module.checkValue v)
  let hasSchemaField :=
    match v with
    | .table entries => (Value.entry? "parent_schema" entries).isSome
    | _ => false
  match asSchema, asModule with
  | .ok s, .ok m => Checked.ok (if hasSchemaField then .module m else .schema s)
  | .ok s, .error _ => Checked.ok (.schema s)
  | .error _, .ok m => Checked.ok (.module m)
  | .error faults, .error more => Except.error (faults ++ more)

end Container

namespace Owner

/-- The literal form of an owner. -/
def literal? : Owner → Option String
  | container c => some c.literal
  | other v => v.literal?

/-- The schema that effectively contains the routines of an owner. -/
def schema? : Owner → Option Schema
  | container c => c.schema?
  | other _ => none

/-- The names from the schema down to the owner itself. -/
def chain? : Owner → Option (List String)
  | container c => c.chain?
  | other _ => none

end Owner

end Syscat
