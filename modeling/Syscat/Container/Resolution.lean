/-
Module: Syscat.Container.Resolution
Purpose: The schema and the chain of names of an owner, or the failure of an owner that belongs to no
  schema.
Main exports: Owner.schema, Owner.chain
-/
import Syscat.Failure

namespace Syscat.Owner

/-- The failure of an owner that belongs to no schema. -/
def unresolved {α : Type} (owner : Owner) : Except Failure α :=
  .error (.ofProblem (.unresolvable owner))

/-- The schema that effectively contains the routines of an owner. -/
def schema (owner : Owner) : Except Failure Schema :=
  match owner.schema? with
  | some s => .ok s
  | none => owner.unresolved

/-- The names from the schema down to the owner itself. -/
def chain (owner : Owner) : Except Failure (List String) :=
  match owner.chain? with
  | some names => .ok names
  | none => owner.unresolved

end Syscat.Owner
