/-
Module: Syscat.Code.Lookup
Purpose: Looking a column's value up in a code table. An unknown code is a failure and never a default.
Main exports: CatalogCode.lookup
-/
import Syscat.Code
import Syscat.Failure

namespace Syscat

namespace CatalogCode

/-- The failure to find a value in a code table. -/
def unknown (α : Type) [CatalogCode α] (column : String) (value : Value) : Failure :=
  Failure.ofProblem (.unknownLiteral (title α) column value)

/-- The member that stands for a value. Null and the empty text stand for none. -/
def lookup {α : Type} [CatalogCode α] (column : String) : Value → Except Failure (Option α)
  | .null => .ok none
  | .text s =>
      if s = "" then .ok none
      else
        match ofLiteral? s with
        | some m => .ok (some m)
        | none => .error (unknown α column (.text s))
  | v =>
      match v.unhashable? with
      | some type => .error (.unhashable type)
      | none => .error (unknown α column v)

/-- The member that stands for a column's text. -/
def lookupText {α : Type} [CatalogCode α] (column : String) (raw : Option String) :
    Except Failure (Option α) :=
  lookup column ((raw.map Value.text).getD .null)

end CatalogCode

end Syscat
