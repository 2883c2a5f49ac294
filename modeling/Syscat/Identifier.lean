/-
Module: Syscat.Identifier
Purpose: SQL identifiers as they stand in statements, and the qualified name of a routine.
Main exports: isOrdinaryIdentifier, quoteIdentifier, qualifiedName, Owner.qualifiedName?, quotedValue,
  Owner.qualify
-/
import Syscat.Container.Resolution
import Syscat.Text.Part

namespace Syscat

/-- The characters that an identifier without delimiters begins with. -/
def beginsIdentifier (c : Char) : Bool :=
  c.isUpper || c == '_'

/-- The characters that follow in an identifier without delimiters. -/
def continuesIdentifier (c : Char) : Bool :=
  beginsIdentifier c || c.isDigit || c == '$' || c == '#' || c == '@'

/-- An ordinary identifier stands without delimiters: the catalog stores it in upper case. A line end
behind it does no harm. -/
def isOrdinaryIdentifier : List Char → Bool
  | [] => false
  | c :: rest => beginsIdentifier c && (withoutLineEnd rest).all continuesIdentifier

/-- The double quotation mark that delimits an identifier. -/
def delimiter : Char := '\x22'

/-- The text with every delimiter in it written twice. -/
def doubleDelimiters (s : List Char) : List Char :=
  s.flatMap fun c => if c == delimiter then [delimiter, delimiter] else [c]

/-- An identifier as it stands in a statement. -/
def quoteIdentifier (s : List Char) : List Char :=
  if isOrdinaryIdentifier s then s
  else delimiter :: (doubleDelimiters s ++ [delimiter])

/-- The text form of `quoteIdentifier`. -/
def quotedIdentifier (s : String) : String :=
  String.ofList (quoteIdentifier s.toList)

/-- The identifiers of a chain of names, joined by points. -/
def qualifiedName (chain : List String) : String :=
  ".".intercalate (chain.map quotedIdentifier)

/-- The qualified name of a routine of an owner, if that belongs to a schema. -/
def Owner.qualifiedName? (owner : Owner) (routine : String) : Option String :=
  owner.chain?.map fun chain => qualifiedName (chain ++ [routine])

/-- A value as an identifier. Only texts are identifiers. -/
def quotedValue : Value → Except Failure String
  | .text s => .ok (quotedIdentifier s)
  | v => .error (.notText v)

/-- The qualified name of a routine that is given as any value. The owner has to belong to a schema before
the routine's name matters. -/
def Owner.qualify (owner : Owner) (routine : Value) : Except Failure String := do
  let chain ← owner.chain
  match routine with
  | .text s => return qualifiedName (chain ++ [s])
  | v => .error (.notText v)

end Syscat
