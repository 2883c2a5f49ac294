/-
Module: Syscat.Json.Writer
Purpose: Documents in JSON: every item and every field on a line of its own, four blanks deeper than what
  it belongs to, and nothing but visible ASCII characters, blanks and line ends.
Main exports: Json.write, Json.quote
-/
import Syscat.Document
import Syscat.Text.Hex

namespace Syscat.Json

/-! ### Texts

A character that is not visible ASCII is escaped by the UTF-16 units that it consists of. -/

/-- The escape of a UTF-16 unit. -/
def unitEscape (unit : Nat) : List Char :=
  '\\' :: 'u' :: hexText 4 unit

/-- The escape of a character by its UTF-16 units: one, or a pair of surrogates above U+FFFF. -/
def charEscape (n : Nat) : List Char :=
  if n < 0x10000 then unitEscape n
  else unitEscape (0xD800 + (n - 0x10000) / 0x400) ++ unitEscape (0xDC00 + (n - 0x10000) % 0x400)

/-- A character inside quotation marks. -/
def quotedChar (c : Char) : List Char :=
  if c == '\x22' || c == '\\' then ['\\', c]
  else if c == '\n' then ['\\', 'n']
  else if c == '\r' then ['\\', 'r']
  else if c == '\t' then ['\\', 't']
  else if c == '\x0c' then ['\\', 'f']
  else if c == '\x08' then ['\\', 'b']
  else if 32 ≤ c.toNat ∧ c.toNat < 127 then [c]
  else charEscape c.toNat

/-- A text in quotation marks. -/
def quote (s : List Char) : List Char :=
  '\x22' :: (s.flatMap quotedChar ++ ['\x22'])

/-! ### Trees -/

/-- A line end and the blanks in front of what stands `depth` levels deep. -/
def lineStart (depth : Nat) : List Char :=
  '\n' :: List.replicate (4 * depth) ' '

/-- Parts in brackets, each on a line of its own with commas between them. Without parts the brackets
stand together. -/
def bracketed (opening closing : Char) (depth : Nat) (parts : List (List Char)) : List Char :=
  if parts.isEmpty then [opening, closing]
  else
    let lines := parts.map fun part => lineStart (depth + 1) ++ part
    opening :: ([','].intercalate lines ++ lineStart depth ++ [closing])

mutual

/-- A tree that stands `depth` levels deep. -/
def render (depth : Nat) : Document → Except WriteFailure (List Char)
  | .null => .ok "null".toList
  | .flag b => .ok (if b then "true".toList else "false".toList)
  | .integer n => integerDigits n
  | .text s => .ok (quote s.toList)
  | .list items => (renderItems (depth + 1) items).map (bracketed '[' ']' depth)
  | .record fields => (renderFields (depth + 1) fields).map (bracketed '\x7b' '\x7d' depth)

/-- The items of a list. -/
def renderItems (depth : Nat) : List Document → Except WriteFailure (List (List Char))
  | [] => .ok []
  | d :: rest => do
      let part ← render depth d
      let parts ← renderItems depth rest
      return part :: parts

/-- The fields of a record, each with its name. -/
def renderFields (depth : Nat) : List (String × Document) → Except WriteFailure (List (List Char))
  | [] => .ok []
  | (name, d) :: rest => do
      let part ← render depth d
      let parts ← renderFields depth rest
      return (quote name.toList ++ ':' :: ' ' :: part) :: parts

end

/-- A document in JSON. -/
def write (d : Document) : Except WriteFailure String :=
  (render 0 d).map String.ofList

end Syscat.Json
