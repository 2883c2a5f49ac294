/-
Module: Syscat.Toml.Writer
Purpose: Lists of records in TOML, as an array of tables. The simple fields of a table come first, the
  tables inside it after a blank line, those of the first level before those of the second.
Main exports: Toml.writeTables, Toml.quote
-/
import Syscat.Document
import Syscat.Text.Quoted

namespace Syscat.Toml

/-! ### Texts

A text is quoted as in messages and then fitted to double quotation marks. The two-digit escapes, which
TOML does not have, are rejoined piece by piece: with a four-digit escape if the piece before ends in a
backslash that escapes nothing, and otherwise without the backslash. In a piece so joined pairs of
backslashes become single ones. Texts with such escapes are therefore not always kept, and some of them
cannot be written. -/

/-- Replace a pair of characters. -/
def replacePair (a b : Char) (substitute : List Char) : List Char → List Char
  | x :: y :: rest =>
      if x == a && y == b then substitute ++ replacePair a b substitute rest
      else x :: replacePair a b substitute (y :: rest)
  | s => s

/-- The pieces of a text between the occurrences of a pair of characters. -/
def splitOnPair (a b : Char) : List Char → List (List Char)
  | x :: y :: rest =>
      if x == a && y == b then [] :: splitOnPair a b rest
      else
        match splitOnPair a b (y :: rest) with
        | [] => [[x]]
        | piece :: pieces => (x :: piece) :: pieces
  | s => [s]

/-- What joins a piece to the next one, which begins with two hexadecimal digits. -/
def joint (piece : List Char) : List Char :=
  let backslashes := (piece.reverse.takeWhile (· == '\\')).length
  let plain := if backslashes < piece.length then backslashes = 0 ∨ backslashes % 2 = 1
    else backslashes % 2 = 0
  if plain then ['x'] else ['u', '0', '0']

/-- Join the pieces `rest` to the text `head`. An empty piece is dropped, and the next one has to have
something behind it. -/
def joinPieces (head : List Char) : List (List Char) → Except WriteFailure (List Char)
  | [] => .ok head
  | next :: rest =>
      if head.isEmpty then
        let piece := replacePair '\\' '\\' ['\\'] next
        if piece.isEmpty then .error (.pastEnd "string")
        else
          match rest with
          | [] => .error (.pastEnd "list")
          | second :: rest => joinPieces (piece ++ joint piece ++ second) rest
      else
        let piece := replacePair '\\' '\\' ['\\'] head
        joinPieces (piece ++ joint piece ++ next) rest

/-- The inside of the quoted form of a text, fitted to double quotation marks. -/
def quotedBody (s : List Char) : List Char :=
  let body := (quoted s).tail.dropLast
  if quoteMark s == '\x27' then
    (replacePair '\\' '\x27' ['\x27'] body).flatMap fun c => if c == '\x22' then ['\\', '\x22'] else [c]
  else body

/-- A text in double quotation marks. -/
def quote (s : List Char) : Except WriteFailure (List Char) :=
  match splitOnPair '\\' 'x' (quotedBody s) with
  | [] => .ok ['\x22', '\x22']
  | head :: rest => do
      let body ← joinPieces head rest
      return '\x22' :: (body ++ ['\x22'])

/-! ### Tables -/

/-- A character that a name may hold without quotation marks. -/
def isBare (c : Char) : Bool :=
  c.isAlphanum || c == '_' || c == '-'

/-- A name, in quotation marks if it needs them. -/
def nameText (name : String) : Except WriteFailure (List Char) :=
  if !name.isEmpty && name.toList.all isBare then .ok name.toList else quote name.toList

/-- The fields of a record. -/
abbrev TableFields := List (String × Document)

mutual

/-- The text of a simple value. A list stands on one line, with a comma behind every item; null and
records have no such text. -/
def simpleText? : Document → Option (Except WriteFailure (List Char))
  | .null => none
  | .flag b => some (.ok (if b then "true".toList else "false".toList))
  | .integer n => some (integerDigits n)
  | .text s => some (quote s.toList)
  | .list items => some ((itemTexts items).map fun parts => '[' :: (parts ++ [']']))
  | .record _ => none

/-- The texts of the simple items of a list. -/
def itemTexts : List Document → Except WriteFailure (List Char)
  | [] => .ok []
  | d :: rest =>
      match simpleText? d with
      | none => itemTexts rest
      | some text => do
          let part ← text
          let parts ← itemTexts rest
          return ' ' :: part ++ ',' :: parts

end

/-- The lines of the simple fields of a table. -/
def simpleLines : TableFields → Except WriteFailure (List Char)
  | [] => .ok []
  | (name, d) :: rest =>
      match simpleText? d with
      | none => simpleLines rest
      | some text => do
          let key ← nameText name
          let part ← text
          let lines ← simpleLines rest
          return key ++ " = ".toList ++ part ++ '\n' :: lines

/-- The tables among the fields of a table, with their paths below `path`. -/
def innerTables (path : List Char) : TableFields → Except WriteFailure (List (List Char × TableFields))
  | [] => .ok []
  | (name, .record fields) :: rest => do
      let key ← nameText name
      let tables ← innerTables path rest
      return (path ++ '.' :: key, fields) :: tables
  | _ :: rest => innerTables path rest

/-- The texts of the tables of one level, and the tables of the next. A table without simple fields is
not written itself. -/
def levelText : List (List Char × TableFields) →
    Except WriteFailure (List Char × List (List Char × TableFields))
  | [] => .ok ([], [])
  | (path, fields) :: rest => do
      let lines ← simpleLines fields
      let inner ← innerTables path fields
      let (text, next) ← levelText rest
      let own := if lines.isEmpty then [] else '[' :: (path ++ ']' :: '\n' :: lines)
      return (own ++ text, inner ++ next)

/-- The texts of the tables of a level and of all levels below it. -/
def levelTexts : Nat → List (List Char × TableFields) → Except WriteFailure (List Char)
  | 0, _ => .ok []
  | depth + 1, tables =>
      if tables.isEmpty then .ok []
      else do
        let (text, next) ← levelText tables
        let more ← levelTexts depth next
        return text ++ more

mutual

/-- How many levels of records a document has. -/
def levels : Document → Nat
  | .record fields => fieldLevels fields + 1
  | .list items => itemLevels items
  | _ => 0

/-- The most levels among some items. -/
def itemLevels : List Document → Nat
  | [] => 0
  | d :: rest => max (levels d) (itemLevels rest)

/-- The most levels among some fields. -/
def fieldLevels : List (String × Document) → Nat
  | [] => 0
  | (_, d) :: rest => max (levels d) (fieldLevels rest)

end

/-- One table of an array of tables. -/
def arrayTable (key : List Char) (fields : TableFields) : Except WriteFailure (List Char) := do
  let lines ← simpleLines fields
  let inner ← innerTables key fields
  let more ← levelTexts (fieldLevels fields) inner
  return "[[".toList ++ key ++ "]]\n".toList ++ lines ++ '\n' :: more

/-- The tables of an array of tables. -/
def arrayTables (key : List Char) : List TableFields → Except WriteFailure (List Char)
  | [] => .ok []
  | fields :: rest => do
      let table ← arrayTable key fields
      let tables ← arrayTables key rest
      return table ++ tables

/-- An array of tables as the only content of a document. An empty one is written as a list. -/
def writeTables (name : String) (tables : List TableFields) : Except WriteFailure String := do
  let key ← nameText name
  if tables.isEmpty then return String.ofList (key ++ " = []\n".toList)
  else return String.ofList (← arrayTables key tables)

end Syscat.Toml
