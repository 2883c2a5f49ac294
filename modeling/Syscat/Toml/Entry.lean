/-
Module: Syscat.Toml.Entry
Purpose: Values in TOML and the entries `name = value` that put them into tables.
Main exports: readValue, putEntry, putInline, Pending
-/
import Syscat.Toml.Simple
import Syscat.Toml.Text

namespace Syscat.Toml

/-- A text over several lines that is still open: the name it is for, what has been read of it, and
whether a backslash at its end joins the next line to it. -/
structure Pending where
  name : String
  text : List Char
  joined : Bool
deriving Repr, Inhabited

/-- How a text is read as a value of some kind. -/
abbrev ValueReader := List Char → Bool → Except ReadFailure (Value × Kind)

/-! ### Arrays -/

/-- Whether an array begins with a text. -/
def isTextArray (s : List Char) : Bool :=
  match strip (inside 1 s) with
  | c :: _ => c == '\x22' || c == '\x27'
  | [] => false

/-- Whether a text ends with the quotation mark that it begins with, and no backslash escapes that. -/
def isBounded : List Char → Bool
  | [] => true
  | first :: rest =>
      match (first :: rest).reverse with
      | [] => true
      | last :: front =>
          last == first && !oddBackslashes (front.take (rest.length - 1))

/-- Whether a text begins with three equal characters but does not end with three of them. -/
def isOpenTriple (s : List Char) : Bool :=
  match s, s.reverse with
  | a :: b :: c :: _, _ :: y :: z :: _ => a == b && a == c && y != a && z != a
  | _, _ => false

/-- Whether a part of an array is a complete text. -/
def isWholeText (part : List Char) : Bool :=
  isBounded (strip part) && !isOpenTriple (strip part)

/-- Join parts of an array to `part` until it is a complete text. -/
def joinText (part : List Char) : List (List Char) → Except ReadFailure (List (List Char))
  | [] => if isWholeText part then .ok [part] else .error (.pastEnd "list")
  | next :: rest =>
      if isWholeText part then
        match rest with
        | [] => .ok [part, next]
        | _ => (joinText next rest).map (part :: ·)
      else joinText (part ++ ',' :: next) rest

/-- The parts of an array of texts, given the parts between its commas. A comma inside a text does not
separate. The last part is taken as it is. -/
def textParts : List (List Char) → Except ReadFailure (List (List Char))
  | [] => .ok []
  | [part] => .ok [part]
  | part :: next :: rest => joinText part (next :: rest)

/-- The parts of an array of tables between braces, of which `depth` are open. What stands behind a
closing brace is passed over up to the next opening one, and the first character in any case. -/
def tableParts (depth : Int) (quotes : Bool) : Option (List Char) → Bool → List Char → List (List Char)
  | _, _, [] => []
  | none, true, _ :: rest => tableParts depth quotes none false rest
  | none, false, c :: rest =>
      if c == '\x7b' then tableParts depth quotes (some [c]) false rest
      else tableParts depth quotes none false rest
  | some part, _, c :: rest =>
      let turned := quotes && oddBackslashes part
      let quotes := if c == '\x22' || c == '\x27' then !(quotes != turned) else quotes
      let depth := if !quotes && c == '\x7b' then depth + 1 else depth
      if quotes || c != '\x7d' then tableParts depth quotes (some (c :: part)) false rest
      else if 1 < depth then tableParts (depth - 1) quotes (some (c :: part)) false rest
      else (c :: part).reverse :: tableParts depth quotes none true rest

/-- The parts of an array of arrays between the commas outside inner brackets. -/
def arrayParts (depth : Int) (part : List Char) : List Char → List (List Char)
  | [] => [part.reverse]
  | c :: rest =>
      if c == '[' then arrayParts (depth + 1) (c :: part) rest
      else if c == ']' then arrayParts (depth - 1) (c :: part) rest
      else if c == ',' && depth == 0 then part.reverse :: arrayParts depth [] rest
      else arrayParts depth (c :: part) rest

/-- The parts of an array, by the sort of its first item. -/
def itemParts (s : List Char) : Except ReadFailure (List (List Char)) :=
  let body := inside 1 s
  if !body.contains '[' || !(strip (body.takeWhile (· != '['))).isEmpty then
    if (strip body).head? == some '\x7b' then
      match body with
      | [] => .ok []
      | first :: rest => .ok (tableParts (if first == '\x7b' then 1 else 0) false
          (some [first]) false rest)
    else if isTextArray s then textParts (splitOn ',' body)
    else .ok (splitOn ',' body)
  else .ok (arrayParts 0 [] body)

/-- Read the items of an array from its parts. Empty parts are passed over, and the kinds of the others
are the same. -/
def readItems (read : ValueReader) (kind : Option Kind) :
    List (List Char) → Except ReadFailure (List Value)
  | [] => .ok []
  | part :: parts =>
      if (strip part).isEmpty then readItems read kind parts
      else do
        let (v, own) ← read (strip part) true
        if kind.any (· != own) then illFormed
        else return v :: (← readItems read (some own) parts)

/-- Read an array. -/
def readArray (read : ValueReader) (s : List Char) : Except ReadFailure Value := do
  return .list (← readItems read none (← itemParts (strip s)))

/-! ### Names and values of an entry -/

/-- The text in front of the equals sign with the number `count`, or in front of the last one, and the
text behind it. -/
def cutAtEquals (count : Nat) (s : List Char) : List Char × List Char :=
  let parts := splitOn '=' s
  let front := min count (parts.length - 1)
  (['='].intercalate (parts.take front), ['='].intercalate (parts.drop front))

/-- Drop the underscores of a text that begins with a digit. -/
def withoutUnderscores (s : List Char) : List Char :=
  if s.head?.any Char.isDigit then s.filter (· != '_') else s

/-- Whether a text behind an equals sign can be the value of an entry as it is. Otherwise the equals sign
belongs to the name. -/
def isValueStart (s : List Char) : Except ReadFailure Bool :=
  match s with
  | [] => .ok true
  | c :: _ =>
      if " \t\x27\x22[\x7b".toList.contains c || strip s == "true".toList
          || strip s == "false".toList || (Double.read? s).isSome then .ok true
      else do return (← readMoment? s).isSome || (clockDigits? s).isSome

/-- Find the value of an entry behind an equals sign, `count` being the number of the first that comes
into question, and say whether all texts tried on the way are strict numerals. -/
def findValue (line : List Char) : Nat → Nat → List Char → Bool →
    Except ReadFailure (List Char × List Char × Bool)
  | 0, _, _, _ => illFormed
  | fuel + 1, count, value, strict => do
      if ← isValueStart value then return ((cutAtEquals count line).1, value, strict)
      else
        let next := (cutAtEquals (count + 1) line).2
        if next == value then illFormed
        else findValue line fuel (count + 1) next (strict && isStrictNumeral next)

/-- The name and the value of an entry, without blanks around them, and whether the value is a strict
numeral if it is one at all. -/
def splitEntry (line : List Char) : Except ReadFailure (List Char × List Char × Bool) := do
  let occurs := fun (part : List Char) => part.count '='
  let count := 1 + countQuoted occurs false (splitOnQuotes line)
  let value := (cutAtEquals count line).2
  let (name, value, strict) ←
    findValue line (occurs line + 2) count (withoutUnderscores value) (isStrictNumeral value)
  return (strip name, strip value, strict)

/-- The parts of a name with points. Blanks around a part mean nothing if there are quotation marks
somewhere in the name. -/
def nameLevels (name : List Char) : List (List Char) :=
  if name.contains '\x22' || name.contains '\x27' then
    (alternate false (splitOnQuotes name)).flatMap fun (isQuoted, part) =>
      if isQuoted then [part] else (splitOn '.' part).map strip
  else splitOn '.' name

/-- The names of the tables that lead to an entry, and its own name. -/
def readName (name : List Char) : Except ReadFailure (List String × String) :=
  if name.contains '.' then
    match (nameLevels name).reverse.dropWhile List.isEmpty with
    | [] => .error (.pastEnd "list")
    | own :: outer =>
        .ok ((outer.reverse.filter fun level => !level.isEmpty).map String.ofList,
          String.ofList (strip own))
  else
    match name with
    | [] => .error (.pastEnd "string")
    | c :: _ =>
        if name.getLast? == some c && (c == '\x22' || c == '\x27') then
          .ok ([], String.ofList (inside 1 name))
        else .ok ([], String.ofList name)

/-- The last text among the parts of an array between its commas, the last part first. A part that does
not begin with a quotation mark belongs to the one before it. -/
def lastText (text : List Char) : List (List Char) → Except ReadFailure (List Char)
  | [] => .ok text
  | part :: parts =>
      match text with
      | [] => .error (.pastEnd "string")
      | c :: _ =>
          if c == '\x22' || c == '\x27' then .ok text else lastText (part ++ ',' :: text) parts

/-- The last text of an array of texts that does not end. -/
def lastItem (s : List Char) : Except ReadFailure (List Char) :=
  match (splitOn ',' (strip (s.drop 1))).reverse with
  | [] => .ok []
  | text :: parts => lastText text parts

/-- The part of a value that is a text over several lines which does not end on this line. -/
def openText? (s : List Char) : Except ReadFailure (Option (List Char)) :=
  if s.length < 3 then .ok none
  else do
    let text ←
      if s.head? == some '[' && s.getLast? != some ']' && isTextArray s then lastItem s else pure s
    match text with
    | [] => .error (.pastEnd "string")
    | first :: rest =>
        if first != '\x22' && first != '\x27' then return none
        else
          match rest with
          | [] => .error (.pastEnd "string")
          | second :: rest =>
              if second != first then return none
              else
                match rest with
                | [] => .error (.pastEnd "string")
                | third :: _ =>
                    let closing := (text.reverse.take 3).all (· == first)
                    if third != first || (5 < text.length && closing) then return none
                    else return some text

/-! ### Tables -/

/-- Look up a name in a value and go on with what is found there, which may change it. A table gets an
empty table under a name that it does not have; other values have no names. -/
def withTable {α : Type} (name : String) (v : Value) (go : Value → Except ReadFailure (Value × α)) :
    Except ReadFailure (Value × α) :=
  match v with
  | .table entries => do
      let inner := (Value.entry? name entries).getD (.table [])
      let (inner, result) ← go inner
      return (.table (Value.insertEntry (.text name) inner entries), result)
  | .text s =>
      if occursIn name.toList s.toList then .error (.nameInSequence v) else .error .fixedText
  | .list _ => .error (.nameInSequence v)
  | _ => .error (.noMembers v)

/-- Go through several tables, one inside the other. -/
def withTables {α : Type} (names : List String) (v : Value)
    (go : Value → Except ReadFailure (Value × α)) : Except ReadFailure (Value × α) :=
  match names with
  | [] => go v
  | name :: rest => withTable name v fun inner => withTables rest inner go

/-- Put a value into a table under a new name. -/
def putNew (name : String) (v : Value) (table : Value) : Except ReadFailure Value :=
  match table with
  | .table entries =>
      match Value.entry? name entries with
      | some _ => illFormed
      | none => .ok (.table (Value.insertEntry (.text name) v entries))
  | _ => illFormed

/-- Whether a text that is still open can be put under a name later. -/
def checkNew (name : String) (table : Value) : Except ReadFailure Unit :=
  (putNew name .null table).map fun _ => ()

/-- The beginning of a text over several lines, given the part of the value that is open. -/
def openPending (name : String) (value text : List Char) : Pending :=
  if oddBackslashes (text.reverse) then ⟨name, value.dropLast, true⟩ else ⟨name, value ++ ['\n'], false⟩

/-- Put the entry of a line into a table. If its value does not end on the line, it is left pending. -/
def putEntry (read : ValueReader) (line : List Char) (table : Value) :
    Except ReadFailure (Value × Option Pending) := do
  let (name, value, strict) ← splitEntry line
  let (outer, own) ← readName name
  withTables outer table fun inner => do
    match ← openText? value with
    | some text =>
        checkNew own inner
        if own.isEmpty then .error .unnamedText
        else return (inner, some (openPending own value text))
    | none =>
        let (v, _) ← read value strict
        return (← putNew own v inner, none)

/-- Whether the text behind the equals sign of an entry in an inline table is complete. -/
def isWholeValue (s : List Char) : Except ReadFailure Bool :=
  match s with
  | [] => .error (.pastEnd "string")
  | first :: _ =>
      let last := s.getLastD first
      .ok ((first == last && (first == '\x22' || first == '\x27'))
        || first == '-' || first.isDigit || s == "true".toList || s == "false".toList
        || (first == '[' && last == ']') || (first == '\x7b' && last == '\x7d'))

/-- The entries of an inline table, given the parts between its commas. A comma inside a value does not
separate. -/
def joinEntries (part : List Char) (rest : List (List Char)) : Except ReadFailure (List (List Char)) :=
  if !part.contains '=' then illFormed
  else do
    let whole ← isWholeValue (strip ((part.dropWhile (· != '=')).drop 1))
    match rest with
    | [] => if whole then return [part] else illFormed
    | next :: rest =>
        if whole then return part :: (← joinEntries next rest)
        else joinEntries (part ++ ',' :: next) rest
termination_by rest.length

/-- Put several entries into a table, up to the first that is left pending. -/
def putEntries (read : ValueReader) (table : Value) : List (List Char) → Except ReadFailure Value
  | [] => .ok table
  | entry :: entries => do
      match ← putEntry read entry table with
      | (table, none) => putEntries read table entries
      | (table, some _) => return table

/-- Put the entries of an inline table into a table. -/
def putInline (read : ValueReader) (s : List Char) (table : Value) : Except ReadFailure Value := do
  match splitOn ',' (inside 1 s) with
  | [] => return table
  | part :: rest =>
      if rest.isEmpty && (strip part).isEmpty then return table
      else putEntries read table (← joinEntries part rest)

/-! ### Values -/

/-- Read a value, whose inner values `read` reads. `strict` says that a number may be read from it. -/
def readWith (read : ValueReader) (s : List Char) (strict : Bool) : Except ReadFailure (Value × Kind) :=
  let word := String.ofList s
  let lower := String.ofList (s.map Char.toLower)
  if word == "true" then .ok (.flag true, .flag)
  else if word == "false" then .ok (.flag false, .flag)
  else if lower == "true" || lower == "false" then illFormed
  else
    match s with
    | [] => illFormed
    | c :: _ =>
        if c == '\x22' || c == '\x27' then do return (.text (← readText c s), .text)
        else if c == '[' then do return (← readArray read s, .array)
        else if c == '\x7b' then do return (← putInline read s (.table []), .table)
        else
          match readClock? s with
          | some clock => clock.map fun v => (v, .clock)
          | none => do
              match ← readMoment? s with
              | some v => return (v, .moment)
              | none => if strict then readNumber s else illFormed

/-- Read a value with at most `depth` levels of values inside it. -/
def readDeep : Nat → ValueReader
  | 0 => fun _ _ => illFormed
  | depth + 1 => readWith (readDeep depth)

/-- Read a value. Inner values are shorter than the value, so its length bounds the depth. -/
def readValue (s : List Char) (strict : Bool) : Except ReadFailure (Value × Kind) :=
  readDeep (s.length + 1) s strict

end Syscat.Toml
