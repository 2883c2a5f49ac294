/-
Module: Syscat.Toml.Reader
Purpose: Reading of TOML. Lines put entries into the table that the last header opened; a header may open
  a new table, a new item of an array of tables, or a table that was only named on the way to another.
Main exports: Toml.read
-/
import Syscat.Toml.Entry

namespace Syscat.Toml

/-! ### Headers -/

/-- How often a text occurs in another without overlaps. -/
def countOccurrences (part : List Char) : List Char → Nat
  | c :: d :: rest =>
      match part with
      | [a] => (if c == a then 1 else 0) + countOccurrences part (d :: rest)
      | [a, b] =>
          if c == a && d == b then 1 + countOccurrences part rest else countOccurrences part (d :: rest)
      | _ => 0
  | [c] => if part == [c] then 1 else 0
  | [] => 0

/-- The text in front of the occurrence of a bracket with the number `count`, and the text behind it. -/
def cutAtBracket? (closing : List Char) : Nat → List Char → Option (List Char × List Char)
  | _, [] => none
  | count, c :: rest =>
      if closing.isPrefixOf (c :: rest) then
        match count with
        | 0 => none
        | 1 => some ([], (c :: rest).drop closing.length)
        | count + 2 =>
            match closing, rest with
            | [_, _], d :: rest =>
                (cutAtBracket? closing (count + 1) rest).map fun (front, behind) =>
                  (c :: d :: front, behind)
            | _, rest =>
                (cutAtBracket? closing (count + 1) rest).map fun (front, behind) => (c :: front, behind)
      else (cutAtBracket? closing count rest).map fun (front, behind) => (c :: front, behind)

/-- Whether a part of a header is a complete quoted name. -/
def isWholeName (part : List Char) : Bool :=
  match part with
  | [] => false
  | [_] => false
  | first :: rest => rest.getLast? == some first

/-- Join parts of a header to `part`, which begins with a quotation mark, until it is a complete name. -/
def joinName (part : List Char) : List (List Char) → Except ReadFailure (List Char × List (List Char))
  | [] => if isWholeName (strip part) then .ok (strip part, []) else illFormed
  | next :: rest =>
      if isWholeName (strip part) then .ok (strip part, next :: rest)
      else joinName (part ++ '.' :: next) rest

/-- A character of a name without quotation marks. -/
def isBareChar (c : Char) : Bool :=
  c.isAlphanum || c == '_' || c == '-'

/-- The names of a header, given the parts between its points. A point inside quotation marks does not
separate. -/
def headerNames : Nat → List (List Char) → Except ReadFailure (List String)
  | 0, _ => illFormed
  | _ + 1, [] => .ok []
  | fuel + 1, part :: parts =>
      match strip part with
      | [] => illFormed
      | c :: rest =>
          if c == '\x22' || c == '\x27' then do
            let (name, parts) ← joinName (c :: rest) parts
            return String.ofList (inside 1 name) :: (← headerNames fuel parts)
          else if (c :: rest).all isBareChar then do
            return String.ofList (c :: rest) :: (← headerNames fuel parts)
          else illFormed

/-- Read a header: whether it stands for an array of tables, and its names. Nothing may follow it. -/
def readHeader (line : List Char) : Except ReadFailure (Bool × List String) :=
  match line.drop 1 with
  | [] => illFormed
  | second :: rest =>
      let tables := second == '['
      let body := if tables then rest else second :: rest
      let closing := if tables then [']', ']'] else [']']
      let count := 1 + countQuoted (countOccurrences closing) false (splitOnQuotes body)
      match cutAtBracket? closing count body with
      | none => illFormed
      | some (front, behind) =>
          if !(strip behind).isEmpty then illFormed
          else do
            let parts := splitOn '.' front
            return (tables, ← headerNames (parts.length + 1) parts)

/-! ### The table that a header opens -/

/-- A step into a value: to the value of a name, or to the last item of a list. -/
inductive Step where
  | name (s : String)
  | last
deriving DecidableEq, Repr, Inhabited

/-- A value after a header has been followed in it: the value, the steps to the table that is open now,
and the names of tables that were only named on the way to others. -/
structure Opened where
  value : Value
  path : List Step
  implicit : List String
deriving Repr, Inhabited

/-- The last part of a sequence. -/
def lastPart (v : Value) : Except ReadFailure Value :=
  match v with
  | .list items =>
      match items.getLast? with
      | some item => .ok item
      | none => .error (.pastEnd "list")
  | .text s =>
      match s.toList.getLast? with
      | some c => .ok (.text (String.ofList [c]))
      | none => .error (.pastEnd "string")
  | v => .error (.noParts v)

/-- Put a value in the place of the last item of a list. -/
def replaceLast (item v : Value) : Value :=
  match v with
  | .list items => .list (items.dropLast ++ [item])
  | v => v

/-- Go on from the value that a name of a header leads to. For an array of tables that is its last
item. -/
def goInto (tables : Bool) (v : Value) (go : Value → Except ReadFailure Opened) :
    Except ReadFailure Opened :=
  match tables, v with
  | false, v => go v
  | true, .table entries => go (.table entries)
  | true, v => do
      let opened ← go (← lastPart v)
      return { opened with value := replaceLast opened.value v, path := .last :: opened.path }

/-- What a name stands for that a header mentions first. -/
def freshTable (tables isLast : Bool) : Value :=
  if tables && isLast then .list [.table []] else .table []

/-- What becomes of the value of a name that a header mentions again, and of the implicit names. A last
name may only be mentioned again if it was implicit or gets a further table. -/
def mentionAgain (tables isLast : Bool) (implicit : List String) (name : String) (v : Value) :
    Except ReadFailure (Value × List String) :=
  if !isLast then .ok (v, implicit)
  else if implicit.contains name then
    if tables then illFormed else .ok (v, implicit.erase name)
  else if tables then
    match v with
    | .list items => .ok (.list (items ++ [.table []]), implicit)
    | _ => .error .notAppendable
  else illFormed

/-- Follow the names of a header in a value. In a list the last item is followed, whatever it is. -/
def followNames (tables : Bool) (implicit : List String) : List String → Value → Except ReadFailure Opened
  | [], v => .ok ⟨v, [], implicit⟩
  | name :: rest, v =>
      if name.isEmpty then illFormed
      else
        match v with
        | .table entries => do
            let (inner, implicit) ←
              match Value.entry? name entries with
              | some inner => mentionAgain tables rest.isEmpty implicit name inner
              | none =>
                  pure (freshTable tables rest.isEmpty,
                    if rest.isEmpty then implicit else implicit ++ [name])
            let opened ← goInto tables inner (followNames tables implicit rest)
            return { opened with
              value := .table (Value.insertEntry (.text name) opened.value entries)
              path := .name name :: opened.path }
        | v => do
            match ← lastPart v with
            | .table entries =>
                let inner := (Value.entry? name entries).getD (freshTable tables rest.isEmpty)
                let opened ← goInto tables inner (followNames tables implicit rest)
                let item := Value.table (Value.insertEntry (.text name) opened.value entries)
                return { opened with
                  value := replaceLast item v
                  path := .last :: .name name :: opened.path }
            | .text s =>
                if occursIn name.toList s.toList then .error (.nameInSequence (.text s))
                else .error .fixedText
            | .list items => .error (.nameInSequence (.list items))
            | item => .error (.noMembers item)

/-- Change the part of a value that steps lead to. -/
def changeAt {α : Type} (change : Value → Except ReadFailure (Value × α)) :
    List Step → Value → Except ReadFailure (Value × α)
  | [], v => change v
  | .name name :: rest, .table entries => do
      let inner := (Value.entry? name entries).getD .null
      let (inner, result) ← changeAt change rest inner
      return (.table (Value.insertEntry (.text name) inner entries), result)
  | .last :: rest, v => do
      let (item, result) ← changeAt change rest (← lastPart v)
      return (replaceLast item v, result)
  | .name _ :: _, _ => illFormed

/-! ### Lines -/

/-- What has been read of a text. -/
structure Reading where
  opened : Opened
  pending : Option Pending
deriving Repr, Inhabited

namespace Reading

/-- Nothing has been read. -/
def start : Reading := ⟨⟨.table [], [], []⟩, none⟩

/-- Change the table that is open. -/
def change {α : Type} (r : Reading) (f : Value → Except ReadFailure (Value × α)) :
    Except ReadFailure (Reading × α) := do
  let (value, result) ← changeAt f r.opened.path r.opened.value
  return ({ r with opened := { r.opened with value } }, result)

/-- Whether a line ends a text over several lines, given what it began with. An array of such texts ends
with a bracket. -/
def endsPending (first : Char) (line : List Char) : Except ReadFailure Bool :=
  match line.reverse with
  | [] => if first == '[' then .error (.pastEnd "string") else .ok false
  | last :: rest =>
      if first == '[' then .ok (last == ']')
      else .ok (last == first && 2 ≤ rest.length && (rest.take 2).all (· == first))

/-- Put the value of a text over several lines, which has ended, into the table that is open. -/
def close (r : Reading) (p : Pending) (text : List Char) : Except ReadFailure Reading := do
  let (v, _) ← readValue text true
  let (r, _) ← r.change fun table =>
    match table with
    | .table entries => .ok (.table (Value.insertEntry (.text p.name) v entries), ())
    | table => .ok (table, ())
  return { r with pending := none }

/-- Add a line to a text over several lines. -/
def extend (r : Reading) (p : Pending) (line : List Char) : Except ReadFailure Reading := do
  let text := p.text ++ line
  if ← endsPending (text.headD ' ') line then r.close p text
  else if oddBackslashes text.reverse then
    return { r with pending := some { p with text := text.dropLast, joined := true } }
  else return { r with pending := some { p with text := text ++ ['\n'], joined := false } }

/-- Read a line that begins something. -/
def begin (r : Reading) (line : List Char) : Except ReadFailure Reading :=
  match line with
  | [] => .ok r
  | first :: _ =>
      let reader := readDeep (line.length + 1)
      if first == '[' then do
        let (tables, names) ← readHeader line
        let opened ← followNames tables r.opened.implicit names r.opened.value
        return { r with opened }
      else if first == '\x7b' then
        if line.getLast? != some '\x7d' then illFormed
        else do
          let (r, _) ← r.change fun table => do return (← putInline reader line table, ())
          return r
      else if line.contains '=' then do
        let (r, pending) ← r.change (putEntry reader line)
        return { r with pending }
      else .ok r

/-- Read a line. Blanks around it mean nothing unless they belong to a text over several lines. -/
def readLine (r : Reading) (line : List Char) : Except ReadFailure Reading :=
  match r.pending with
  | none => r.begin (strip line)
  | some p =>
      let line := if p.joined || !p.text.contains '\n' then strip line else line
      if line.isEmpty && p.joined then .ok r else r.extend p line

end Reading

/-- Read a text, whose line ends are all alike. -/
def read (text : List Char) : Except ReadFailure Value := do
  let r ← (← lines text).foldlM Reading.readLine Reading.start
  return r.opened.value

end Syscat.Toml
