/-
Module: Syscat.Toml.Lines
Purpose: The lines that a TOML text is read as. Comments are blanked, an array over several lines becomes
  one line, and names, brackets and quotation marks are checked on the way.
Main exports: Toml.lines
-/
import Syscat.Document.ReadFailure
import Syscat.Text.Alphanumeric
import Syscat.Text.Part

namespace Syscat.Toml

/-- The text is not well-formed. -/
def illFormed {α : Type} : Except ReadFailure α :=
  .error (.malformed .toml)

/-- How far the name in front of an equals sign has been read. -/
inductive NameStage where
  /-- No name is being read. -/
  | outside
  /-- A part of a name is being read. -/
  | inside
  /-- A part of a name has ended. -/
  | behind
deriving DecidableEq, Repr, Inhabited

/-- What is known at a place of the text. `before` holds the characters in front of it, the nearest
first, as they have become. `mark` is the quotation mark that is open. -/
structure LineState where
  before : List Char
  stage : NameStage
  dotted : Bool
  mark : Option Char
  multiline : Bool
  openArrays : Int
  inHeader : Bool
  inTablesHeader : Bool
  lineStart : Bool
  inComment : Bool
deriving Repr, Inhabited

namespace LineState

/-- The beginning of a text. -/
def start : LineState :=
  ⟨[], .outside, false, none, false, 0, false, false, true, false⟩

/-- Pass a character. -/
def pass (s : LineState) (c : Char) : LineState :=
  { s with before := c :: s.before }

/-- Whether a header is being read. -/
def anyHeader (s : LineState) : Bool :=
  s.inHeader || s.inTablesHeader

/-- The characters in front of a place, the nearest first. Someone who looks back beyond the beginning of
the text goes on at its end. -/
def lookBack (s : LineState) (rest : List Char) : List Char :=
  match s.before with
  | _ :: _ :: _ :: _ => s.before
  | before => before ++ rest.reverse ++ before

end LineState

/-- Whether an odd number of backslashes is at the front. -/
def oddBackslashes (s : List Char) : Bool :=
  (s.takeWhile (· == '\\')).length % 2 == 1

/-- Whether the next character is there, and neither a blank nor a point. -/
def startsPart (rest : List Char) : Except ReadFailure Bool :=
  match rest with
  | [] => .error (.pastEnd "list")
  | c :: _ => .ok (!isBlank c && c != '.')

/-! ### Names -/

/-- The stage behind a point or a blank that ended a part of a name. -/
def afterGap (rest : List Char) : Except ReadFailure NameStage := do
  return if ← startsPart rest then .inside else .behind

/-- Pass a character of a name; nothing if the character ends the name. Names are made of letters, digits,
underscores and hyphens, or stand in quotation marks; points join them. -/
def passName (s : LineState) (c : Char) (rest : List Char) : Except ReadFailure (Option LineState) :=
  if c == '\n' then illFormed
  else if let some mark := s.mark then
    if c == mark && !oddBackslashes s.before then
      .ok (some { s.pass c with stage := .behind, mark := none })
    else .ok (some (s.pass c))
  else if s.stage = .inside then
    if isBlank c then .ok (some { s.pass c with stage := .behind })
    else if c == '.' then .ok (some { s.pass c with dotted := true })
    else if isAlphanumeric c || c == '_' || c == '-' then .ok (some (s.pass c))
    else if s.dotted && s.before.head? == some '.' && (c == '\x22' || c == '\x27') then
      .ok (some { s.pass c with mark := some c })
    else if c == '=' then .ok none
    else illFormed
  else if isBlank c then
    if s.dotted then do return some { s.pass c with stage := ← afterGap rest }
    else .ok (some (s.pass c))
  else if c == '.' then do return some { s.pass c with dotted := true, stage := ← afterGap rest }
  else if c == '=' then .ok none
  else illFormed

/-! ### Quotation marks -/

/-- The quotation mark that is open when `toggled` says whether the one at hand opens or closes. -/
def markWhen (opened : Bool) (c : Char) : Option Char :=
  if opened then some c else none

/-- Take account of a single quotation mark. The third one in a row begins or ends a text over several
lines. -/
def passSingle (s : LineState) (rest : List Char) : LineState :=
  let quotes := ((s.lookBack ('\x27' :: rest)).take 2).takeWhile (· == '\x27')
  if quotes.length == 2 then
    { s with multiline := !s.multiline, mark := markWhen (!s.multiline) '\x27' }
  else { s with mark := markWhen s.mark.isNone '\x27' }

/-- Take account of a double quotation mark, which an odd number of backslashes escapes. The third one in
a row begins or ends a text over several lines. -/
def passDouble (s : LineState) (rest : List Char) : LineState :=
  let back := s.lookBack ('\x22' :: rest)
  let quotes := (back.take 2).takeWhile (· == '\x22')
  let escaped := quotes.length != 1 && oddBackslashes (back.drop quotes.length)
  if escaped then { s with mark := markWhen s.mark.isSome '\x22' }
  else if quotes.length == 2 then
    { s with multiline := !s.multiline, mark := markWhen (!s.multiline) '\x22' }
  else { s with mark := markWhen s.mark.isNone '\x22' }

/-- Take account of a quotation mark. Inside marks of the other sort it means nothing. -/
def passMark (s : LineState) (c : Char) (rest : List Char) : LineState :=
  if c == '\x27' && s.mark != some '\x22' then passSingle s rest
  else if c == '\x22' && s.mark != some '\x27' then passDouble s rest
  else s

/-! ### Brackets and line ends -/

/-- Take account of a bracket. At the beginning of a line it begins a header. -/
def passBracket (s : LineState) (c : Char) (rest : List Char) : LineState :=
  if c == '[' && s.mark.isNone && !s.anyHeader then
    if s.lineStart then
      if rest.head? == some '[' then { s with inTablesHeader := true } else { s with inHeader := true }
    else { s with openArrays := s.openArrays + 1 }
  else if c == ']' && s.mark.isNone then
    if s.inHeader then { s with inHeader := false }
    else if s.inTablesHeader then
      if s.before.head? == some ']' then { s with inTablesHeader := false } else s
    else { s with openArrays := s.openArrays - 1 }
  else s

/-- Take account of a line end inside a text over several lines. Behind two quotation marks it becomes a
third one, which takes the place of the one three characters before. -/
def passTextLine (s : LineState) (rest : List Char) : LineState :=
  match s.lookBack ('\n' :: rest) with
  | a :: b :: behind =>
      if (a == '\x27' || a == '\x22') && b == a then
        if behind.head? == some a then
          match s.before with
          | x :: y :: _ :: more => { s with before := a :: x :: y :: ' ' :: more }
          | before => { s with before := a :: before }
        else s.pass a
      else s.pass '\n'
  | _ => s.pass '\n'

/-- Pass a line end. A text over one line may not hold it, and inside brackets it is a blank. -/
def passLineEnd (s : LineState) (rest : List Char) : Except ReadFailure LineState :=
  if s.mark.isSome || s.multiline then
    if s.multiline then .ok (passTextLine s rest) else illFormed
  else if s.openArrays != 0 then .ok (s.pass ' ')
  else .ok { s.pass '\n' with lineStart := true }

/-- Pass a character that is neither part of a name nor a line end. The first one of a line that is no
header begins a name. -/
def passOther (s : LineState) (c : Char) : Except ReadFailure LineState :=
  if s.lineStart && c != ' ' && c != '\t' then
    if s.anyHeader then .ok { s.pass c with lineStart := false }
    else if c == '=' then illFormed
    else .ok { s.pass c with lineStart := false, stage := .inside }
  else .ok (s.pass c)

/-- Pass a character. -/
def passChar (s : LineState) (c : Char) (rest : List Char) : Except ReadFailure LineState := do
  if s.inComment && c != '\n' then return s.pass ' '
  else
    let s := { s with inComment := false }
    let named ← if s.stage = .outside then pure none else passName s c rest
    match named with
    | some s => return s
    | none =>
        let s := if s.stage = .outside then s else { s with stage := .outside, dotted := false }
        let s := passMark s c rest
        if c == '#' && s.mark.isNone && !s.anyHeader then return { s.pass ' ' with inComment := true }
        else
          let s := passBracket s c rest
          if c == '\n' then passLineEnd s rest else passOther s c

/-- Pass all characters of a text. -/
def passAll (s : LineState) : List Char → Except ReadFailure LineState
  | [] => .ok s
  | c :: rest => do passAll (← passChar s c rest) rest

/-- The lines of a text, in which no name and no quotation mark may be left open. -/
def lines (text : List Char) : Except ReadFailure (List (List Char)) := do
  let s ← passAll .start text
  if s.stage ≠ .outside ∨ s.mark.isSome then illFormed
  else return splitOn '\n' s.before.reverse

end Syscat.Toml
