/-
Module: Syscat.Yaml.Cursor
Purpose: Places in a YAML text, with the line and column that indentation is measured by.
Main exports: Cursor, Cursor.next, Cursor.skip, Cursor.lineBreak
-/
import Syscat.Document.ReadFailure

namespace Syscat.Yaml

/-- The text is not well-formed. -/
def illFormed {α : Type} : Except ReadFailure α :=
  .error (.malformed .yaml)

/-- A line end. Carriage returns have become line feeds before. -/
def isBreak (c : Char) : Bool :=
  c == '\n' || c == '\u0085' || c == '\u2028' || c == '\u2029'

/-- Whether a line ends here, or the text. -/
def atLineEnd : List Char → Bool
  | [] => true
  | c :: _ => isBreak c

/-- Whether a blank or a line end stands here, or the text ends. -/
def atBlank : List Char → Bool
  | [] => true
  | c :: _ => c == ' ' || isBreak c

/-- Whether a blank, a tab or a line end stands here, or the text ends. -/
def atGap : List Char → Bool
  | [] => true
  | c :: _ => c == ' ' || c == '\t' || isBreak c

/-- A letter, a digit, a hyphen or an underscore. -/
def isNameChar (c : Char) : Bool :=
  c.isAlphanum || c == '-' || c == '_'

/-- A place in a text: the characters from there on, the line and column, and how many characters are in
front of it. -/
structure Cursor where
  rest : List Char
  line : Nat
  column : Nat
  index : Nat
deriving Repr, Inhabited

namespace Cursor

/-- The beginning of a text. -/
def start (text : List Char) : Cursor := ⟨text, 0, 0, 0⟩

/-- The place behind the next character. A byte order mark takes no column. -/
def next (c : Cursor) : Cursor :=
  match c.rest with
  | [] => c
  | ch :: rest =>
      if isBreak ch then ⟨rest, c.line + 1, 0, c.index + 1⟩
      else if ch == '\ufeff' then ⟨rest, c.line, c.column, c.index + 1⟩
      else ⟨rest, c.line, c.column + 1, c.index + 1⟩

/-- The place a number of characters further on. -/
def skip : Nat → Cursor → Cursor
  | 0, c => c
  | n + 1, c => skip n c.next

/-- The characters at the front that satisfy a condition, and the place behind them. -/
def takeWhile (condition : Char → Bool) (c : Cursor) : List Char × Cursor :=
  let taken := c.rest.takeWhile condition
  (taken, c.skip taken.length)

/-- The place behind the characters at the front that satisfy a condition. -/
def skipWhile (condition : Char → Bool) (c : Cursor) : Cursor :=
  (c.takeWhile condition).2

/-- The place behind the blanks at the front. -/
def skipBlanks (c : Cursor) : Cursor :=
  c.skipWhile (· == ' ')

/-- The place at the end of the line. -/
def skipLine (c : Cursor) : Cursor :=
  c.skipWhile fun ch => !isBreak ch

/-- The next character satisfies a condition. -/
def ahead (condition : Char → Bool) (c : Cursor) : Bool :=
  c.rest.head?.any condition

/-- The line end at the front, in the form in which a text keeps it, and the place behind it. -/
def lineBreak (c : Cursor) : List Char × Cursor :=
  match c.rest with
  | [] => ([], c)
  | ch :: _ =>
      if ch == '\n' || ch == '\u0085' then (['\n'], c.next)
      else if isBreak ch then ([ch], c.next)
      else ([], c)

/-- The place behind the line end, if there is one. -/
def skipBreak (c : Cursor) : Cursor :=
  c.lineBreak.2

/-- The place behind blanks and a comment. The line has to end there. -/
def skipRest (c : Cursor) : Except ReadFailure Cursor :=
  let c := c.skipBlanks
  let c := if c.ahead (· == '#') then c.skipLine else c
  if atLineEnd c.rest then .ok c.skipBreak else illFormed

/-- Whether three hyphens or three points stand here with a gap behind them, as between documents. -/
def atSeparator (c : Cursor) : Bool :=
  match c.rest with
  | a :: b :: d :: rest => (a == '-' || a == '.') && b == a && d == a && atGap rest
  | _ => false

end Cursor

end Syscat.Yaml
