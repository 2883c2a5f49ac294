/-
Module: Syscat.Toml.Text
Purpose: Parts of a TOML line between quotation marks, and the texts that stand in them.
Main exports: splitOnQuotes, quotedEquals, readText
-/
import Syscat.Toml.Lines

namespace Syscat.Toml

/-! ### Parts between quotation marks -/

/-- Put `more` behind the last part. -/
def appendToLast (more : List Char) : List (List Char) → List (List Char)
  | [] => [more]
  | [part] => [part ++ more]
  | part :: parts => part :: appendToLast more parts

/-- Replace the last part by its parts between single quotation marks. -/
def splitLast : List (List Char) → List (List Char)
  | [] => []
  | [part] => splitOn '\x27' part
  | part :: parts => part :: splitLast parts

/-- The parts of a text that begins with single quotation marks, given those in front of the first double
one and the parts between the double ones. While a single mark is open, a double one belongs to the
text. -/
def closeSingles (singles : List (List Char)) : List (List Char) → List (List Char) × List (List Char)
  | [] => (singles, [])
  | part :: parts =>
      if singles.length % 2 == 0 then
        closeSingles (splitLast (appendToLast ('\x22' :: part) singles)) parts
      else (singles, part :: parts)

/-- The parts of a line between quotation marks. -/
def splitOnQuotes (s : List Char) : List (List Char) :=
  let (front, rest) :=
    match splitOn '\x22' s with
    | first :: second :: more =>
        if first.contains '\x27' then closeSingles (splitOn '\x27' first) (second :: more)
        else ([], first :: second :: more)
    | parts => ([], parts)
  front ++
    match rest with
    | [] => []
    | first :: more => splitOn '\x27' first ++ more

/-- How often `mark` occurs in quoted parts in front of the first occurrence in a part that is not quoted.
Parts are quoted in turn. -/
def countQuoted (occurs : List Char → Nat) (isQuoted : Bool) : List (List Char) → Nat
  | [] => 0
  | part :: parts =>
      if !isQuoted && 0 < occurs part then 0 else occurs part + countQuoted occurs (!isQuoted) parts

/-- The parts of a line that are quoted in turn, each with the mark whether it is. -/
def alternate (isQuoted : Bool) : List (List Char) → List (Bool × List Char)
  | [] => []
  | part :: parts => (isQuoted, part) :: alternate (!isQuoted) parts

/-! ### Texts -/

/-- The letters that stand for a character behind a backslash, apart from the backslash itself. -/
def letterEscape? : Char → Option Char
  | '0' => some '\x00'
  | 'b' => some '\x08'
  | 'f' => some '\x0c'
  | 'n' => some '\n'
  | 'r' => some '\r'
  | 't' => some '\t'
  | '\x22' => some '\x22'
  | _ => none

/-- Whether a text has an even number of backslashes at its end. -/
def endsOpen (s : List Char) : Bool :=
  !oddBackslashes s.reverse

/-- Check that nothing stands behind the quotation mark that closes a text, given the parts between the
marks. A text over several lines is closed by marks in a row. -/
def checkClosed (triple : Bool) (count : Nat) (closed : Bool) : List (List Char) → Except ReadFailure Unit
  | [] => .ok ()
  | part :: parts =>
      if part.isEmpty then
        if triple then checkClosed triple
          (count + 1) closed parts else checkClosed triple count true parts
      else if endsOpen part then
        if closed then illFormed
        else if !triple || 1 < count then checkClosed triple count true parts
        else checkClosed triple 0 closed parts
      else checkClosed triple count closed parts

/-- Check the characters behind backslashes, given the parts between the backslashes. An empty part shows
two backslashes in a row. -/
def checkEscapes (escaped : Bool) : List (List Char) → Except ReadFailure Unit
  | [] => .ok ()
  | [] :: parts => checkEscapes (!escaped) parts
  | (c :: _) :: parts =>
      if (letterEscape? c).isSome || c == 'u' || c == 'U' || escaped then checkEscapes false parts
      else illFormed

/-- The character with a number. A surrogate becomes the replacement character. -/
def codePoint (n : Nat) : Except ReadFailure Char :=
  if n.isValidChar then .ok (Char.ofNat n)
  else if n < 0x110000 then .ok replacementChar
  else if n < 0x80000000 then illFormed
  else .error (.codePoint n)

/-- The character that the hexadecimal digits at the front spell, `width` of them, and the rest. -/
def hexEscape (width : Nat) (s : List Char) : Except ReadFailure (Char × List Char) :=
  let digits := s.take width
  match hexNumber? digits, digits with
  | none, _ => illFormed
  | some _, [] => .error (.pastEnd "string")
  | some n, first :: rest =>
      if first == 'd' || first == 'D' then
        match rest with
        | [] => .error (.pastEnd "string")
        | second :: _ =>
            if 56 ≤ second.toNat then illFormed
            else (codePoint n).map fun c => (c, s.drop width)
      else (codePoint n).map fun c => (c, s.drop width)

/-- Replace the escapes of one width, given the parts between their marks. The mark of an escape is taken
literally behind an odd number of backslashes, which is looked for only behind a part taken literally. -/
def replaceHexEscapes (mark : Char) (width : Nat) (literal : Bool) :
    List (List Char) → Except ReadFailure (List Char)
  | [] => .ok []
  | part :: parts =>
      if literal then do
        let rest ← replaceHexEscapes mark width (oddBackslashes part.reverse) parts
        return '\\' :: mark :: part ++ rest
      else do
        let (c, behind) ← hexEscape width part
        let rest ← replaceHexEscapes mark width false parts
        return c :: behind ++ rest

/-- The parts of a text between the marks of escapes of one sort. -/
def splitOnEscape (mark : Char) : List Char → List (List Char)
  | '\\' :: c :: rest =>
      if c == mark then [] :: splitOnEscape mark rest
      else
        match splitOnEscape mark (c :: rest) with
        | [] => [['\\']]
        | part :: parts => ('\\' :: part) :: parts
  | c :: rest =>
      match splitOnEscape mark rest with
      | [] => [[c]]
      | part :: parts => (c :: part) :: parts
  | [] => [[]]

/-- Replace the escapes that spell code points with the letter `mark` and `width` digits. -/
def readHexEscapes (mark : Char) (width : Nat) (s : List Char) : Except ReadFailure (List Char) :=
  match splitOnEscape mark s with
  | [] => .ok []
  | first :: parts => do
      let rest ← replaceHexEscapes mark width (oddBackslashes first.reverse) parts
      return first ++ rest

/-- Replace the escapes of single characters. -/
def readLetterEscapes : List Char → Except ReadFailure (List Char)
  | '\\' :: c :: rest =>
      match letterEscape? c with
      | some e => do return e :: (← readLetterEscapes rest)
      | none =>
          if c == '\\' then do return '\\' :: (← readLetterEscapes rest)
          else if c == 'u' || c == 'U' then do return '\\' :: c :: (← readLetterEscapes rest)
          else illFormed
  | c :: rest => do return c :: (← readLetterEscapes rest)
  | [] => .ok []

/-- Replace all escapes of a text. -/
def readEscapes (s : List Char) : Except ReadFailure (List Char) := do
  checkEscapes false ((splitOn '\\' s).drop 1)
  let s ← readHexEscapes 'u' 4 s
  let s ← readHexEscapes 'U' 8 s
  readLetterEscapes s

/-- The characters without the first and the last `count` of them. -/
def inside (count : Nat) (s : List Char) : List Char :=
  (s.take (s.length - count)).drop count

/-- Read a text with its quotation marks, the first of which is `mark`. There are no escapes in single
marks. Marks doubled at the beginning show a text over several lines, or an empty one. -/
def readText (mark : Char) (s : List Char) : Except ReadFailure String := do
  match splitOn mark (s.drop 1) with
  | [] :: [] :: parts => checkClosed true 0 false parts
  | parts => checkClosed false 0 false parts
  let s ← if mark == '\x22' then readEscapes s else .ok s
  let s :=
    match s with
    | _ :: second :: rest =>
        if second == mark && (rest.isEmpty || rest.head? == some mark) then inside 2 s else s
    | s => s
  return String.ofList (inside 1 s)

end Syscat.Toml
