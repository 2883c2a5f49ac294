/-
Module: Syscat.Yaml.Writer
Purpose: Lists of documents in YAML, in block style. A text is written plainly where that reads back as
  the same text, in single quotation marks where it is visible ASCII on lines without blanks at their
  ends, and in double ones otherwise. Lines are folded at blanks beyond the eightieth column.
Main exports: Yaml.writeItems, ScalarStyle, scalarStyle
-/
import Syscat.Document
import Syscat.Yaml.Tag

namespace Syscat.Yaml

/-! ### Styles -/

/-- How a scalar is written. -/
inductive ScalarStyle where
  | plain
  | singleQuoted
  | doubleQuoted
deriving DecidableEq, Repr, Inhabited

/-- The characters that are written without an escape: visible ASCII and the blank. -/
def isVisible (c : Char) : Bool :=
  32 ≤ c.toNat && c.toNat < 127

/-- A blank or a line end. -/
def isSpace (c : Char) : Bool :=
  c == ' ' || c == '\n'

/-- A character that means something else at the beginning of a plain scalar. -/
def isIndicator (c : Char) : Bool :=
  ",[]#&*!|>%@\x7b\x7d\x27\x22\x60".toList.contains c

/-- Whether the characters behind a point end it: nothing is left, or a blank follows. -/
def endsHere : List Char → Bool
  | [] => true
  | c :: _ => isSpace c

/-- Whether a colon or a number sign in the text would be taken for the end of a key or for the beginning
of a comment. `spaced` says that a blank stands in front. -/
def hasMark (spaced : Bool) : List Char → Bool
  | [] => false
  | c :: rest =>
      (c == ':' && endsHere rest) || (c == '#' && spaced) || hasMark (isSpace c) rest

/-- Whether the first characters of a text would be taken for something else than a plain scalar. -/
def hasLeadingMark : List Char → Bool
  | '-' :: '-' :: '-' :: _ => true
  | '.' :: '.' :: '.' :: _ => true
  | c :: rest => isIndicator c || ((c == '?' || c == ':' || c == '-') && endsHere rest)
  | [] => false

/-- Whether a blank and a line end stand side by side, in this order or the other. -/
def hasBlankAtBreak : List Char → Bool
  | c :: d :: rest =>
      (isSpace c && isSpace d && c != d) || hasBlankAtBreak (d :: rest)
  | _ => false

/-- A text that may stand plainly: on one line, without blanks around it, and without characters that
would end it or make it something else. -/
def isPlainSafe (s : List Char) : Bool :=
  s.all isVisible && !(s.head?.any isSpace) && !(s.getLast?.any isSpace) && !hasLeadingMark s
    && !hasMark false (s.drop 1)

/-- A text that may stand in single quotation marks: nothing in it needs an escape, and no line of it
begins or ends with a blank. -/
def isSingleSafe (s : List Char) : Bool :=
  s.all (fun c => isVisible c || c == '\n') && !hasBlankAtBreak s

/-- The style of a text. A text that would read back as something else is never plain. -/
def scalarStyle (s : List Char) : ScalarStyle :=
  if plainTag s = .text && isPlainSafe s then .plain
  else if isSingleSafe s then .singleQuoted
  else .doubleQuoted

/-! ### Folding -/

/-- The column beyond which lines are folded. -/
def lineWidth : Nat := 80

/-- A line end and the blanks in front of the next line. -/
def nextLine (indent : Nat) : List Char :=
  '\n' :: List.replicate indent ' '

/-- A stretch of equal sort in a text. -/
inductive Run where
  | word (s : List Char)
  | blanks (count : Nat)
  | breaks (count : Nat)
deriving DecidableEq, Repr, Inhabited

/-- Put a character in front of runs. -/
def Run.cons (c : Char) : List Run → List Run
  | [] => if c == ' ' then [.blanks 1] else if c == '\n' then [.breaks 1] else [.word [c]]
  | .word s :: rest =>
      if c == ' ' then .blanks 1 :: .word s :: rest
      else if c == '\n' then .breaks 1 :: .word s :: rest
      else .word (c :: s) :: rest
  | .blanks n :: rest =>
      if c == ' ' then .blanks (n + 1) :: rest
      else if c == '\n' then .breaks 1 :: .blanks n :: rest
      else .word [c] :: .blanks n :: rest
  | .breaks n :: rest =>
      if c == ' ' then .blanks 1 :: .breaks n :: rest
      else if c == '\n' then .breaks (n + 1) :: rest
      else .word [c] :: .breaks n :: rest

/-- The runs of a text. -/
def runs (s : List Char) : List Run :=
  s.foldr Run.cons []

/-- Where a scalar stands: whether its lines may be folded, and the indentation of further lines. -/
structure Place where
  foldable : Bool
  indent : Nat
deriving DecidableEq, Repr, Inhabited

/-- Write runs from a column on. A single blank between words becomes a line end when the line is full; a
line end of the text is written twice, since a single one would be read as a blank. -/
def foldRuns (place : Place) (form : Char → List Char) (first : Bool) (column : Nat) :
    List Run → List Char
  | [] => []
  | .word s :: rest =>
      let written := s.flatMap form
      written ++ foldRuns place form false (column + written.length) rest
  | .blanks n :: rest =>
      if n == 1 && column > lineWidth && place.foldable && !first && !rest.isEmpty then
        nextLine place.indent ++ foldRuns place form false place.indent rest
      else List.replicate n ' ' ++ foldRuns place form false (column + n) rest
  | .breaks n :: rest =>
      List.replicate n '\n' ++ nextLine place.indent ++ foldRuns place form false place.indent rest

/-- The letter behind a backslash that stands for a character. -/
def shortEscape? (c : Char) : Option Char :=
  match c.toNat with
  | 0x00 => some '0'
  | 0x07 => some 'a'
  | 0x08 => some 'b'
  | 0x09 => some 't'
  | 0x0A => some 'n'
  | 0x0B => some 'v'
  | 0x0C => some 'f'
  | 0x0D => some 'r'
  | 0x1B => some 'e'
  | 0x22 => some '\x22'
  | 0x5C => some '\\'
  | 0x85 => some 'N'
  | 0xA0 => some '_'
  | 0x2028 => some 'L'
  | 0x2029 => some 'P'
  | _ => none

/-- The escape of a character in double quotation marks, unless it stands for itself. -/
def escape? (c : Char) : Option (List Char) :=
  match shortEscape? c with
  | some letter => some ['\\', letter]
  | none =>
      if isVisible c then none
      else if c.toNat < 0x100 then some ('\\' :: 'x' :: upperHexText 2 c.toNat)
      else if c.toNat < 0x10000 then some ('\\' :: 'u' :: upperHexText 4 c.toNat)
      else some ('\\' :: 'U' :: upperHexText 8 c.toNat)

/-- Fold a line in double quotation marks. A backslash ends the line, and another one keeps a blank at
the beginning of the next. -/
def foldQuoted (place : Place) (blankNext : Bool) : List Char :=
  '\\' :: nextLine place.indent ++ (if blankNext then ['\\'] else [])

/-- Write the characters between double quotation marks from a column on. A full line is folded in front
of a blank and on either side of an escape, but neither in front of the first nor behind the last
character. `fresh` says that an escape, or nothing, was written just before. -/
def doubleBody (place : Place) (first fresh : Bool) (column : Nat) : List Char → List Char
  | [] => []
  | c :: rest =>
      let inside := place.foldable && !first && !rest.isEmpty
      match escape? c with
      | none =>
          if inside && (c == ' ' || fresh) && column > lineWidth then
            let start := place.indent + (if c == ' ' then 1 else 0)
            foldQuoted place (c == ' ') ++ c :: doubleBody place false false (start + 1) rest
          else c :: doubleBody place false false (column + 1) rest
      | some written =>
          let column := column + written.length
          if inside && column > lineWidth + 1 then
            let blankNext := rest.head? == some ' '
            let start := place.indent + (if blankNext then 1 else 0)
            written ++ foldQuoted place blankNext ++ doubleBody place false true start rest
          else written ++ doubleBody place false true column rest

/-- A text as a scalar, from a column on. -/
def scalarText (place : Place) (column : Nat) (s : List Char) : List Char :=
  match scalarStyle s with
  | .plain => foldRuns place (fun c => [c]) true column (runs s)
  | .singleQuoted =>
      let form := fun c => if c == '\x27' then ['\x27', '\x27'] else [c]
      '\x27' :: (foldRuns place form true (column + 1) (runs s) ++ ['\x27'])
  | .doubleQuoted => '\x22' :: (doubleBody place true true (column + 1) s ++ ['\x22'])

/-! ### Trees

A block is a list of entries, each of which begins behind the indentation of the block. -/

/-- The entries of a block, the first of which begins where the block does. -/
def blockText (indent : Nat) : List (List Char) → List Char
  | [] => []
  | [entry] => entry
  | entry :: rest => entry ++ List.replicate indent ' ' ++ blockText indent rest

/-- A value that takes no block: a scalar or something empty, from a column on. -/
def flatText? (place : Place) (column : Nat) : Document → Option (Except WriteFailure (List Char))
  | .null => some (.ok "null".toList)
  | .flag b => some (.ok (if b then "true".toList else "false".toList))
  | .integer n => some (integerDigits n)
  | .text s => some (.ok (scalarText place column s.toList))
  | .list [] => some (.ok "[]".toList)
  | .record [] => some (.ok "\x7b\x7d".toList)
  | _ => none

mutual

/-- The entries of a list or record whose block is indented by `indent`. -/
def entries (indent : Nat) : Document → Except WriteFailure (List (List Char))
  | .list items => itemEntries indent items
  | .record fields => fieldEntries indent fields
  | _ => .ok []

/-- The entries of a list, each behind a hyphen. -/
def itemEntries (indent : Nat) : List Document → Except WriteFailure (List (List Char))
  | [] => .ok []
  | d :: rest => do
      let inner := indent + 2
      let text ←
        match flatText? ⟨true, inner⟩ inner d with
        | some text => text.map (· ++ ['\n'])
        | none => (entries inner d).map (blockText inner)
      let more ← itemEntries indent rest
      return ('-' :: ' ' :: text) :: more

/-- The entries of a record, each with a name. A list among them is not indented further. -/
def fieldEntries (indent : Nat) : List (String × Document) → Except WriteFailure (List (List Char))
  | [] => .ok []
  | (name, d) :: rest => do
      let key := scalarText ⟨false, indent + 2⟩ indent name.toList
      let column := indent + key.length + 2
      let text ←
        match flatText? ⟨true, indent + 2⟩ column d with
        | some text => text.map fun text => ' ' :: (text ++ ['\n'])
        | none =>
            let inner :=
              match d with
              | .list _ => indent
              | _ => indent + 2
            (entries inner d).map fun parts => nextLine inner ++ blockText inner parts
      let more ← fieldEntries indent rest
      return (key ++ ':' :: text) :: more

end

/-- A list of documents in YAML. -/
def writeItems (items : List Document) : Except WriteFailure String :=
  if items.isEmpty then .ok "[]\n"
  else (itemEntries 0 items).map fun parts => String.ofList (blockText 0 parts)

end Syscat.Yaml
