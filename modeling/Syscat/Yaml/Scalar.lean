/-
Module: Syscat.Yaml.Scalar
Purpose: The texts of scalars in YAML: plain, in quotation marks, and as blocks of lines. A single
  line end inside a scalar counts as a blank, except in literal blocks; of several one is dropped.
Main exports: plainScalar, quotedScalar, blockScalar
-/
import Syscat.Text.Hex
import Syscat.Yaml.Cursor

namespace Syscat.Yaml

/-- A text and the place behind it. -/
abbrev Scanned := List Char × Cursor

/-- What a line end and the empty lines behind it count as inside a scalar. -/
def foldedBreak (first rest : List Char) : List Char :=
  if first != ['\n'] then first ++ rest
  else if rest.isEmpty then [' ']
  else rest

/-! ### Plain scalars -/

/-- How many characters a piece of a plain scalar has. It ends at a gap, at a colon in front of a gap, and
inside brackets at some marks. -/
def plainLength (inFlow : Bool) : List Char → Nat
  | [] => 0
  | c :: rest =>
      if c == ' ' || c == '\t' || isBreak c then 0
      else if c == ':' && (atGap rest || (inFlow && rest.head?.any fun d =>
        ",[]\x7b\x7d".toList.contains d))
      then 0
      else if inFlow && ",?[]\x7b\x7d".toList.contains c then 0
      else plainLength inFlow rest + 1

/-- The empty lines inside a plain scalar; nothing if documents are separated there. -/
def plainBreaks : Nat → Cursor → Option Scanned
  | 0, c => some ([], c)
  | fuel + 1, c =>
      if c.ahead (· == ' ') then plainBreaks fuel c.next
      else if c.ahead isBreak then
        let (first, behind) := c.lineBreak
        if behind.atSeparator then none
        else (plainBreaks fuel behind).map fun (more, c) => (first ++ more, c)
      else some ([], c)

/-- What stands between two pieces of a plain scalar, and whether a line ends there. -/
def plainSpaces (c : Cursor) : Option (List Char) × Cursor × Bool :=
  let (blanks, c) := c.takeWhile (· == ' ')
  if c.ahead isBreak then
    let (first, c) := c.lineBreak
    if c.atSeparator then (none, c, true)
    else
      match plainBreaks (c.rest.length + 1) c with
      | none => (none, c, true)
      | some (rest, c) => (some (foldedBreak first rest), c, true)
  else (if blanks.isEmpty then none else some blanks, c, false)

/-- The pieces of a plain scalar. `ended` says that a line ended behind the last piece. Outside brackets
the pieces stand at least as deep as `indent`. -/
def plainPieces (inFlow : Bool) (indent : Int) :
    Nat → List Char → Cursor → Bool → List Char × Cursor × Bool
  | 0, _, c, ended => ([], c, ended)
  | fuel + 1, spaces, c, ended =>
      let length := if c.ahead (· == '#') then 0 else plainLength inFlow c.rest
      if length == 0 then ([], c, ended)
      else
        let piece := c.rest.take length
        let (more, behind, ended) := plainSpaces (c.skip length)
        match more with
        | none => (spaces ++ piece, behind, ended)
        | some more =>
            if behind.ahead (· == '#') || (!inFlow && (behind.column : Int) < indent) then
              (spaces ++ piece, behind, ended)
            else
              let (text, c, ended) := plainPieces inFlow indent fuel more behind ended
              (spaces ++ piece ++ text, c, ended)

/-- A plain scalar, the place behind it, and whether a line ended there. -/
def plainScalar (inFlow : Bool) (indent : Int) (c : Cursor) : List Char × Cursor × Bool :=
  plainPieces inFlow indent (c.rest.length + 1) [] c false

/-! ### Scalars in quotation marks -/

/-- The character that a letter behind a backslash stands for. -/
def letterEscape? (c : Char) : Option Char :=
  match c with
  | '0' => some '\x00'
  | 'a' => some '\x07'
  | 'b' => some '\x08'
  | 't' => some '\t'
  | '\t' => some '\t'
  | 'n' => some '\n'
  | 'v' => some '\x0b'
  | 'f' => some '\x0c'
  | 'r' => some '\r'
  | 'e' => some '\x1b'
  | ' ' => some ' '
  | '\x22' => some '\x22'
  | '\\' => some '\\'
  | '/' => some '/'
  | 'N' => some '\u0085'
  | '_' => some '\u00a0'
  | 'L' => some '\u2028'
  | 'P' => some '\u2029'
  | _ => none

/-- How many hexadecimal digits follow a letter behind a backslash. -/
def escapeWidth? (c : Char) : Option Nat :=
  if c == 'x' then some 2 else if c == 'u' then some 4 else if c == 'U' then some 8 else none

/-- The character with a number. A surrogate becomes the replacement character. -/
def codePoint (n : Nat) : Except ReadFailure Char :=
  if n.isValidChar then .ok (Char.ofNat n)
  else if n < 0x110000 then .ok replacementChar
  else .error (.codePoint n)

/-- The empty lines inside quotation marks. Documents may not be separated there. -/
def quotedBreaks : Nat → Cursor → Except ReadFailure Scanned
  | 0, _ => illFormed
  | fuel + 1, c =>
      if c.atSeparator then illFormed
      else
        let c := c.skipWhile fun ch => ch == ' ' || ch == '\t'
        if c.ahead isBreak then do
          let (first, c) := c.lineBreak
          let (more, c) ← quotedBreaks fuel c
          return (first ++ more, c)
        else .ok ([], c)

/-- What an escape in double quotation marks stands for, the backslash being passed. A line end behind it
counts as nothing. -/
def escape (c : Cursor) : Except ReadFailure Scanned :=
  match c.rest with
  | [] => illFormed
  | ch :: rest =>
      match letterEscape? ch, escapeWidth? ch with
      | some e, _ => .ok ([e], c.next)
      | none, some width =>
          if rest.length < width then illFormed
          else
            match hexNumber? (rest.take width) with
            | some n => do return ([← codePoint n], c.skip (width + 1))
            | none => illFormed
      | none, none =>
          if isBreak ch then quotedBreaks (rest.length + 1) c.skipBreak else illFormed

/-- The characters up to the next gap or to the quotation mark that ends the scalar. -/
def quotedPiece (double : Bool) : Nat → Cursor → Except ReadFailure Scanned
  | 0, _ => illFormed
  | fuel + 1, c =>
      match c.rest with
      | [] => .ok ([], c)
      | ch :: rest =>
          if ch == ' ' || ch == '\t' || isBreak ch then .ok ([], c)
          else if !double && ch == '\x27' && rest.head? == some '\x27' then do
            let (more, c) ← quotedPiece double fuel (c.skip 2)
            return ('\x27' :: more, c)
          else if ch == (if double then '\x22' else '\x27') then .ok ([], c)
          else if double && ch == '\\' then do
            let (text, c) ← escape c.next
            let (more, c) ← quotedPiece double fuel c
            return (text ++ more, c)
          else do
            let (more, c) ← quotedPiece double fuel c.next
            return (ch :: more, c)

/-- What the gap at a place inside quotation marks counts as. -/
def quotedSpaces (c : Cursor) : Except ReadFailure Scanned :=
  let (blanks, c) := c.takeWhile fun ch => ch == ' ' || ch == '\t'
  if c.rest.isEmpty then illFormed
  else if c.ahead isBreak then do
    let (first, c) := c.lineBreak
    let (rest, c) ← quotedBreaks (c.rest.length + 1) c
    return (foldedBreak first rest, c)
  else .ok (blanks, c)

/-- The rest of a scalar up to the quotation mark that ends it. -/
def quotedRest (double : Bool) : Nat → Cursor → Except ReadFailure Scanned
  | 0, _ => illFormed
  | fuel + 1, c => do
      let (piece, c) ← quotedPiece double (c.rest.length + 1) c
      if c.ahead (· == (if double then '\x22' else '\x27')) then return (piece, c.next)
      else
        let (spaces, c) ← quotedSpaces c
        let (more, c) ← quotedRest double fuel c
        return (piece ++ spaces ++ more, c)

/-- A scalar that begins with a quotation mark. -/
def quotedScalar (double : Bool) (c : Cursor) : Except ReadFailure Scanned :=
  quotedRest double (c.rest.length + 1) c.next

/-! ### Blocks -/

/-- What is kept of the line ends at the end of a block. -/
inductive Chomping where
  | strip
  | clip
  | keep
deriving DecidableEq, Repr, Inhabited

/-- The chomping mark at a place. -/
def chompingMark? (c : Cursor) : Option Chomping :=
  match c.rest with
  | '+' :: _ => some .keep
  | '-' :: _ => some .strip
  | _ => none

/-- The indentation mark at a place: a digit other than zero. -/
def indentMark? (c : Cursor) : Except ReadFailure (Option Nat) :=
  match c.rest with
  | [] => .ok none
  | ch :: _ =>
      if ch == '0' then illFormed
      else if ch.isDigit then .ok (some (ch.toNat - 48))
      else .ok none

/-- The marks behind the sign of a block, in either order. -/
def blockMarks (c : Cursor) : Except ReadFailure (Chomping × Option Nat × Cursor) := do
  let (chomping, indent, c) ←
    match chompingMark? c with
    | some chomping =>
        match ← indentMark? c.next with
        | some n => pure (chomping, some n, c.skip 2)
        | none => pure (chomping, none, c.next)
    | none =>
        match ← indentMark? c with
        | none => pure (Chomping.clip, none, c)
        | some n =>
            match chompingMark? c.next with
            | some chomping => pure (chomping, some n, c.skip 2)
            | none => pure (Chomping.clip, some n, c.next)
  if atBlank c.rest then return (chomping, indent, c) else illFormed

/-- The empty lines at the beginning of a block, and the greatest indentation among them and the first
line with a text. -/
def leadingBreaks : Nat → Nat → Cursor → List Char × Nat × Cursor
  | 0, deepest, c => ([], deepest, c)
  | fuel + 1, deepest, c =>
      if c.ahead (· == ' ') then leadingBreaks fuel (max deepest c.next.column) c.next
      else if c.ahead isBreak then
        let (first, c) := c.lineBreak
        let (more, deepest, c) := leadingBreaks fuel deepest c
        (first ++ more, deepest, c)
      else ([], deepest, c)

/-- The place behind the indentation of a line. -/
def skipIndent : Nat → Nat → Cursor → Cursor
  | 0, _, c => c
  | fuel + 1, indent, c =>
      if c.column < indent && c.ahead (· == ' ') then skipIndent fuel indent c.next else c

/-- The empty lines inside a block, and the place behind the indentation of the line after them. -/
def blockBreaks (indent : Nat) : Nat → Cursor → Scanned
  | 0, c => ([], c)
  | fuel + 1, c =>
      let c := skipIndent indent indent c
      if c.ahead isBreak then
        let (first, c) := c.lineBreak
        let (more, c) := blockBreaks indent fuel c
        (first ++ more, c)
      else ([], c)

/-- A line with a blank or a tab in front is not folded. -/
def startsBlank (c : Cursor) : Bool :=
  c.ahead fun ch => ch == ' ' || ch == '\t'

/-- The lines of a block: its text, the last line end and the empty lines behind it. -/
def blockLines (folded : Bool) (indent : Nat) : Nat → List Char → Cursor →
    List Char × List Char × List Char × Cursor
  | 0, breaks, c => ([], [], breaks, c)
  | fuel + 1, breaks, c =>
      let flush := !startsBlank c
      let (line, c) := c.takeWhile fun ch => !isBreak ch
      let (lineEnd, c) := c.lineBreak
      let (behind, c) := blockBreaks indent (c.rest.length + 1) c
      if c.column == indent && !c.rest.isEmpty then
        let joint :=
          if folded && lineEnd == ['\n'] && flush && !startsBlank c then
            if behind.isEmpty then [' '] else []
          else lineEnd
        let (text, last, trailing, c) := blockLines folded indent fuel behind c
        (breaks ++ line ++ joint ++ text, last, trailing, c)
      else (breaks ++ line, lineEnd, behind, c)

/-- A scalar in the form of a block, `parent` being the indentation of what it belongs to. -/
def blockScalar (folded : Bool) (parent : Int) (c : Cursor) : Except ReadFailure Scanned := do
  let (chomping, mark, c) ← blockMarks c.next
  let c ← c.skipRest
  let least := (max 1 (parent + 1)).toNat
  let (breaks, indent, c) :=
    match mark with
    | some n =>
        let indent := least + n - 1
        let (breaks, c) := blockBreaks indent (c.rest.length + 1) c
        (breaks, indent, c)
    | none =>
        let (breaks, deepest, c) := leadingBreaks (c.rest.length + 1) 0 c
        (breaks, max least deepest, c)
  let (text, last, trailing, c) :=
    if c.column == indent && !c.rest.isEmpty then
      blockLines folded indent (c.rest.length + 1) breaks c
    else ([], [], breaks, c)
  match chomping with
  | .strip => return (text, c)
  | .clip => return (text ++ last, c)
  | .keep => return (text ++ last ++ trailing, c)

end Syscat.Yaml
