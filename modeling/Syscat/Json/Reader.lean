/-
Module: Syscat.Json.Reader
Purpose: Reading of JSON, including the words for the numbers that are not finite. Of equal names in an
  object the first keeps its place and the last gives the value.
Main exports: Json.read
-/
import Syscat.Document.ReadFailure

namespace Syscat.Json

/-- What a part is read as, and the characters behind it. -/
abbrev Parsed (α : Type) := α × List Char

/-- The text is not well-formed. -/
def illFormed {α : Type} : Except ReadFailure α :=
  .error (.malformed .json)

/-- The blanks that may stand between the parts of a text. -/
def isGap (c : Char) : Bool :=
  c == ' ' || c == '\t' || c == '\n' || c == '\r'

/-- The characters behind the blanks at the front. -/
def skipGap (s : List Char) : List Char :=
  s.dropWhile isGap

/-- The characters behind a word that the text begins with. -/
def behind? (word : String) (s : List Char) : Option (List Char) :=
  if word.toList.isPrefixOf s then some (s.drop word.length) else none

/-! ### Texts -/

/-- The character that a letter behind a backslash stands for. -/
def shortEscape? : Char → Option Char
  | '\x22' => some '\x22'
  | '\\' => some '\\'
  | '/' => some '/'
  | 'b' => some '\x08'
  | 'f' => some '\x0c'
  | 'n' => some '\n'
  | 'r' => some '\r'
  | 't' => some '\t'
  | _ => none

/-- The UTF-16 unit that four hexadecimal digits spell. -/
def unit? (a b c d : Char) : Option Nat :=
  hexNumber? [a, b, c, d]

/-- The first unit of a pair of surrogates. -/
def isHighSurrogate (n : Nat) : Bool :=
  0xD800 ≤ n && n < 0xDC00

/-- The second unit of a pair of surrogates. -/
def isLowSurrogate (n : Nat) : Bool :=
  0xDC00 ≤ n && n < 0xE000

/-- The character of a UTF-16 unit. A surrogate on its own has none and becomes the replacement
character. -/
def unitChar (n : Nat) : Char :=
  if isHighSurrogate n || isLowSurrogate n then replacementChar else Char.ofNat n

/-- The unit that an escape at the front spells, and what follows the escape. -/
def unitEscape? : List Char → Option (Nat × List Char)
  | '\\' :: 'u' :: a :: b :: c :: d :: rest => (unit? a b c d).map fun n => (n, rest)
  | _ => none

/-- Read the characters of a text up to the quotation mark that ends it. A pair of surrogates makes up
one character; control characters have to be escaped. -/
def readText : Nat → List Char → Except ReadFailure (Parsed (List Char))
  | 0, _ => illFormed
  | _ + 1, [] => illFormed
  | fuel + 1, '\\' :: 'u' :: rest =>
      match unitEscape? ('\\' :: 'u' :: rest) with
      | none => illFormed
      | some (n, rest) =>
          match unitEscape? rest with
          | some (m, behind) =>
              if isHighSurrogate n && isLowSurrogate m then do
                let c := Char.ofNat (0x10000 + (n - 0xD800) * 0x400 + (m - 0xDC00))
                let (text, rest) ← readText fuel behind
                return (c :: text, rest)
              else do
                let (text, rest) ← readText fuel rest
                return (unitChar n :: text, rest)
          | none => do
              let (text, rest) ← readText fuel rest
              return (unitChar n :: text, rest)
  | fuel + 1, '\\' :: c :: rest =>
      match shortEscape? c with
      | none => illFormed
      | some e => do
          let (text, rest) ← readText fuel rest
          return (e :: text, rest)
  | fuel + 1, c :: rest =>
      if c == '\x22' then .ok ([], rest)
      else if c.toNat < 32 || c == '\\' then illFormed
      else do
        let (text, rest) ← readText fuel rest
        return (c :: text, rest)

/-! ### Numbers -/

/-- The digits at the front, and what follows them. -/
def splitDigits (s : List Char) : List Char × List Char :=
  (s.takeWhile Char.isDigit, s.dropWhile Char.isDigit)

/-- The digits of the whole part of a number: a lone zero, or digits that begin with another one. -/
def wholePart? : List Char → Option (List Char × List Char)
  | '0' :: rest => some (['0'], rest)
  | s =>
      match splitDigits s with
      | ([], _) => none
      | (digits, rest) => some (digits, rest)

/-- A point and the digits behind it, if there are any. -/
def fractionPart : List Char → List Char × List Char
  | '.' :: rest =>
      match splitDigits rest with
      | ([], _) => ([], '.' :: rest)
      | (digits, behind) => ('.' :: digits, behind)
  | s => ([], s)

/-- An exponent with its sign, if there is one. -/
def exponentPart : List Char → List Char × List Char
  | [] => ([], [])
  | mark :: rest =>
      if mark == 'e' || mark == 'E' then
        let (sign, digits, behind) :=
          match rest with
          | '-' :: s => (['-'], splitDigits s)
          | '+' :: s => (['+'], splitDigits s)
          | s => ([], splitDigits s)
        if digits.isEmpty then ([], mark :: rest) else (mark :: sign ++ digits, behind)
      else ([], mark :: rest)

/-- Read an unsigned number. It is an integer unless it has a fraction or an exponent. -/
def readMagnitude (negative : Bool) (s : List Char) : Except ReadFailure (Parsed Value) :=
  match wholePart? s with
  | none => illFormed
  | some (whole, rest) =>
      let (fraction, rest) := fractionPart rest
      let (exponent, rest) := exponentPart rest
      if fraction.isEmpty && exponent.isEmpty then
        match Numeral.readNat whole with
        | .ok n => .ok (.integer (if negative then -(n : Int) else n), rest)
        | .error (.tooLong digits) => .error (.longNumeral digits)
        | .error .malformed => illFormed
      else
        match Double.readUnsigned? negative (whole ++ fraction ++ exponent) with
        | some x => .ok (.double x, rest)
        | none => illFormed

/-- The values that words stand for. -/
def words : List (String × Value) := [
    ("null", .null), ("true", .flag true), ("false", .flag false), ("NaN", .double .nan),
    ("Infinity", .double (.infinite false)), ("-Infinity", .double (.infinite true))]

/-- Read a word or a number. -/
def readSimple (s : List Char) : Except ReadFailure (Parsed Value) :=
  match words.findSome? fun (word, v) => (behind? word s).map fun rest => (v, rest) with
  | some found => .ok found
  | none =>
      match s with
      | '-' :: rest => readMagnitude true rest
      | s => readMagnitude false s

/-! ### Values -/

mutual

/-- Read a value at the front. -/
def readValue : Nat → List Char → Except ReadFailure (Parsed Value)
  | 0, _ => illFormed
  | fuel + 1, '[' :: rest =>
      match skipGap rest with
      | ']' :: rest => .ok (.list [], rest)
      | rest => do
          let (items, rest) ← readItems fuel rest
          return (.list items, rest)
  | fuel + 1, c :: rest =>
      if c == '\x7b' then
        match skipGap rest with
        | '\x7d' :: rest => .ok (.table [], rest)
        | rest => do
            let (members, rest) ← readMembers fuel rest
            return (.table (Value.collectEntries members), rest)
      else if c == '\x22' then do
        let (text, rest) ← readText (rest.length + 1) rest
        return (.text (String.ofList text), rest)
      else readSimple (c :: rest)
  | _ + 1, [] => illFormed

/-- Read the items of an array up to the bracket that ends it. -/
def readItems : Nat → List Char → Except ReadFailure (Parsed (List Value))
  | 0, _ => illFormed
  | fuel + 1, s => do
      let (item, rest) ← readValue fuel s
      match skipGap rest with
      | ',' :: rest =>
          let (items, rest) ← readItems fuel (skipGap rest)
          return (item :: items, rest)
      | ']' :: rest => return ([item], rest)
      | _ => illFormed

/-- Read the members of an object up to the brace that ends it. -/
def readMembers : Nat → List Char → Except ReadFailure (Parsed (List (Value × Value)))
  | 0, _ => illFormed
  | _ + 1, [] => illFormed
  | fuel + 1, mark :: rest =>
      if mark == '\x22' then do
        let (name, rest) ← readText (rest.length + 1) rest
        match skipGap rest with
        | ':' :: rest =>
            let (v, rest) ← readValue fuel (skipGap rest)
            let member := (Value.text (String.ofList name), v)
            match skipGap rest with
            | ',' :: rest =>
                let (members, rest) ← readMembers fuel (skipGap rest)
                return (member :: members, rest)
            | '\x7d' :: rest => return ([member], rest)
            | _ => illFormed
        | _ => illFormed
      else illFormed

end

/-- Read a text as one value with blanks around it. Every level of nesting takes at least one character,
so the length of the text bounds the depth. -/
def read (s : List Char) : Except ReadFailure Value := do
  let (v, rest) ← readValue (s.length + 1) (skipGap s)
  match skipGap rest with
  | [] => return v
  | _ => illFormed

end Syscat.Json
