/-
Module: Syscat.Yaml.Tag
Purpose: The tags of YAML 1.1 and the tag that a plain scalar has by its form: words for truth values and
  null, integers in four bases and in base sixty, numbers with a point, timestamps, and text otherwise.
Main exports: Tag, Tag.ofName, plainTag, formTag
-/
import Syscat.Text.Hex
import Syscat.Text.Part

namespace Syscat.Yaml

/-- The tag of a node. -/
inductive Tag where
  | null
  | flag
  | integer
  | float
  | timestamp
  | merge
  | defaultValue
  | text
  | binary
  | sequence
  | mapping
  | orderedMapping
  | pairs
  | set
  | other (name : String)
deriving DecidableEq, Repr, Inhabited

/-- What the names of the standard tags begin with. -/
def standardHandle : String := "tag:yaml.org,2002:"

/-- The standard tags by the ends of their names. -/
def standardTags : List (String × Tag) := [
    ("null", .null), ("bool", .flag), ("int", .integer), ("float", .float), ("timestamp", .timestamp),
    ("merge", .merge), ("value", .defaultValue), ("str", .text), ("binary", .binary), ("seq", .sequence),
    ("map", .mapping), ("omap", .orderedMapping), ("pairs", .pairs), ("set", .set)]

/-- The tag with a name. -/
def Tag.ofName (name : String) : Tag :=
  match standardTags.find? fun entry => standardHandle ++ entry.1 == name with
  | some entry => entry.2
  | none => .other name

/-! ### Words -/

/-- The words for truth. -/
def trueWords : List String := [
    "yes", "Yes", "YES", "true", "True", "TRUE", "on", "On", "ON"]

/-- The words for falsehood. -/
def falseWords : List String := [
    "no", "No", "NO", "false", "False", "FALSE", "off", "Off", "OFF"]

/-- The words for null. The empty scalar is one of them. -/
def nullWords : List String := ["~", "null", "Null", "NULL", ""]

/-! ### Numbers

Underscores may stand anywhere behind the first digit of a number. -/

/-- A digit or an underscore. -/
def isDigitMark (c : Char) : Bool :=
  c.isDigit || c == '_'

/-- A digit of base eight or an underscore. -/
def isOctalMark (c : Char) : Bool :=
  (48 ≤ c.toNat && c.toNat < 56) || c == '_'

/-- The characters behind the sign that may stand in front. -/
def withoutSign : List Char → List Char
  | '-' :: s => s
  | '+' :: s => s
  | s => s

/-- A group of a number in base sixty: one digit, or two with the first below six. -/
def isSixtieth : List Char → Bool
  | [d] => d.isDigit
  | [d, e] => 48 ≤ d.toNat && d.toNat < 54 && e.isDigit
  | _ => false

/-- An unsigned integer without a point: binary, octal, decimal, hexadecimal or in base sixty. -/
def isIntegerForm : List Char → Bool
  | '0' :: 'b' :: rest => !rest.isEmpty && rest.all fun c => c == '0' || c == '1' || c == '_'
  | '0' :: 'x' :: rest => !rest.isEmpty && rest.all fun c => (hexValue? c).isSome || c == '_'
  | '0' :: rest => rest.all isOctalMark
  | c :: rest =>
      c.isDigit &&
        match splitOn ':' rest with
        | [] => false
        | first :: groups => first.all isDigitMark && groups.all isSixtieth
  | [] => false

/-- The exponent behind a number with a point: nothing, or a mark with a sign and digits. -/
def isExponent : List Char → Bool
  | [] => true
  | mark :: sign :: digits =>
      (mark == 'e' || mark == 'E') && (sign == '-' || sign == '+')
        && !digits.isEmpty && digits.all Char.isDigit
  | _ => false

/-- The part of a number behind its point: digits and underscores and an exponent. -/
def isFraction (s : List Char) : Bool :=
  isExponent (s.dropWhile isDigitMark)

/-- The last group of a number in base sixty, which ends in a point with digits behind it. -/
def isSixtiethFraction (s : List Char) : Bool :=
  let (group, rest) := s.span (· != '.')
  isSixtieth group &&
    match rest with
    | _ :: fraction => fraction.all isDigitMark
    | [] => false

/-- Groups of a number in base sixty of which the last ends in a point with digits. -/
def isSixtiethTail : List (List Char) → Bool
  | [] => false
  | [last] => isSixtiethFraction last
  | group :: rest => isSixtieth group && isSixtiethTail rest

/-- A number with a point behind its first digits, either decimal or in base sixty, without its sign. -/
def isPointedForm : List Char → Bool
  | [] => false
  | c :: rest =>
      c.isDigit &&
        match rest.dropWhile isDigitMark with
        | '.' :: fraction => isFraction fraction
        | ':' :: groups => isSixtiethTail (splitOn ':' groups)
        | _ => false

/-- A number with a point: digits stand in front of it, or behind it without a sign, or a word stands for
a value that is not finite. -/
def isFloatForm (s : List Char) : Bool :=
  isPointedForm (withoutSign s)
    || (match s with
        | '.' :: c :: rest => c.isDigit && isFraction rest
        | _ => false)
    || [".inf", ".Inf", ".INF"].contains (String.ofList (withoutSign s))
    || [".nan", ".NaN", ".NAN"].contains (String.ofList s)

/-! ### Timestamps -/

/-- The digits of a timestamp, and those of its time unless it is a date. The zone is the letter for
universal time, or a sign with hours and minutes. -/
structure TimestampDigits where
  year : List Char
  month : List Char
  day : List Char
  time : Option (List Char × List Char × List Char × List Char)
  zone : Option (Option (Bool × List Char × List Char))
deriving Repr, DecidableEq

/-- Take up to `most` digits, but at least `least`. -/
def takeDigits? (least most : Nat) (s : List Char) : Option (List Char × List Char) :=
  let digits := (s.take most).takeWhile Char.isDigit
  if least ≤ digits.length then some (digits, s.drop digits.length) else none

/-- Drop a certain character. -/
def dropChar? (c : Char) : List Char → Option (List Char)
  | [] => none
  | d :: rest => if c == d then some rest else none

/-- A blank or a tab. -/
def isBlankOrTab (c : Char) : Bool :=
  c == ' ' || c == '\t'

/-- The zone at the end of a timestamp, which blanks may precede. -/
def zone? (s : List Char) : Option (Option (Option (Bool × List Char × List Char))) :=
  if s.isEmpty then some none
  else
    match s.dropWhile isBlankOrTab with
    | ['Z'] => some (some none)
    | sign :: rest =>
        if sign == '-' || sign == '+' then
          match takeDigits? 1 2 rest with
          | none => none
          | some (hours, []) => some (some (some (sign == '-', hours, [])))
          | some (hours, rest) => do
              let (minutes, rest) ← takeDigits? 2 2 (← dropChar? ':' rest)
              if rest.isEmpty then return some (some (sign == '-', hours, minutes)) else none
        else none
    | [] => none

/-- The digits of a timestamp: a date, and behind the letter `T` or blanks a time with an optional
fraction and an optional zone. -/
def timestampDigits? (s : List Char) : Option TimestampDigits := do
  let (year, s) ← takeDigits? 4 4 s
  let (month, s) ← takeDigits? 1 2 (← dropChar? '-' s)
  let (day, s) ← takeDigits? 1 2 (← dropChar? '-' s)
  match s with
  | [] => return ⟨year, month, day, none, none⟩
  | c :: rest =>
      let behind ←
        if c == 'T' || c == 't' then some rest
        else if isBlankOrTab c then some (rest.dropWhile isBlankOrTab)
        else none
      let (hour, s) ← takeDigits? 1 2 behind
      let (minute, s) ← takeDigits? 2 2 (← dropChar? ':' s)
      let (second, s) ← takeDigits? 2 2 (← dropChar? ':' s)
      let (fraction, s) :=
        match s with
        | '.' :: s => s.span Char.isDigit
        | s => ([], s)
      return ⟨year, month, day, some (hour, minute, second, fraction), ← zone? s⟩

/-- A timestamp. Without a time its month and its day have two digits each. -/
def isTimestampForm (s : List Char) : Bool :=
  match timestampDigits? s with
  | none => false
  | some parts => parts.time.isSome || (parts.month.length == 2 && parts.day.length == 2)

/-! ### The tag by form -/

/-- The tag that a plain scalar has by its form. -/
def plainTag (s : List Char) : Tag :=
  let word := String.ofList s
  if trueWords.contains word || falseWords.contains word then .flag
  else if nullWords.contains word then .null
  else if isFloatForm s then .float
  else if isIntegerForm (withoutSign s) then .integer
  else if word == "<<" then .merge
  else if isTimestampForm s then .timestamp
  else if word == "=" then .defaultValue
  else if word == "!" || word == "&" || word == "*" then .other (standardHandle ++ "yaml")
  else .text

/-- The tag that a text has by its form if a line end behind it is passed over. A line end alone is a
text. -/
def formTag (s : List Char) : Tag :=
  if s == ['\n'] then .text else plainTag (withoutLineEnd s)

end Syscat.Yaml
