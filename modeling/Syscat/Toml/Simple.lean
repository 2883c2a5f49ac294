/-
Module: Syscat.Toml.Simple
Purpose: Numbers, dates and times of day in TOML. A date is read by the positions of its parts, whatever
  stands between them, and a time of day by its beginning.
Main exports: Kind, isStrictNumeral, readMoment?, readClock?, readNumber
-/
import Syscat.Number.Based
import Syscat.Number.Double
import Syscat.Toml.Lines

namespace Syscat.Toml

/-- The sorts of values, which the items of an array have in common. -/
inductive Kind where
  | flag
  | text
  | array
  | table
  | clock
  | moment
  | integer
  | float
deriving DecidableEq, Repr, Inhabited

/-- Whether a pair of characters stands side by side somewhere. -/
def hasPair (a b : Char) : List Char → Bool
  | c :: d :: rest => (c == a && d == b) || hasPair a b (d :: rest)
  | _ => false

/-- Whether the underscores, the leading zeros and the sign of a number stand where they may. -/
def isStrictNumeral (s : List Char) : Bool :=
  match strip s with
  | [] => false
  | [c] => c != '_'
  | first :: second :: rest =>
      let s := first :: second :: rest
      let marked := first == '+' || first == '-'
      let body := if marked then second :: rest else s
      first != '_' && s.getLast? != some '_' && !hasPair '_' '.' s && !hasPair '.' '_' s
        && !(first == '0' && !(second == '.' || second == 'o' || second == 'b' || second == 'x'))
        && !(marked && second == '0' && !(rest.isEmpty || rest.head? == some '.'))
        && !hasPair '_' '_' body

/-! ### Dates -/

/-- The integer that a stretch of the text spells. -/
def integerAt? (start stop : Nat) (s : List Char) : Option Int :=
  match Numeral.read ((s.take stop).drop start) with
  | .ok n => some n
  | .error _ => none

/-- The offset from universal time that a text spells, in microseconds. The letter `Z` means none. -/
def offsetMicros? (s : List Char) : Option Int :=
  let s := if s == ['Z'] then "+00:00".toList else s
  do
    let hours ← integerAt? 1 3 s
    let minutes ← integerAt? 4 6 s
    let size := (hours * 60 + minutes) * 60000000
    return if s.head? == some '-' then -size else size

/-- The whole number in front of the point of a finite number. -/
def wholePart : Double → Int
  | .finite negative m e =>
      let whole := (Double.magnitude m e).num / (Double.magnitude m e).den
      if negative then -whole else whole
  | _ => 0

/-- The microseconds that the digits behind the point of a second spell. More than six digits are scaled
down with the precision of floating-point numbers, of which they have to spell one. -/
def fractionMicros? (digits : List Char) : Except ReadFailure (Option Int) :=
  match Numeral.read digits with
  | .error _ => .ok none
  | .ok n =>
      if digits.length ≤ 6 then .ok (some (n * Nat.pow 10 (6 - digits.length)))
      else
        match Double.ofInt n with
        | .infinite _ => .error .wideInteger
        | x => .ok (some (wholePart (Double.mul x (Double.ofDecimal false 1 (6 - digits.length)))))

/-- The digits behind the point of a second, and the offset that follows them. -/
def splitFraction (s : List Char) : List Char × Option (List Char) :=
  match s.getLast? with
  | some last =>
      if last == 'Z' || last == 'z' then (s.dropLast, some ['Z'])
      else
        let sign := if s.contains '+' then '+' else '-'
        if s.contains sign then (s.takeWhile (· != sign), some (s.dropWhile (· != sign)))
        else (s, none)
  | none => (s, none)

/-- The microseconds and the offset that follow the second of a timestamp, behind its nineteenth
character. What cannot be read counts as nothing. -/
def readTail (s : List Char) : Except ReadFailure (Int × Option Int) :=
  match s with
  | [] => .ok (0, none)
  | '.' :: rest =>
      let (digits, zone) := splitFraction rest
      match zone.map offsetMicros? with
      | some none => .ok (0, none)
      | offset => do
          match ← fractionMicros? digits with
          | some micros => return (micros, offset.join)
          | none => return (0, none)
  | zone => .ok (0, offsetMicros? zone)

/-- The number of a part of a date or time, which is never negative. -/
def natAt? (start stop : Nat) (s : List Char) : Option Nat :=
  match integerAt? start stop s with
  | some (.ofNat n) => some n
  | _ => none

/-- A date, or a date and a time, given the microseconds and the offset behind its seconds. -/
def momentWith? (micros : Int) (offset : Option Int) (s : List Char) : Option Value :=
  if !(s.drop 1).contains '-' then none
  else do
    let date ← Date.ofParts? (← natAt? 0 4 s) (← natAt? 5 7 s) (← natAt? 8 10 s)
    if s.length == 10 then return .day date
    else
      let clock ← Clock.ofParts? (← natAt? 11 13 s) (← natAt? 14 16 s) (← natAt? 17 19 s)
        (← micros.toNat?)
      return .moment ⟨date, clock, offset.bind Offset.ofMicros?⟩

/-- Read a date, or a date and a time. What would stand behind the seconds is read first, in any text. -/
def readMoment? (s : List Char) : Except ReadFailure (Option Value) := do
  let (micros, offset) ← readTail (s.drop 19)
  return momentWith? micros offset s

/-- The digits of a time of day at the front: hours, minutes, seconds and three to six digits behind a
point. -/
def clockDigits? (s : List Char) : Option (Nat × Nat × Nat × Nat) :=
  let isDigitAt (i : Nat) : Bool := (s[i]?).any Char.isDigit
  let numberAt (i : Nat) : Nat := Numeral.ofDigits (((s.drop i).take 2).map fun c => c.toNat - 48)
  if [0, 1, 3, 4, 6, 7].all isDigitAt && s[2]? == some ':' && s[5]? == some ':' then
    let fraction := ((s.drop 9).take 6).takeWhile Char.isDigit
    let micros :=
      if s[8]? == some '.' && 3 ≤ fraction.length then
        Numeral.ofDigits (fraction.map fun c => c.toNat - 48)
      else 0
    some (numberAt 0, numberAt 3, numberAt 6, micros)
  else none

/-- Read a time of day, unless the text does not begin like one. The digits behind the point are taken
for microseconds, however many there are. -/
def readClock? (s : List Char) : Option (Except ReadFailure Value) :=
  (clockDigits? s).map fun (hour, minute, second, micros) =>
    match Clock.ofParts? hour minute second micros with
    | some clock => .ok (.clock clock)
    | none => illFormed

/-! ### Numbers -/

/-- Zero minus a number, which for zero is zero without a sign. -/
def negated : Value → Value
  | .integer n => .integer (-n)
  | .double x => .double (Double.add (Double.zero false) x.negate)
  | v => v

/-- Read an unsigned number. It is a floating-point number if it has a point or an exponent. -/
def readUnsigned (s : List Char) : Except ReadFailure (Value × Kind) :=
  let has (c : Char) : Bool := s.contains c
  let word := String.ofList (s.map Char.toLower)
  let asFloat : Except ReadFailure (Value × Kind) :=
    match Double.read? s with
    | some x => .ok (.double x, .float)
    | none => illFormed
  if has '.' || (!has 'x' && (has 'e' || has 'E')) then
    if (has '.' && (s.dropWhile (· != '.')).length == 1) || !(s.head?.any Char.isDigit) then illFormed
    else asFloat
  else if word == "inf" || word == "nan" then asFloat
  else
    match Based.readSpelled s with
    | .ok n => .ok (.integer n, .integer)
    | .error _ => illFormed

/-- Read a number with an optional sign. Underscores are dropped. -/
def readNumber (s : List Char) : Except ReadFailure (Value × Kind) :=
  let (negative, body) :=
    match s with
    | '-' :: rest => (true, rest)
    | '+' :: rest => (false, rest)
    | rest => (false, rest)
  do
    let (v, kind) ← readUnsigned (body.filter (· != '_'))
    return (if negative then negated v else v, kind)

end Syscat.Toml
