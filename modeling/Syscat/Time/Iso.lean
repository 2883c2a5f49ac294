/-
Module: Syscat.Time.Iso
Purpose: Reading of timestamps in the notation of ISO 8601: calendar dates and week dates, extended and
  basic, any character between date and time, fractions of any length, and offsets. Positions count
  octets of UTF-8, and the zero character counts as the end of the text where an end is looked for.
Main exports: readIso?
-/
import Syscat.Time.Timestamp

namespace Syscat.Iso

/-- The value of an ASCII digit. -/
def asciiDigit? (c : Char) : Option Nat :=
  if 48 ≤ c.toNat ∧ c.toNat ≤ 57 then some (c.toNat - 48) else none

/-- An ASCII digit. -/
def isAsciiDigit (c : Char) : Bool :=
  (asciiDigit? c).isSome

/-- Read exactly `count` digits as a number, which continues `acc`. -/
def takeNumber? (acc : Nat) : Nat → List Char → Option (Nat × List Char)
  | 0, s => some (acc, s)
  | _ + 1, [] => none
  | count + 1, c :: s =>
      match asciiDigit? c with
      | some d => takeNumber? (acc * 10 + d) count s
      | none => none

/-! ### Dates -/

/-- The date with the given number of days from the beginning of `year`, counted from zero. -/
def dateInYear? (year : Nat) (day : Nat) : Option Date :=
  (List.range 12).findSome? fun m =>
    let before := daysBeforeMonth year (m + 1)
    if before ≤ day ∧ day < before + daysInMonth year (m + 1) then
      Date.ofParts? year (m + 1) (day - before + 1)
    else none

/-- The weekday of the first of January, Monday being zero. -/
def firstWeekday (year : Nat) : Nat :=
  daysBeforeYear year % 7

/-- A year has 53 weeks when it begins on a Thursday, or on a Wednesday and has 366 days. -/
def hasLongWeekYear (year : Nat) : Bool :=
  firstWeekday year == 3 || (firstWeekday year == 2 && isLeapYear year)

/-- The date of a weekday, counted from one, in a week. The first week is the one with the year's first
Thursday; its Monday may lie in the year before, and the last days in the year after. -/
def ofWeek? (year week weekday : Nat) : Option Date :=
  if year = 0 ∨ week = 0 ∨ 53 < week ∨ (week = 53 ∧ !hasLongWeekYear year) then none
  else if weekday = 0 ∨ 7 < weekday then none
  else
    let w := firstWeekday year
    let start : Int := if w ≤ 3 then -(w : Int) else 7 - (w : Int)
    let day : Int := start + ((week - 1) * 7 + (weekday - 1) : Nat)
    let length : Int := if isLeapYear year then 366 else 365
    if day < 0 then
      let before : Int := if isLeapYear (year - 1) then 366 else 365
      dateInYear? (year - 1) (day + before).toNat
    else if day < length then dateInYear? year day.toNat
    else dateInYear? (year + 1) (day - length).toNat

/-- Read a date that fills the text: year, then either a week with an optional weekday or month and day;
the hyphens stand throughout or not at all. -/
def readDate? (s : List Char) : Option Date := do
  let (year, s) ← takeNumber? 0 4 s
  let (hyphens, s) :=
    match s with
    | '-' :: s => (true, s)
    | s => (false, s)
  match s with
  | 'W' :: s => do
      let (week, s) ← takeNumber? 0 2 s
      match s with
      | [] => ofWeek? year week 1
      | c :: rest => do
          let (weekday, _) ← takeNumber? 0 1 (if hyphens then rest else c :: rest)
          if hyphens && c != '-' then none else ofWeek? year week weekday
  | s => do
      let (month, s) ← takeNumber? 0 2 s
      match s with
      | [] => none
      | c :: rest => do
          let (day, _) ← takeNumber? 0 2 (if hyphens then rest else c :: rest)
          if hyphens && c != '-' then none else Date.ofParts? year month day

/-- How many characters of a text of at least seven make up its date. The fifth character tells a hyphen
from none, the one behind it a week from a month; a digit ten places in tells a weekday from an hour, and
so does the parity of the digits behind a basic week. -/
def dateLength? (s : List Char) : Option Nat :=
  let at? (i : Nat) : Option Char := s[i]?
  if s.length = 7 then some 7
  else if at? 4 = some '-' then
    if at? 5 = some 'W' then
      if at? 8 = some '-' then
        if s.length = 9 then none
        else if (at? 10).any isAsciiDigit then some 8
        else some 10
      else some 8
    else some 10
  else if at? 4 = some 'W' then
    let stop := 7 + ((s.drop 7).takeWhile isAsciiDigit).length
    if stop < 9 then some stop
    else if stop % 2 = 0 then some 7
    else some 8
  else some 8

/-! ### Times -/

/-- A time of day or an offset as it is written: the numbers, and whether something other than the zero
character follows them. -/
structure ClockParts where
  hour : Nat
  minute : Nat
  second : Nat
  micro : Nat
  trailing : Bool
deriving DecidableEq, Repr, Inhabited

/-- Something is left when the next character is not the zero character. -/
def isLeft : List Char → Bool
  | [] => false
  | c :: _ => c != '\x00'

/-- Read a fraction: up to six digits count, further digits are skipped. -/
def readFraction? (s : List Char) : Option (Nat × Bool) := do
  let count := min 6 s.length
  let (n, rest) ← takeNumber? 0 count s
  return (n * Nat.pow 10 (6 - count), isLeft (rest.dropWhile isAsciiDigit))

/-- Read the numbers of a time from the text `s`, `wanted` of hour, minute and second being left to
read. `colons` says how the numbers are set apart, which the first of them decides. The numbers are
given in order, with the fraction and what is left. -/
def readNumbers? (colons : Option Bool) : Nat → List Char → Option (List Nat × Nat × Bool)
  | 0, s => do
      let (micro, trailing) ← readFraction? s
      return ([], micro, trailing)
  | wanted + 1, s => do
      let (n, rest) ← takeNumber? 0 2 s
      match rest with
      | [] => return ([n], 0, false)
      | c :: rest => do
          let colons := colons.getD (c == ':')
          if rest.isEmpty then return ([n], 0, c != '\x00')
          else if colons && c == ':' then
            let (numbers, micro, trailing) ← readNumbers? (some colons) wanted rest
            return (n :: numbers, micro, trailing)
          else if c == '.' || c == ',' then
            let (micro, trailing) ← readFraction? rest
            return ([n], micro, trailing)
          else if colons then none
          else
            let (numbers, micro, trailing) ← readNumbers? (some colons) wanted (c :: rest)
            return (n :: numbers, micro, trailing)

/-- Read the numbers of a time, those not written being zero. -/
def readClockParts? (s : List Char) : Option ClockParts := do
  let (numbers, micro, trailing) ← readNumbers? none 3 s
  return ⟨numbers.getD 0 0, numbers.getD 1 0, numbers.getD 2 0, micro, trailing⟩

/-- A character that begins an offset. -/
def beginsOffset (c : Char) : Bool :=
  c == '+' || c == '-' || c == 'Z'

/-- Read the offset that follows a time. Nothing may be left behind it; whole seconds of zero mean
universal time whatever their fraction. -/
def readOffset? (mark : Char) (s : List Char) : Option Offset :=
  if mark == 'Z' then if isLeft s then none else some Offset.zero
  else do
    let parts ← readClockParts? s
    if parts.trailing then none
    else
      let seconds := parts.hour * 3600 + parts.minute * 60 + parts.second
      let size : Int := if seconds = 0 then 0 else (seconds * 1000000 + parts.micro : Nat)
      Offset.ofMicros? (if mark == '-' then -size else size)

/-- Each character outside ASCII stands for as many characters as it has octets, none of which means
anything in a time. -/
def widen (s : List Char) : List Char :=
  s.flatMap fun c => if c.toNat < 128 then [c] else List.replicate c.utf8Size c

/-- Read a time of day with an optional offset. What follows a local time makes it unreadable; what
follows the time in front of an offset is passed over. -/
def readTime? (s : List Char) : Option (Clock × Option Offset) := do
  let s := widen s
  let parts ← readClockParts? (s.takeWhile fun c => !beginsOffset c)
  let offset ←
    match s.dropWhile (fun c => !beginsOffset c) with
    | [] => if parts.trailing then none else some none
    | mark :: rest => (readOffset? mark rest).map some
  let clock ← Clock.ofParts? parts.hour parts.minute parts.second parts.micro
  return (clock, offset)

/-- Read a timestamp; a date alone is its midnight. -/
def readIso? (s : List Char) : Option Timestamp :=
  if s.length < 7 then none
  else do
    let length ← dateLength? s
    let date ← readDate? (s.take length)
    match s.drop length with
    | [] => return ⟨date, Clock.midnight, none⟩
    | _ :: rest => do
        let (clock, offset) ← readTime? rest
        return ⟨date, clock, offset⟩

end Syscat.Iso
