/-
Module: Syscat.Time.Timestamp
Purpose: Calendar dates, times of day and timestamps with an optional offset from universal time, and
  the texts that they are written as.
Main exports: Date, Clock, Offset, Timestamp, Timestamp.text, Timestamp.exported, Timestamp.literal
-/

namespace Syscat

/-- A year of 366 days. -/
def isLeapYear (year : Nat) : Bool :=
  year % 4 == 0 && (year % 100 != 0 || year % 400 == 0)

/-- The number of days of a month. -/
def daysInMonth (year month : Nat) : Nat :=
  match month with
  | 2 => if isLeapYear year then 29 else 28
  | 4 | 6 | 9 | 11 => 30
  | _ => 31

/-- The days of the years before `year`. -/
def daysBeforeYear (year : Nat) : Nat :=
  let y := year - 1
  y * 365 + y / 4 - y / 100 + y / 400

/-- The days of the months before `month` in a year. -/
def daysBeforeMonth (year month : Nat) : Nat :=
  ((List.range (month - 1)).map fun m => daysInMonth year (m + 1)).foldl (· + ·) 0

/-- A date of the calendar in the years 1 to 9999. -/
structure Date where
  year : Nat
  month : Nat
  day : Nat
  inCalendar : 1 ≤ year ∧ year ≤ 9999 ∧ 1 ≤ month ∧ month ≤ 12 ∧ 1 ≤ day ∧ day ≤ daysInMonth year month
deriving DecidableEq, Repr

/-- A time of day to the microsecond. -/
structure Clock where
  hour : Nat
  minute : Nat
  second : Nat
  micro : Nat
  inDay : hour < 24 ∧ minute < 60 ∧ second < 60 ∧ micro < 1000000
deriving DecidableEq, Repr

/-- The microseconds of a day. -/
def microsPerDay : Nat := 86400000000

/-- A distance from universal time in microseconds, east positive and less than a day. -/
structure Offset where
  micros : Int
  withinDay : micros.natAbs < microsPerDay
deriving DecidableEq, Repr

/-- A date, a time of day and an offset unless the timestamp is local. -/
structure Timestamp where
  date : Date
  clock : Clock
  offset : Option Offset
deriving DecidableEq, Repr

/-- The numeral of `n` with zeros in front up to `width` digits. -/
def padded (width n : Nat) : List Char :=
  let digits := (toString n).toList
  List.replicate (width - digits.length) '0' ++ digits

namespace Date

/-- The date with the given parts, if the calendar has it. -/
def ofParts? (year month day : Nat) : Option Date :=
  if h : 1 ≤ year ∧ year ≤ 9999 ∧ 1 ≤ month ∧ month ≤ 12 ∧ 1 ≤ day ∧ day ≤ daysInMonth year month then
    some ⟨year, month, day, h⟩
  else none

/-- The first day of the calendar. -/
def first : Date := ⟨1, 1, 1, by decide⟩

instance : Inhabited Date := ⟨first⟩

/-- The number of days from the first day of the calendar to a date. -/
def ordinal (d : Date) : Nat :=
  daysBeforeYear d.year + daysBeforeMonth d.year d.month + (d.day - 1)

/-- Year, month and day, joined by hyphens. -/
def chars (d : Date) : List Char :=
  padded 4 d.year ++ '-' :: padded 2 d.month ++ '-' :: padded 2 d.day

/-- The text of a date. -/
def text (d : Date) : String :=
  String.ofList d.chars

/-- The form of a date that builds it. -/
def literal (d : Date) : String :=
  s!"datetime.date({d.year}, {d.month}, {d.day})"

end Date

namespace Clock

/-- The time of day with the given parts, if a day has it. -/
def ofParts? (hour minute second micro : Nat) : Option Clock :=
  if h : hour < 24 ∧ minute < 60 ∧ second < 60 ∧ micro < 1000000 then
    some ⟨hour, minute, second, micro, h⟩
  else none

/-- Midnight. -/
def midnight : Clock := ⟨0, 0, 0, 0, by decide⟩

instance : Inhabited Clock := ⟨midnight⟩

/-- The fraction of a second, which is written in six digits unless it is zero. -/
def fraction (micro : Nat) : List Char :=
  if micro = 0 then [] else '.' :: padded 6 micro

/-- Hour, minute and second, joined by colons, and the fraction. -/
def chars (c : Clock) : List Char :=
  padded 2 c.hour ++ ':' :: padded 2 c.minute ++ ':' :: padded 2 c.second ++ fraction c.micro

/-- The text of a time of day. -/
def text (c : Clock) : String :=
  String.ofList c.chars

/-- The numbers of a time of day as far as the last one that is needed: seconds and microseconds are
left off while they are zero. -/
def literalParts (c : Clock) : List Nat :=
  if c.micro ≠ 0 then [c.hour, c.minute, c.second, c.micro]
  else if c.second ≠ 0 then [c.hour, c.minute, c.second]
  else [c.hour, c.minute]

/-- The form of a time of day that builds it. -/
def literal (c : Clock) : String :=
  "datetime.time(" ++ ", ".intercalate (c.literalParts.map toString) ++ ")"

end Clock

/-- The form of a duration in microseconds that builds it: days rounded down, then the seconds and
microseconds that remain, each only if it is not zero. -/
def durationLiteral (micros : Int) : String :=
  let days := Int.fdiv micros microsPerDay
  let rest := Int.fmod micros microsPerDay
  let seconds := rest / 1000000
  let micro := rest % 1000000
  let parts := (if days = 0 then [] else ["days=" ++ toString days])
    ++ (if seconds = 0 then [] else ["seconds=" ++ toString seconds])
    ++ (if micro = 0 then [] else ["microseconds=" ++ toString micro])
  "datetime.timedelta(" ++ (if parts.isEmpty then "0" else ", ".intercalate parts) ++ ")"

namespace Offset

/-- The offset of the given size, if it is less than a day. -/
def ofMicros? (micros : Int) : Option Offset :=
  if h : micros.natAbs < microsPerDay then some ⟨micros, h⟩ else none

/-- No distance from universal time. -/
def zero : Offset := ⟨0, by decide⟩

instance : Inhabited Offset := ⟨zero⟩

/-- A sign, hours and minutes, and as far as they are not zero seconds and their fraction. -/
def chars (o : Offset) : List Char :=
  let size := o.micros.natAbs
  let seconds := size / 1000000
  let micro := size % 1000000
  let tail :=
    if seconds % 60 = 0 ∧ micro = 0 then []
    else ':' :: padded 2 (seconds % 60) ++ Clock.fraction micro
  (if o.micros < 0 then '-' else '+')
    :: (padded 2 (seconds / 3600) ++ ':' :: padded 2 (seconds / 60 % 60) ++ tail)

/-- The offset in whole seconds, rounded down, as sign, hours and minutes; `Z` when it is zero. -/
def exported (o : Offset) : List Char :=
  let seconds := Int.fdiv o.micros 1000000
  if seconds = 0 then ['Z']
  else
    (if seconds < 0 then '-' else '+')
      :: (padded 2 (seconds.natAbs / 3600) ++ ':' :: padded 2 (seconds.natAbs / 60 % 60))

/-- The form of an offset that builds it. -/
def literal (o : Offset) : String :=
  if o.micros = 0 then "datetime.timezone.utc"
  else "datetime.timezone(" ++ durationLiteral o.micros ++ ")"

end Offset

namespace Timestamp

instance : Inhabited Timestamp := ⟨⟨default, default, none⟩⟩

/-- Date and time of day with `separator` between them, followed by the offset. -/
def chars (separator : Char) (t : Timestamp) : List Char :=
  t.date.chars ++ separator :: t.clock.chars ++ (t.offset.map Offset.chars).getD []

/-- The text of a timestamp, with a blank between date and time. -/
def text (t : Timestamp) : String :=
  String.ofList (t.chars ' ')

/-- The text of a timestamp with the letter `T` between date and time. -/
def isoText (t : Timestamp) : String :=
  String.ofList (t.chars 'T')

/-- The text of a timestamp in an exported document, where an offset is cut to minutes. -/
def exported (t : Timestamp) : String :=
  String.ofList (t.date.chars ++ 'T' :: t.clock.chars ++ (t.offset.map Offset.exported).getD [])

/-- The form of a timestamp that builds it. -/
def literal (t : Timestamp) : String :=
  let numbers := [t.date.year, t.date.month, t.date.day] ++ t.clock.literalParts
  let zone := (t.offset.map fun o => ", tzinfo=" ++ o.literal).getD ""
  "datetime.datetime(" ++ ", ".intercalate (numbers.map toString) ++ zone ++ ")"

/-- The microseconds from the beginning of the calendar to the instant that a timestamp denotes, local
time being taken for universal time. -/
def instant (t : Timestamp) : Int :=
  let seconds := t.clock.hour * 3600 + t.clock.minute * 60 + t.clock.second
  let micros := seconds * 1000000 + t.clock.micro
  (t.date.ordinal * microsPerDay + micros : Nat) - (t.offset.map (·.micros)).getD 0

/-- The form in which the catalog writes a timestamp: hyphens up to the hour and points behind it. The
fraction is left off on request. -/
def catalogChars (fraction : Bool) (t : Timestamp) : List Char :=
  t.date.chars ++ '-' :: padded 2 t.clock.hour ++ '.' :: padded 2 t.clock.minute
    ++ '.' :: padded 2 t.clock.second
    ++ (if fraction then '.' :: padded 6 t.clock.micro else [])

end Timestamp

end Syscat
