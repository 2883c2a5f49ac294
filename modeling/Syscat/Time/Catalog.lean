/-
Module: Syscat.Time.Catalog
Purpose: Reading of timestamps in the form in which the catalog writes them, and of timestamp texts of
  either form.
Main exports: readCatalogTimestamp?, readTimestamp?
-/
import Syscat.Text.Digit
import Syscat.Time.Iso

namespace Syscat

/-- The value of a digit of any script between two bounds, both inclusive. -/
def digitIn? (low high : Nat) (c : Char) : Option Nat :=
  match digitValue? c with
  | some d => if low ≤ d ∧ d ≤ high then some d else none
  | none => none

/-- The value of an ASCII digit between two bounds. -/
def asciiDigitIn? (low high : Nat) (c : Char) : Option Nat :=
  if c.toNat < 128 then digitIn? low high c else none

/-- Read a year of four digits. -/
def readYear? : List Char → Option Nat
  | [a, b, c, d] => do
      return (← digitValue? a) * 1000 + (← digitValue? b) * 100 + (← digitValue?
        c) * 10 + (← digitValue? d)
  | _ => none

/-- Read a month: one or two ASCII digits, from 1 to 12. -/
def readMonth? : List Char → Option Nat
  | [a] => asciiDigitIn? 1 9 a
  | ['1', b] => (asciiDigitIn? 0 2 b).map (10 + ·)
  | ['0', b] => asciiDigitIn? 1 9 b
  | _ => none

/-- Read a day: one or two digits from 1 to 31, the first of which may be a blank. -/
def readDay? : List Char → Option Nat
  | [a] => asciiDigitIn? 1 9 a
  | ['3', b] => (asciiDigitIn? 0 1 b).map (30 + ·)
  | ['2', b] => (digitValue? b).map (20 + ·)
  | ['1', b] => (digitValue? b).map (10 + ·)
  | ['0', b] => asciiDigitIn? 1 9 b
  | [' ', b] => asciiDigitIn? 1 9 b
  | _ => none

/-- Read an hour: one or two digits, from 0 to 23. -/
def readHour? : List Char → Option Nat
  | [a] => digitValue? a
  | ['2', b] => (asciiDigitIn? 0 3 b).map (20 + ·)
  | ['1', b] => (digitValue? b).map (10 + ·)
  | ['0', b] => digitValue? b
  | _ => none

/-- Read a minute or a second: one or two digits, from 0 to 59. -/
def readSixtieth? : List Char → Option Nat
  | [a] => digitValue? a
  | [a, b] => do return (← asciiDigitIn? 0 5 a) * 10 + (← digitValue? b)
  | _ => none

/-- Read a fraction of one to six ASCII digits as microseconds. -/
def readMicros? (s : List Char) : Option Nat :=
  if s.isEmpty || 6 < s.length then none
  else (s.foldl (fun acc c => do return (← acc) * 10 + (← asciiDigitIn? 0 9 c)) (some 0)).map
    (· * Nat.pow 10 (6 - s.length))

/-- The text up to the first occurrence of a separator and the text behind it. -/
def splitAt? (separator : Char) (s : List Char) : Option (List Char × List Char) :=
  match s.dropWhile (· != separator) with
  | [] => none
  | _ :: rest => some (s.takeWhile (· != separator), rest)

/-- Read a timestamp in the catalog's form: year, month, day and hour set apart by hyphens, minutes,
seconds and an optional fraction by points. -/
def readCatalogTimestamp? (s : List Char) : Option Timestamp := do
  let (year, s) ← splitAt? '-' s
  let (month, s) ← splitAt? '-' s
  let (day, s) ← splitAt? '-' s
  let (hour, s) ← splitAt? '.' s
  let (minute, s) ← splitAt? '.' s
  let (second, micro) ←
    match splitAt? '.' s with
    | some (second, fraction) => (readMicros? fraction).map (second, ·)
    | none => some (s, 0)
  let date ← Date.ofParts? (← readYear? year) (← readMonth? month) (← readDay? day)
  let clock ← Clock.ofParts? (← readHour? hour) (← readSixtieth? minute) (← readSixtieth? second) micro
  return ⟨date, clock, none⟩

/-- Read a timestamp text: the notation of ISO 8601 is tried first, then the catalog's form. -/
def readTimestamp? (s : List Char) : Option Timestamp :=
  (Iso.readIso? s).orElse fun _ => readCatalogTimestamp? s

end Syscat
