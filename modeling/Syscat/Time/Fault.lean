/-
Module: Syscat.Time.Fault
Purpose: Which part of a date or of a time of day does not exist.
Main exports: CalendarFault, CalendarFault.message, Date.check, Clock.check
-/
import Syscat.Time.Timestamp

namespace Syscat

/-- The first part of a date and time that does not exist. -/
inductive CalendarFault where
  | year (number : Nat)
  | month
  | day
  | hour
  | minute
  | second
  | fraction
deriving DecidableEq, Repr, Inhabited

/-- The sentence that names the part. -/
def CalendarFault.message : CalendarFault → String
  | year number => "year " ++ toString number ++ " is out of range"
  | month => "month must be in 1..12"
  | day => "day is out of range for month"
  | hour => "hour must be in 0..23"
  | minute => "minute must be in 0..59"
  | second => "second must be in 0..59"
  | fraction => "microsecond must be in 0..999999"

/-- The date with the given parts, which are checked in order. -/
def Date.check (year month day : Nat) : Except CalendarFault Date :=
  match Date.ofParts? year month day with
  | some d => .ok d
  | none =>
      if year < 1 ∨ 9999 < year then .error (.year year)
      else if month < 1 ∨ 12 < month then .error .month
      else .error .day

/-- The time of day with the given parts, which are checked in order. -/
def Clock.check (hour minute second micro : Nat) : Except CalendarFault Clock :=
  match Clock.ofParts? hour minute second micro with
  | some c => .ok c
  | none =>
      if 24 ≤ hour then .error .hour
      else if 60 ≤ minute then .error .minute
      else if 60 ≤ second then .error .second
      else .error .fraction

end Syscat
