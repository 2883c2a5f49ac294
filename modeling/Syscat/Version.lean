/-
Module: Syscat.Version
Purpose: Dotted server versions: reading them, and the order that decides what a server provides.
Main exports: Version, Version.parse, Version.ofValue, Version.atLeast, VersionError
-/
import Syscat.Text.Part
import Syscat.Value

namespace Syscat

/-- Why a value is no server version. -/
inductive VersionError where
  /-- It does not have the form of a version, or is an empty value of some other type. -/
  | malformed (value : Value)
  /-- One of its numbers has more digits than the limit. -/
  | tooLong (digits : Nat)
  /-- It is a value of some other type. -/
  | notText (value : Value)
deriving Repr, Inhabited

namespace VersionError

/-- The message of a failed reading. The values in question always have a literal form: they are texts
or empty. -/
def message : VersionError → String
  | malformed value => "Invalid server version: " ++ (value.literal?).getD ""
  | tooLong digits => "Exceeds the limit (" ++ toString digitLimit
      ++ " digits) for integer string conversion: value has " ++ toString digits
      ++ " digits; use sys.set_int_max_str_digits() to increase the limit"
  | notText value => value.notTextMessage

end VersionError

namespace Version

/-- The number that a run of digits stands for. -/
def component (run : List Char) : Except VersionError Nat :=
  if digitLimit < run.length then .error (.tooLong run.length)
  else .ok (Numeral.ofDigits (run.filterMap digitValue?))

/-- The numbers of a version: runs of decimal digits of any script with single points between them. A
line end behind the last run is tolerated. -/
def components (s : String) : Except VersionError (List Nat) :=
  let runs := splitOn '.' (withoutLineEnd s.toList)
  if runs.all (fun run => !run.isEmpty && run.all isDigit) then runs.mapM component
  else .error (.malformed (.text s))

end Version

/-- A server version: its text and the numbers that the text denotes. -/
structure Version where
  text : String
  numbers : List Nat
  denotes : Version.components text = .ok numbers
deriving Repr

namespace Version

/-- Read a version. -/
def parse (s : String) : Except VersionError Version :=
  match h : components s with
  | .ok numbers => .ok ⟨s, numbers, h⟩
  | .error e => .error e

/-- Read a version from any value. -/
def ofValue : Value → Except VersionError Version
  | .text s => parse s
  | v => if v.truthy then .error (.notText v) else .error (.malformed v)

/-- The order of versions: the first numbers that differ decide, and of two versions of which one
continues the other the longer is the later. -/
def numbersAtLeast : List Nat → List Nat → Bool
  | _, [] => true
  | [], _ :: _ => false
  | a :: as, b :: bs => if a = b then numbersAtLeast as bs else b < a

/-- Whether a version is `other` or a later one. -/
def atLeast (v other : Version) : Bool :=
  numbersAtLeast v.numbers other.numbers

end Version

end Syscat
