/-
Module: Syscat.Number.Numeral
Purpose: Decimal integer numerals. A numeral is an optional sign and decimal digits of any script, with
  at most single underscores between digits. Reading and writing stop at 4300 digits, which keeps the
  cost of the conversion bounded.
Main exports: digitLimit, Numeral.read, NumeralError, integerText?
-/
import Syscat.Text.Blank
import Syscat.Text.Digit

namespace Syscat

/-- The most digits that an integer is read from or written with. -/
def digitLimit : Nat := 4300

/-- Why a text is no integer. -/
inductive NumeralError where
  /-- The text is no numeral. -/
  | malformed
  /-- The text is a numeral with more digits than the limit. -/
  | tooLong (digits : Nat)
deriving DecidableEq, Repr, Inhabited

namespace Numeral

/-- The values of the digits of an unsigned numeral. `fresh` says that a digit has to come next, as at
the beginning and after an underscore. -/
def digits? (fresh : Bool) : List Char → Option (List Nat)
  | [] => if fresh then none else some []
  | c :: rest =>
      if c == '_' then
        if fresh then none else digits? true rest
      else
        match digitValue? c with
        | some d => (digits? false rest).map (d :: ·)
        | none => none

/-- The number with the given decimal digits, most significant first. -/
def ofDigits (digits : List Nat) : Nat :=
  digits.foldl (fun n d => n * 10 + d) 0

/-- Read an unsigned numeral. -/
def readNat (s : List Char) : Except NumeralError Nat :=
  match digits? true s with
  | none => .error .malformed
  | some digits =>
      if digitLimit < digits.length then .error (.tooLong digits.length)
      else .ok (ofDigits digits)

/-- Read a numeral with an optional sign. -/
def readSigned : List Char → Except NumeralError Int
  | '-' :: s => (readNat s).map fun n => -(n : Int)
  | '+' :: s => (readNat s).map Int.ofNat
  | s => (readNat s).map Int.ofNat

/-- Read a numeral with blanks around it. -/
def read (s : List Char) : Except NumeralError Int :=
  readSigned (strip s)

end Numeral

/-- The decimal text of an integer, which one of more than 4300 digits does not have. -/
def integerText? (n : Int) : Option String :=
  if n.natAbs < Nat.pow 10 digitLimit then some (toString n) else none

end Syscat
