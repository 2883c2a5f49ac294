/-
Module: Syscat.Number.Based
Purpose: Integer numerals in bases up to sixteen. A base that is a power of two may be spelled in front by
  a zero and a letter.
Main exports: Based.read, Based.readSpelled
-/
import Syscat.Number.Numeral
import Syscat.Text.Hex

namespace Syscat.Based

/-- The value of a digit: a decimal digit of any script or a letter up to F. -/
def digit? (base : Nat) (c : Char) : Option Nat :=
  match (hexValue? c).orElse (fun _ => digitValue? c) with
  | some d => if d < base then some d else none
  | none => none

/-- The values of the digits of an unsigned numeral with at most single underscores between them. -/
def digits? (base : Nat) (fresh : Bool) : List Char → Option (List Nat)
  | [] => if fresh then none else some []
  | c :: rest =>
      if c == '_' then if fresh then none else digits? base true rest
      else
        match digit? base c with
        | some d => (digits? base false rest).map (d :: ·)
        | none => none

/-- The base that a letter behind a zero spells. -/
def spelledBase? (c : Char) : Option Nat :=
  if c == 'x' || c == 'X' then some 16
  else if c == 'o' || c == 'O' then some 8
  else if c == 'b' || c == 'B' then some 2
  else none

/-- The number with the given digits. Only bases that are no power of two limit their number. -/
def number (base : Nat) (digits : List Nat) : Except NumeralError Nat :=
  if base == 10 && digitLimit < digits.length then .error (.tooLong digits.length)
  else .ok (digits.foldl (fun n d => n * base + d) 0)

/-- Read the digits of an unsigned numeral. -/
def readDigits (base : Nat) (s : List Char) : Except NumeralError Nat :=
  match digits? base true s with
  | some digits => number base digits
  | none => .error .malformed

/-- The characters behind the underscore that may follow a spelled base. -/
def withoutUnderscore : List Char → List Char
  | '_' :: s => s
  | s => s

/-- Read an unsigned numeral in a base, which may be spelled in front. -/
def readUnsigned (base : Nat) : List Char → Except NumeralError Nat
  | '0' :: mark :: s =>
      if spelledBase? mark = some base then readDigits base (withoutUnderscore s)
      else readDigits base ('0' :: mark :: s)
  | s => readDigits base s

/-- Read an unsigned numeral in the base that is spelled in front, or else in base ten. A decimal one
begins with a zero only if it is zero. -/
def readSpelledUnsigned : List Char → Except NumeralError Nat
  | '0' :: s =>
      match s.head?.bind spelledBase? with
      | some base => readDigits base (withoutUnderscore (s.drop 1))
      | none =>
          match readDigits 10 ('0' :: s) with
          | .ok 0 => .ok 0
          | .ok _ => .error .malformed
          | .error e => .error e
  | s => readDigits 10 s

/-- Read a numeral with blanks around it and an optional sign, given how to read an unsigned one. -/
def signed (unsigned : List Char → Except NumeralError Nat) (s : List Char) : Except NumeralError Int :=
  match strip s with
  | '-' :: s => (unsigned s).map fun n => -(n : Int)
  | '+' :: s => (unsigned s).map Int.ofNat
  | s => (unsigned s).map Int.ofNat

/-- Read an integer in a base. -/
def read (base : Nat) (s : List Char) : Except NumeralError Int :=
  signed (readUnsigned base) s

/-- Read an integer in the base that it spells. -/
def readSpelled (s : List Char) : Except NumeralError Int :=
  signed readSpelledUnsigned s

end Syscat.Based
