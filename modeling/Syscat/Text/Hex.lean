/-
Module: Syscat.Text.Hex
Purpose: Hexadecimal numerals of a fixed width.
Main exports: hexText, upperHexText, hexValue?, hexNumber?
-/

namespace Syscat

/-- The lower-case hexadecimal digit of a number below sixteen. -/
def hexDigit (n : Nat) : Char :=
  Char.ofNat (if n < 10 then 48 + n else 87 + n)

/-- The lowest `width` hexadecimal digits of `n`, most significant first. -/
def hexText : Nat → Nat → List Char
  | 0, _ => []
  | width + 1, n => hexText width (n / 16) ++ [hexDigit (n % 16)]

/-- The lowest `width` hexadecimal digits of `n` in upper case. -/
def upperHexText (width n : Nat) : List Char :=
  (hexText width n).map Char.toUpper

/-- The value of a hexadecimal digit of either case. -/
def hexValue? (c : Char) : Option Nat :=
  let n := c.toNat
  if 48 ≤ n ∧ n ≤ 57 then some (n - 48)
  else if 65 ≤ n ∧ n ≤ 70 then some (n - 55)
  else if 97 ≤ n ∧ n ≤ 102 then some (n - 87)
  else none

/-- The number that a sequence of hexadecimal digits denotes. An empty sequence denotes zero, and a
sequence with any other character denotes nothing. -/
def hexNumber? (digits : List Char) : Option Nat :=
  digits.foldl (fun acc c => do return (← acc) * 16 + (← hexValue? c)) (some 0)

end Syscat
