/-
Module: Syscat.Number.Decimal
Purpose: Decimal numbers that keep their trailing zeros: reading and the scientific text form.
Main exports: Decimal, Decimal.read?, Decimal.text
-/
import Syscat.Number.Double

namespace Syscat

/-- A decimal number `coefficient * 10 ^ exponent`, or one of the values that are no number. -/
inductive Decimal where
  | finite (negative : Bool) (coefficient : Nat) (exponent : Int)
  | infinite (negative : Bool)
  | nan (negative signalling : Bool) (payload : Option Nat)
deriving DecidableEq, Repr, Inhabited

namespace Decimal

/-- The decimal with the given digits before and behind the point. -/
def ofParts (negative : Bool) (whole fraction : List Nat) (exponent : Int) : Decimal :=
  .finite negative (Double.digitsNumber (whole ++ fraction)) (exponent - fraction.length)

/-- The digits behind the letters of a value that is no number. Zeros in front do not count, so that
nothing is left of zeros alone. -/
def readPayload? (negative signalling : Bool) (s : List Char) : Option Decimal :=
  match Double.leadingDigits s with
  | (digits, []) =>
      let number := Double.digitsNumber digits
      some (.nan negative signalling (if number = 0 then none else some number))
  | (_, _ :: _) => none

/-- Read an unsigned decimal number. -/
def readMagnitude? (negative : Bool) (s : List Char) : Option Decimal :=
  let lower := s.map Char.toLower
  let word := String.ofList lower
  if word == "inf" || word == "infinity" then some (.infinite negative)
  else
    match lower with
    | 'n' :: 'a' :: 'n' :: rest => readPayload? negative false rest
    | 's' :: 'n' :: 'a' :: 'n' :: rest => readPayload? negative true rest
    | _ =>
        let (whole, rest) := Double.leadingDigits s
        let (fraction, rest) :=
          match rest with
          | '.' :: rest => Double.leadingDigits rest
          | rest => ([], rest)
        if whole.isEmpty && fraction.isEmpty then none
        else (Double.readExponent? rest).map (ofParts negative whole fraction)

/-- Read a decimal number with an optional sign and blanks around it. -/
def read? (s : List Char) : Option Decimal :=
  match (strip s).filter (· != '_') with
  | '-' :: s => readMagnitude? true s
  | '+' :: s => readMagnitude? false s
  | s => readMagnitude? false s

/-- The text of a coefficient and an exponent: positional while the exponent is not positive and the
first digit stands at most six places behind the point, and with an exponent otherwise. -/
def magnitudeText (coefficient : Nat) (exponent : Int) : List Char :=
  let digits := (toString coefficient).toList
  let left : Int := exponent + digits.length
  let point : Int := if exponent ≤ 0 ∧ -6 < left then left else 1
  let body :=
    if point ≤ 0 then '0' :: '.' :: (List.replicate point.natAbs '0' ++ digits)
    else if (digits.length : Int) ≤ point then
      digits ++ List.replicate (point - digits.length).toNat '0'
    else digits.take point.toNat ++ '.' :: digits.drop point.toNat
  if left = point then body
  else
    let rest := left - point
    body ++ 'E' :: (if rest < 0 then '-' else '+') :: (toString rest.natAbs).toList

/-- The text of a decimal number. -/
def text : Decimal → String
  | finite negative coefficient exponent =>
      let body := magnitudeText coefficient exponent
      String.ofList (if negative then '-' :: body else body)
  | infinite negative => if negative then "-Infinity" else "Infinity"
  | nan negative signalling payload =>
      (if negative then "-" else "") ++ (if signalling then "sNaN" else "NaN")
        ++ (payload.map toString).getD ""

/-- A decimal number that is zero. -/
def isZero : Decimal → Bool
  | finite _ coefficient _ => coefficient == 0
  | _ => false

end Decimal

end Syscat
