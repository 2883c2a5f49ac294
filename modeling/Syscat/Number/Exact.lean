/-
Module: Syscat.Number.Exact
Purpose: The exact number behind an integer, a floating-point number or a decimal number, in one
  canonical form, so that numbers of different kinds can be compared.
Main exports: Exact, Exact.ofInt, Exact.ofDouble?, Exact.ofDecimal?, Exact.integer?
-/
import Syscat.Number.Decimal

namespace Syscat

/-- An exact number with a finite decimal expansion, or an infinity. In the canonical form that the
functions below give, a coefficient other than zero does not end in the digit zero, and zero is positive
with exponent zero. -/
inductive Exact where
  | finite (negative : Bool) (coefficient : Nat) (exponent : Int)
  | infinite (negative : Bool)
deriving DecidableEq, Repr, Inhabited

namespace Exact

/-- Move zeros that end the coefficient into the exponent. -/
def dropZeros : Nat → Nat → Int → Nat × Int
  | 0, c, e => (c, e)
  | fuel + 1, c, e => if c % 10 = 0 then dropZeros fuel (c / 10) (e + 1) else (c, e)

/-- The canonical form of `coefficient * 10 ^ exponent`. A number has fewer ending zeros than binary
digits. -/
def canonical (negative : Bool) (coefficient : Nat) (exponent : Int) : Exact :=
  if coefficient = 0 then .finite false 0 0
  else
    let (c, e) := dropZeros (coefficient.log2 + 1) coefficient exponent
    .finite negative c e

/-- The exact number behind an integer. -/
def ofInt (n : Int) : Exact :=
  canonical (n < 0) n.natAbs 0

/-- The exact number behind a floating-point number that is one. A negative power of two is a power of
five divided by a power of ten. -/
def ofDouble? : Double → Option Exact
  | .finite negative m (.ofNat e) => some (canonical negative (m * Nat.pow 2 e) 0)
  | .finite negative m (.negSucc e) => some (canonical negative (m * Nat.pow 5 (e + 1)) (.negSucc e))
  | .infinite negative => some (.infinite negative)
  | .nan => none

/-- The exact number behind a decimal number that is one. -/
def ofDecimal? : Decimal → Option Exact
  | .finite negative c e => some (canonical negative c e)
  | .infinite negative => some (.infinite negative)
  | .nan _ _ _ => none

/-- The integer that a number in canonical form is, if it is one. -/
def integer? : Exact → Option Int
  | .finite negative c (.ofNat e) =>
      let n : Int := (c * Nat.pow 10 e : Nat)
      some (if negative then -n else n)
  | .finite _ _ (.negSucc _) => none
  | .infinite _ => none

end Exact

end Syscat
