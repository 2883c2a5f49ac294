/-
Module: Syscat.Text.CharSet
Purpose: Sets of characters given by the code points at which membership changes.
Main exports: CharSet, CharSet.contains
-/

namespace Syscat

/-- A set of characters, written as the ascending code points at which membership changes. Below the
first boundary a character is outside, from the first up to the second it is inside, and so on. -/
structure CharSet where
  boundaries : List Nat
deriving Repr, Inhabited, DecidableEq

namespace CharSet

/-- A character belongs to the set when an odd number of boundaries lies at or below it. -/
def contains (s : CharSet) (c : Char) : Bool :=
  (s.boundaries.takeWhile (fun b => b ≤ c.toNat)).length % 2 == 1

end CharSet

end Syscat
