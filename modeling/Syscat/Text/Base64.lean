/-
Module: Syscat.Text.Base64
Purpose: Octets written in base 64. Characters that are no digits are passed over, and nothing is read
  behind the padding that completes a group.
Main exports: base64Decode?
-/

namespace Syscat

/-- The value of a digit of base 64. -/
def base64Digit? (c : Char) : Option Nat :=
  let n := c.toNat
  if 65 ≤ n ∧ n ≤ 90 then some (n - 65)
  else if 97 ≤ n ∧ n ≤ 122 then some (n - 71)
  else if 48 ≤ n ∧ n ≤ 57 then some (n + 4)
  else if c == '+' then some 62
  else if c == '/' then some 63
  else none

/-- Read the rest of a text. `position` counts the digits of the group at hand, `left` holds the bits of
the last digit that belong to the next octet, and `pads` counts the padding signs just read. -/
def base64Rest? (position left pads : Nat) : List Char → Option (List UInt8)
  | [] => if position == 0 then some [] else none
  | c :: rest =>
      if c == '=' then
        if 2 ≤ position then
          if 4 ≤ position + pads + 1 then some [] else base64Rest? position left (pads + 1) rest
        else base64Rest? position left pads rest
      else
        match base64Digit? c with
        | none => base64Rest? position left pads rest
        | some d =>
            match position with
            | 0 => base64Rest? 1 d 0 rest
            | 1 => (base64Rest? 2 (d % 16) 0 rest).map (UInt8.ofNat (left * 4 + d / 16) :: ·)
            | 2 => (base64Rest? 3 (d % 4) 0 rest).map (UInt8.ofNat (left * 16 + d / 4) :: ·)
            | _ => (base64Rest? 0 0 0 rest).map (UInt8.ofNat (left * 64 + d) :: ·)

/-- The octets that a text in base 64 spells, unless its last group is not complete. -/
def base64Decode? (s : List Char) : Option (List UInt8) :=
  base64Rest? 0 0 0 s

end Syscat
