/-
Module: Syscat.Proofs.Text.Hex
Purpose: Hexadecimal numerals are read back, in letters of either case.
Main exports: hexNumber?_hexText, hexNumber?_upperHexText
-/
import Syscat.Text.Hex

namespace Syscat

/-- A digit in front of the last one counts sixteen times as much. -/
theorem hexNumber?_concat (digits : List Char) (c : Char) :
    hexNumber? (digits ++ [c]) = do return (← hexNumber? digits) * 16 + (← hexValue? c) := by
  rw [hexNumber?, List.foldl_append]
  rfl

theorem hexValue?_hexDigit : ∀ d < 16, hexValue? (hexDigit d) = some d := by decide

theorem hexValue?_toUpper_hexDigit : ∀ d < 16, hexValue? (hexDigit d).toUpper = some d := by decide

theorem length_hexText (width n : Nat) : (hexText width n).length = width := by
  induction width generalizing n with
  | zero => rfl
  | succ width ih => rw [hexText, List.length_append, ih, List.length_singleton]

/-- A number that fits into the width is read back, in whatever letters its digits are written. -/
theorem hexNumber?_map_hexText {letter : Char → Char}
    (legible : ∀ d < 16, hexValue? (letter (hexDigit d)) = some d) {width n : Nat}
    (fits : n < Nat.pow 16 width) : hexNumber? ((hexText width n).map letter) = some n := by
  induction width generalizing n with
  | zero =>
      obtain rfl : n = 0 := by simpa using fits
      rfl
  | succ width ih =>
      have wider : Nat.pow 16 (width + 1) = Nat.pow 16 width * 16 := rfl
      have front := ih (n := n / 16) (by omega)
      have last := legible (n % 16) (by omega)
      have value : n / 16 * 16 + n % 16 = n := by omega
      rw [hexText, List.map_append, List.map_singleton, hexNumber?_concat, front, last]
      exact congrArg some value

/-- A number that fits into the width is read back. -/
theorem hexNumber?_hexText {width n : Nat} (fits : n < Nat.pow 16 width) :
    hexNumber? (hexText width n) = some n := by
  have read := @hexNumber?_map_hexText id hexValue?_hexDigit width n fits
  rwa [List.map_id] at read

/-- A number that fits into the width is read back in upper case. -/
theorem hexNumber?_upperHexText {width n : Nat} (fits : n < Nat.pow 16 width) :
    hexNumber? (upperHexText width n) = some n :=
  hexNumber?_map_hexText hexValue?_toUpper_hexDigit fits

/-- Hexadecimal numerals consist of digits. -/
theorem mem_hexText {width n : Nat} {c : Char} (inside : c ∈ hexText width n) :
    ∃ d < 16, c = hexDigit d := by
  induction width generalizing n with
  | zero => cases inside
  | succ width ih =>
      rw [hexText, List.mem_append, List.mem_singleton] at inside
      rcases inside with front | rfl
      · exact ih front
      · exact ⟨n % 16, by omega, rfl⟩

end Syscat
