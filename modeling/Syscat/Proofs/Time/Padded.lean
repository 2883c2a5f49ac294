/-
Module: Syscat.Proofs.Time.Padded
Purpose: Numerals of a fixed width, with zeros in front. They are made of that many digits, and are
  read back by every reading of digits.
Main exports: isDigit_of_mem_padded, length_padded, Numeral.ofDigits_padded, Iso.takeNumber?_padded,
  readYear?_padded, readMicros?_padded
-/
import Syscat.Proofs.Number.Numeral
import Syscat.Time.Catalog

namespace Syscat

section
variable {width n : Nat}

/-! ### The digits -/

theorem isDigit_of_mem_padded {c : Char} (inside : c ∈ padded width n) : c.isDigit = true := by
  rw [padded, toList_toString_nat] at inside
  rcases List.mem_append.mp inside with zero | digit
  · rw [List.eq_of_mem_replicate zero]
    rfl
  · exact isDigit_of_mem_digits digit

theorem length_padded (width : Nat) (any : 0 < width) (short : n < Nat.pow 10 width) :
    (padded width n).length = width := by
  have few := length_digits_le any short
  rw [padded, toList_toString_nat, List.length_append, List.length_replicate]
  omega

theorem padded_ne_nil : padded width n ≠ [] := by
  rw [padded, toList_toString_nat]
  exact List.append_ne_nil_of_right_ne_nil _ Nat.toDigits_ne_nil

theorem exists_padded_two (short : n < 100) : ∃ a b, padded 2 n = [a, b] :=
  match padded 2 n, length_padded 2 (by decide) short with
  | [a, b], _ => ⟨a, b, rfl⟩

theorem exists_padded_four (short : n < 10000) : ∃ a b c d, padded 4 n = [a, b, c, d] :=
  match padded 4 n, length_padded 4 (by decide) short with
  | [a, b, c, d], _ => ⟨a, b, c, d, rfl⟩

/-- Zeros in front do not count. -/
theorem Numeral.ofDigits_padded (width n : Nat) :
    ofDigits ((padded width n).map fun c => c.toNat - 48) = n := by
  have zeros : ∀ count, (List.replicate count 0).foldl (fun n d => n * 10 + d) 0 = 0 := by
    intro count
    induction count with
    | zero => rfl
    | succ count ih => exact ih
  rw [padded, toList_toString_nat, List.map_append, List.map_replicate, ofDigits, List.foldl_append]
  rw [show '0'.toNat - 48 = 0 from rfl, zeros]
  exact ofDigits_toDigits n

/-! ### Reading them -/

theorem Iso.asciiDigit?_of_isDigit {c : Char} (digit : c.isDigit = true) :
    asciiDigit? c = some (c.toNat - 48) :=
  if_pos (toNat_of_isDigit digit)

/-- Digits are read as far as they are wanted. -/
theorem Iso.takeNumber?_digits {s : List Char} (digits : ∀ c ∈ s, c.isDigit = true) (acc : Nat)
    (rest : List Char) :
    takeNumber? acc s.length (s ++ rest) =
      some ((s.map fun c => c.toNat - 48).foldl (fun n d => n * 10 + d) acc, rest) := by
  induction s generalizing acc with
  | nil => rfl
  | cons c s ih =>
      rw [List.length_cons, List.cons_append, takeNumber?,
        asciiDigit?_of_isDigit (digits c List.mem_cons_self)]
      exact ih (fun d inside => digits d (List.mem_cons_of_mem c inside)) _

theorem Iso.takeNumber?_padded (width : Nat) (any : 0 < width) (short : n < Nat.pow 10 width)
    (rest : List Char) : takeNumber? 0 width (padded width n ++ rest) = some (n, rest) := by
  have read := takeNumber?_digits (fun c => @isDigit_of_mem_padded width n c) 0 rest
  rw [length_padded width any short] at read
  rw [read]
  exact congrArg (fun value => some (value, rest)) (Numeral.ofDigits_padded width n)

end

/-- A year is read back. -/
theorem readYear?_padded {n : Nat} (short : n < 10000) : readYear? (padded 4 n) = some n := by
  have digits : ∀ c ∈ padded 4 n, digitValue? c = some (c.toNat - 48) := fun c inside =>
    digitValue?_of_isDigit (isDigit_of_mem_padded inside)
  have value := Numeral.ofDigits_padded 4 n
  obtain ⟨a, b, c, d, same⟩ := exists_padded_four short
  rw [same] at digits value ⊢
  simp only [List.mem_cons, List.not_mem_nil, or_false, forall_eq_or_imp, forall_eq] at digits
  obtain ⟨ofA, ofB, ofC, ofD⟩ := digits
  rw [readYear?, ofA, ofB, ofC, ofD, ← value]
  simp only [Numeral.ofDigits, List.map_cons, List.map_nil, List.foldl_cons, List.foldl_nil]
  refine congrArg some ?_
  omega

/-- Digits of a fraction are read one by one. -/
theorem foldl_asciiDigitIn? {s : List Char} (digits : ∀ c ∈ s, c.isDigit = true) (acc : Nat) :
    s.foldl (fun acc c => do return (← acc) * 10 + (← asciiDigitIn? 0 9 c)) (some acc) =
      some ((s.map fun c => c.toNat - 48).foldl (fun n d => n * 10 + d) acc) := by
  induction s generalizing acc with
  | nil => rfl
  | cons c s ih =>
      have digit := digits c List.mem_cons_self
      obtain ⟨low, high⟩ := toNat_of_isDigit digit
      have value : asciiDigitIn? 0 9 c = some (c.toNat - 48) := by
        rw [asciiDigitIn?, if_pos (by omega), digitIn?, digitValue?_of_isDigit digit]
        exact if_pos (by omega)
      rw [List.foldl_cons, value]
      exact ih (fun d inside => digits d (List.mem_cons_of_mem c inside)) _

/-- A fraction is read back. -/
theorem readMicros?_padded {n : Nat} (short : n < 1000000) : readMicros? (padded 6 n) = some n := by
  have length : (padded 6 n).length = 6 := length_padded 6 (by decide) short
  have some : ¬ ((padded 6 n).isEmpty || decide (6 < (padded 6 n).length)) = true := by
    rw [length]
    simpa using padded_ne_nil
  rw [readMicros?, if_neg some, foldl_asciiDigitIn? (fun c => isDigit_of_mem_padded) 0, length]
  exact congrArg Option.some ((Nat.mul_one _).trans (Numeral.ofDigits_padded 6 n))

end Syscat
