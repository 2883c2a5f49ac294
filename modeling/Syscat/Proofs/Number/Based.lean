/-
Module: Syscat.Proofs.Number.Based
Purpose: Decimal numerals are read back where other bases may be spelled as well.
Main exports: Based.readSpelled_toDigits
-/
import Syscat.Number.Based
import Syscat.Proofs.Number.Numeral
import Syscat.Proofs.Text.Part

namespace Syscat

/-- What holds of the ten digits holds of every digit. -/
theorem forall_isDigit {P : Char → Prop} (each : ∀ n < 10, P (Char.ofNat (48 + n))) {c : Char}
    (digit : c.isDigit = true) : P c := by
  obtain ⟨low, high⟩ := toNat_of_isDigit digit
  have same : Char.ofNat (48 + (c.toNat - 48)) = c := by
    rw [Nat.add_sub_cancel' low, Char.ofNat_toNat]
  rw [← same]
  exact each _ (by omega)

theorem isBlank_of_isDigit {c : Char} (digit : c.isDigit = true) : isBlank c = false :=
  forall_isDigit (P := fun c => isBlank c = false) (by decide +kernel) digit

theorem toLower_of_isDigit {c : Char} (digit : c.isDigit = true) : c.toLower = c :=
  forall_isDigit (P := fun c => c.toLower = c) (by decide +kernel) digit

/-- Digits have no blanks around them. -/
theorem strip_digits {s : List Char} (all : ∀ c ∈ s, c.isDigit = true) : strip s = s := by
  cases s with
  | nil => rfl
  | cons c s =>
      have ends : c :: s = (c :: s).dropLast ++ [(c :: s).getLast (List.cons_ne_nil _ _)] :=
        (List.dropLast_concat_getLast _).symm
      exact strip_eq ends (isBlank_of_isDigit (all c List.mem_cons_self))
        (isBlank_of_isDigit (all _ (List.getLast_mem _)))

namespace Based

theorem digit?_of_isDigit {c : Char} (digit : c.isDigit = true) : digit? 10 c = some (c.toNat - 48) := by
  obtain ⟨low, high⟩ := toNat_of_isDigit digit
  have value : hexValue? c = some (c.toNat - 48) := by
    unfold hexValue?
    exact if_pos ⟨low, high⟩
  rw [digit?, value]
  exact if_pos (by omega)

/-- Digits of ASCII are read one by one. -/
theorem digits?_of_isDigit {s : List Char} (all : ∀ c ∈ s, c.isDigit = true) {fresh : Bool}
    (any : fresh = true → s ≠ []) : digits? 10 fresh s = some (s.map fun c => c.toNat - 48) := by
  induction s generalizing fresh with
  | nil =>
      cases fresh with
      | false => rfl
      | true => exact absurd rfl (any rfl)
  | cons c s ih =>
      have digit := all c List.mem_cons_self
      have rest : digits? 10 false s = some (s.map fun c => c.toNat - 48) :=
        ih (fun d inside => all d (List.mem_cons_of_mem c inside)) nofun
      rw [digits?, if_neg (by simpa using ne_of_isDigit digit '_' rfl), digit?_of_isDigit digit]
      dsimp only
      rw [rest]
      rfl

theorem readDigits_toDigits {n : Nat} (short : n < Nat.pow 10 digitLimit) :
    readDigits 10 (Nat.toDigits 10 n) = .ok n := by
  have few := length_digits_le (by decide) short
  have value := Numeral.ofDigits_toDigits n
  rw [readDigits, digits?_of_isDigit (fun c => isDigit_of_mem_digits) fun _ => Nat.toDigits_ne_nil]
  dsimp only
  rw [number, List.length_map, if_neg (by simpa using few)]
  exact congrArg Except.ok value

/-- A number that is short enough is read back from its digits, which spell no other base. -/
theorem readSpelledUnsigned_toDigits {n : Nat} (short : n < Nat.pow 10 digitLimit) :
    readSpelledUnsigned (Nat.toDigits 10 n) = .ok n := by
  rcases Nat.eq_zero_or_pos n with rfl | positive
  · rfl
  · obtain ⟨c, tail, digits, nonzero⟩ := toDigits_eq_cons positive
    rw [digits, readSpelledUnsigned.eq_2 _ fun _ same => nonzero (List.cons.inj same).1, ← digits,
      readDigits_toDigits short]

/-- Digits have no sign in front. -/
theorem signed_toDigits {unsigned : List Char → Except NumeralError Nat} {n : Nat}
    (read : unsigned (Nat.toDigits 10 n) = .ok n) : signed unsigned (Nat.toDigits 10 n) = .ok n := by
  have all : ∀ c ∈ Nat.toDigits 10 n, c.isDigit = true := fun c => isDigit_of_mem_digits
  rw [signed, strip_digits all]
  generalize Nat.toDigits 10 n = s at all read ⊢
  -- a digit is no sign
  split
  case h_1 => exact absurd (all '-' List.mem_cons_self) (by decide)
  case h_2 => exact absurd (all '+' List.mem_cons_self) (by decide)
  case h_3 => rw [read]; rfl

theorem readSpelled_toDigits {n : Nat} (short : n < Nat.pow 10 digitLimit) :
    readSpelled (Nat.toDigits 10 n) = .ok n :=
  signed_toDigits (readSpelledUnsigned_toDigits short)

/-- The base ten is never spelled in front. -/
theorem readUnsigned_ten (s : List Char) : readUnsigned 10 s = readDigits 10 s := by
  unfold readUnsigned
  split
  case h_1 mark s =>
    have other : spelledBase? mark ≠ some 10 := by
      unfold spelledBase?
      split_ifs <;> decide
    rw [if_neg other]
  case h_2 => rfl

theorem read_toDigits {n : Nat} (short : n < Nat.pow 10 digitLimit) :
    read 10 (Nat.toDigits 10 n) = .ok n :=
  signed_toDigits ((readUnsigned_ten _).trans (readDigits_toDigits short))

end Based

end Syscat
