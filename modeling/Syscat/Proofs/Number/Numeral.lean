/-
Module: Syscat.Proofs.Number.Numeral
Purpose: Decimal numerals of integers are read back, as long as they have no more digits than the limit.
Main exports: integerDigits_eq, Numeral.readNat_toDigits
-/
import Mathlib.Tactic.IntervalCases
import Syscat.Document

namespace Syscat

theorem toNat_of_isDigit {c : Char} (digit : c.isDigit = true) : 48 ≤ c.toNat ∧ c.toNat ≤ 57 := by
  simpa [Char.isDigit, UInt32.le_iff_toNat_le] using digit

/-- A digit is none of the other characters. -/
theorem ne_of_isDigit {c : Char} (digit : c.isDigit = true) (d : Char) (other : d.isDigit = false) :
    c ≠ d := by
  rintro rfl
  exact absurd digit (by rw [other]; exact Bool.false_ne_true)

/-- A decimal digit of ASCII has its plain value. -/
theorem digitValue?_of_isDigit {c : Char} (digit : c.isDigit = true) :
    digitValue? c = some (c.toNat - 48) := by
  obtain ⟨low, high⟩ := toNat_of_isDigit digit
  have above : decide (48 ≤ c.toNat) = true := decide_eq_true low
  have below : decide (c.toNat < 48 + 10) = true := decide_eq_true (by omega)
  rw [digitValue?, digitZeros, List.find?_cons, above, below]
  rfl

/-- The digits of a number. -/
theorem isDigit_of_mem_digits {n : Nat} {c : Char} (inside : c ∈ Nat.toDigits 10 n) :
    c.isDigit = true :=
  Nat.isDigit_of_mem_toDigits (by omega) (by omega) inside

/-- A number below a power of ten has no more digits than that has zeros. -/
theorem length_digits_le {n count : Nat} (any : 0 < count) (short : n < Nat.pow 10 count) :
    (Nat.toDigits 10 n).length ≤ count :=
  (Nat.length_toDigits_le_iff (by decide) any).mpr short

/-- A number with no more digits than a power of ten has zeros is below that. -/
theorem lt_of_length_digits_le {n count : Nat} (any : 0 < count)
    (few : (Nat.toDigits 10 n).length ≤ count) : n < Nat.pow 10 count :=
  (Nat.length_toDigits_le_iff (by decide) any).mp few

/-- Only the number zero begins with the digit zero. -/
theorem toDigits_eq_cons {n : Nat} (positive : 0 < n) :
    ∃ c tail, Nat.toDigits 10 n = c :: tail ∧ c ≠ '0' := by
  induction n using Nat.strongRecOn with
  | ind n ih =>
      by_cases small : n < 10
      · refine ⟨Nat.digitChar n, [], Nat.toDigits_of_lt_base small, ?_⟩
        interval_cases n <;> decide
      · obtain ⟨c, tail, front, nonzero⟩ := ih (n / 10) (by omega) (by omega)
        exact ⟨c, tail ++ [Nat.digitChar (n % 10)],
          by rw [Nat.toDigits_of_base_le (by decide) (by omega), front]; rfl, nonzero⟩

namespace Numeral

/-- Digits of ASCII are read one by one. -/
theorem digits?_of_isDigit {s : List Char} (all : ∀ c ∈ s, c.isDigit = true) {fresh : Bool}
    (any : fresh = true → s ≠ []) : digits? fresh s = some (s.map fun c => c.toNat - 48) := by
  induction s generalizing fresh with
  | nil =>
      cases fresh with
      | false => rfl
      | true => exact absurd rfl (any rfl)
  | cons c s ih =>
      have digit := all c List.mem_cons_self
      have rest : digits? false s = some (s.map fun c => c.toNat - 48) :=
        ih (fun d inside => all d (List.mem_cons_of_mem c inside)) nofun
      have noUnderscore : (c == '_') = false := beq_eq_false_iff_ne.mpr (ne_of_isDigit digit '_' rfl)
      simp only [digits?, noUnderscore, digitValue?_of_isDigit digit, rest]
      rfl

theorem ofDigits_toDigits (n : Nat) :
    ofDigits ((Nat.toDigits 10 n).map fun c => c.toNat - 48) = n := by
  have value : Nat.ofDigitChars 10 (Nat.toDigits 10 n) 0 = n := Nat.ofDigitChars_ten_toDigits
  rw [Nat.ofDigitChars_eq_foldl, show '0'.toNat = 48 from rfl] at value
  rw [ofDigits, List.foldl_map]
  simpa only [Nat.mul_comm] using value

/-- A number that is short enough is read back from its digits. -/
theorem readNat_toDigits {n : Nat} (short : n < Nat.pow 10 digitLimit) :
    readNat (Nat.toDigits 10 n) = .ok n := by
  have few := length_digits_le (by decide) short
  rw [readNat, digits?_of_isDigit (fun c => isDigit_of_mem_digits) fun _ => Nat.toDigits_ne_nil]
  dsimp only
  rw [List.length_map, if_neg (Nat.not_lt.mpr few), ofDigits_toDigits]

end Numeral

/-- The sign in front of the digits of an integer. -/
def integerSign (n : Int) : List Char :=
  if n < 0 then ['-'] else []

/-- The text of a number. -/
theorem toList_toString_nat (n : Nat) : (toString n).toList = Nat.toDigits 10 n := by
  rw [Nat.toString_eq_repr, Nat.repr_eq_ofList_toDigits, String.toList_ofList]

/-- The text of an integer that has one. -/
theorem toList_toString (n : Int) :
    (toString n).toList = integerSign n ++ Nat.toDigits 10 n.natAbs := by
  rw [Int.toString_eq_repr, Int.repr_eq_if, integerSign]
  by_cases positive : 0 ≤ n
  · have same : n.toNat = n.natAbs := by omega
    simp [positive, Int.not_lt.mpr positive, same, Nat.repr_eq_ofList_toDigits]
  · have same : (-n).toNat = n.natAbs := by omega
    simp [positive, Int.not_le.mp positive, same, Nat.repr_eq_ofList_toDigits]

/-- An integer that is short enough is written as its sign and its digits. -/
theorem integerDigits_eq {n : Int} (short : n.natAbs < Nat.pow 10 digitLimit) :
    integerDigits n = .ok (integerSign n ++ Nat.toDigits 10 n.natAbs) := by
  have printed : integerText? n = some (toString n) := by
    unfold integerText?
    exact if_pos short
  unfold integerDigits
  rw [printed, ← toList_toString]

/-- An integer that is too long is not written. -/
theorem integerDigits_of_long {n : Int} (long : ¬ n.natAbs < Nat.pow 10 digitLimit) :
    integerDigits n = .error .longInteger := by
  have unprinted : integerText? n = none := by
    unfold integerText?
    exact if_neg long
  unfold integerDigits
  rw [unprinted]

/-- An integer that is written is short enough. -/
theorem integerDigits_eq_ok {n : Int} {part : List Char} (written : integerDigits n = .ok part) :
    n.natAbs < Nat.pow 10 digitLimit ∧ part = integerSign n ++ Nat.toDigits 10 n.natAbs := by
  by_cases short : n.natAbs < Nat.pow 10 digitLimit
  · rw [integerDigits_eq short] at written
    exact ⟨short, (Except.ok.inj written).symm⟩
  · rw [integerDigits_of_long short] at written
    cases written

end Syscat
