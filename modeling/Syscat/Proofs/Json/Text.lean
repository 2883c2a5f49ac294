/-
Module: Syscat.Proofs.Json.Text
Purpose: Texts in JSON are read back character by character, whatever escapes they are written with.
Main exports: Json.readText_quoted
-/
import Syscat.Json.Reader
import Syscat.Json.Writer
import Syscat.Proofs.Text.Hex
import Syscat.Proofs.Text.Utf8

namespace Syscat.Json

/-! ### Escapes by units -/

/-- The escape of a unit is read as that unit. -/
theorem unitEscape?_unitEscape {n : Nat} (unit : n < 0x10000) (rest : List Char) :
    unitEscape? (unitEscape n ++ rest) = some (n, rest) := by
  have number : hexNumber? (hexText 4 n) = some n := hexNumber?_hexText unit
  -- four digits, one by one
  simp only [hexText, List.nil_append, List.cons_append] at number
  simp only [unitEscape, hexText, List.nil_append, List.cons_append, unitEscape?, unit?, number,
    Option.map_some]

/-- Behind the escape of a unit that begins no pair the reader goes on. -/
theorem readText_unit {n : Nat} (unit : n < 0x10000) (alone : isHighSurrogate n = false) (fuel : Nat)
    (rest : List Char) :
    readText (fuel + 1) (unitEscape n ++ rest) =
      (readText fuel rest).map fun p => (unitChar n :: p.1, p.2) := by
  have first := unitEscape?_unitEscape unit rest
  simp only [unitEscape, List.cons_append] at first ⊢
  rw [readText, first]
  dsimp only
  -- whether another escape stands behind it makes no difference
  cases unitEscape? rest with
  | none => cases readText fuel rest <;> rfl
  | some p =>
      simp only [alone, Bool.false_and, Bool.false_eq_true, if_false]
      cases readText fuel rest <;> rfl

/-- A pair of surrogates is read as one character. -/
theorem readText_pair {n m : Nat} (high : 0xD800 ≤ n ∧ n < 0xDC00) (low : 0xDC00 ≤ m ∧ m < 0xE000)
    (fuel : Nat) (rest : List Char) :
    readText (fuel + 1) (unitEscape n ++ unitEscape m ++ rest) =
      (readText fuel rest).map fun p =>
        (Char.ofNat (0x10000 + (n - 0xD800) * 0x400 + (m - 0xDC00)) :: p.1, p.2) := by
  have first := unitEscape?_unitEscape (n := n) (by omega) (unitEscape m ++ rest)
  have second := unitEscape?_unitEscape (n := m) (by omega) rest
  have isHigh : isHighSurrogate n = true := by simp [isHighSurrogate, high]
  have isLow : isLowSurrogate m = true := by simp [isLowSurrogate, low]
  rw [List.append_assoc]
  rw [unitEscape, List.cons_append, List.cons_append] at first ⊢
  rw [readText, first]
  simp only [second, isHigh, isLow, Bool.and_self, if_true]
  cases readText fuel rest <;> rfl

/-- The escape of a character by its units is read as that character. -/
theorem readText_charEscape (c : Char) (fuel : Nat) (rest : List Char) :
    readText (fuel + 1) (charEscape c.toNat ++ rest) =
      (readText fuel rest).map fun p => (c :: p.1, p.2) := by
  have bounds := codePoint_bounds c
  have same : Char.ofNat c.toNat = c := Char.ofNat_toNat c
  rw [charEscape]
  split
  case isTrue unit =>
    have noHigh : isHighSurrogate c.toNat = false := by
      simp only [isHighSurrogate, Bool.and_eq_false_iff, decide_eq_false_iff_not]
      omega
    have noLow : isLowSurrogate c.toNat = false := by
      simp only [isLowSurrogate, Bool.and_eq_false_iff, decide_eq_false_iff_not]
      omega
    rw [readText_unit unit noHigh, unitChar, noHigh, noLow, same]
    rfl
  case isFalse astral =>
    have value : 0x10000 + (0xD800 + (c.toNat - 0x10000) / 0x400 - 0xD800) * 0x400
        + (0xDC00 + (c.toNat - 0x10000) % 0x400 - 0xDC00) = c.toNat := by omega
    rw [readText_pair (by omega) (by omega), value, same]

/-! ### Texts -/

/-- The escape of a letter is read as the character that the letter stands for. -/
theorem readText_short {letter e : Char} (means : shortEscape? letter = some e) (fuel : Nat)
    (rest : List Char) :
    readText (fuel + 1) ('\\' :: letter :: rest) =
      (readText fuel rest).map fun p => (e :: p.1, p.2) := by
  have other : letter = 'u' → False := by
    rintro rfl
    cases means
  rw [readText.eq_4 _ _ _ other, means]
  cases readText fuel rest <;> rfl

/-- A visible character that is neither a quotation mark nor a backslash stands for itself. -/
theorem readText_plain {c : Char} (quote : c ≠ '\x22') (backslash : c ≠ '\\') (visible : 32 ≤ c.toNat)
    (fuel : Nat) (rest : List Char) :
    readText (fuel + 1) (c :: rest) = (readText fuel rest).map fun p => (c :: p.1, p.2) := by
  rw [readText.eq_5 _ _ _ (fun _ escape => absurd escape backslash)
    (fun _ _ escape => absurd escape backslash)]
  simp only [beq_iff_eq, quote, backslash, decide_eq_false (Nat.not_lt.mpr visible), Bool.false_or,
    if_false]
  cases readText fuel rest <;> rfl

/-- A character is read back from what it is written as. -/
theorem readText_quotedChar (c : Char) (fuel : Nat) (rest : List Char) :
    readText (fuel + 1) (quotedChar c ++ rest) =
      (readText fuel rest).map fun p => (c :: p.1, p.2) := by
  unfold quotedChar
  -- the writer asks for the same characters in the same order
  split
  case isTrue marked =>
    rcases (by simpa using marked : c = '\x22' ∨ c = '\\') with rfl | rfl
    · exact readText_short rfl fuel rest
    · exact readText_short rfl fuel rest
  case isFalse unmarked =>
    obtain ⟨quote, backslash⟩ : c ≠ '\x22' ∧ c ≠ '\\' := by simpa using unmarked
    split
    case isTrue here => rw [eq_of_beq here]; exact readText_short rfl fuel rest
    split
    case isTrue here => rw [eq_of_beq here]; exact readText_short rfl fuel rest
    split
    case isTrue here => rw [eq_of_beq here]; exact readText_short rfl fuel rest
    split
    case isTrue here => rw [eq_of_beq here]; exact readText_short rfl fuel rest
    split
    case isTrue here => rw [eq_of_beq here]; exact readText_short rfl fuel rest
    split
    case isTrue visible => exact readText_plain quote backslash visible.1 fuel rest
    case isFalse => exact readText_charEscape c fuel rest

/-- A text is read back up to the quotation mark that ends it. -/
theorem readText_quoted (s rest : List Char) {fuel : Nat} (enough : s.length < fuel) :
    readText fuel (s.flatMap quotedChar ++ '\x22' :: rest) = .ok (s, rest) := by
  induction s generalizing fuel with
  | nil =>
      obtain ⟨fuel, rfl⟩ : ∃ k, fuel = k + 1 := ⟨fuel - 1, by rw [List.length_nil] at enough; omega⟩
      rfl
  | cons c s ih =>
      obtain ⟨fuel, rfl⟩ : ∃ k, fuel = k + 1 := ⟨fuel - 1, by omega⟩
      rw [List.length_cons] at enough
      rw [List.flatMap_cons, List.append_assoc, readText_quotedChar, ih (by omega)]
      rfl

/-- No character is left out in quotation marks. -/
theorem quotedChar_ne_nil (c : Char) : quotedChar c ≠ [] := by
  unfold quotedChar charEscape
  repeat' split
  all_goals simp [unitEscape]

/-- Every character takes at least one in quotation marks. -/
theorem length_le_quoted (s : List Char) : s.length ≤ (s.flatMap quotedChar).length := by
  induction s with
  | nil => exact Nat.le_refl 0
  | cons c s ih =>
      have one := List.length_pos_iff.mpr (quotedChar_ne_nil c)
      rw [List.flatMap_cons, List.length_cons, List.length_append]
      omega

end Syscat.Json
