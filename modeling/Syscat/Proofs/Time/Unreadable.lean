/-
Module: Syscat.Proofs.Time.Unreadable
Purpose: Texts that are no timestamps. Both notations begin with a digit, so the literal form of octets,
  which begins with a letter, is not read.
Main exports: strip_cons, Iso.readIso?_of_no_digit, readCatalogTimestamp?_of_no_digit, readTimestamp?_b
-/
import Syscat.Text.Blank
import Syscat.Time.Catalog

namespace Syscat

/-- A character that is not blank and begins a text still begins it without the blanks around. -/
theorem strip_cons {c : Char} (visible : isBlank c = false) (rest : List Char) :
    ∃ rest', strip (c :: rest) = c :: rest' := by
  have front : (c :: rest).dropWhile isBlank = c :: rest := by
    rw [List.dropWhile_cons, if_neg (by simp [visible])]
  have last : [c].dropWhile isBlank = [c] := by
    rw [List.dropWhile_cons, if_neg (by simp [visible])]
  rw [strip, front, List.reverse_cons, List.dropWhile_append, last]
  split
  case isTrue => exact ⟨[], rfl⟩
  case isFalse => exact ⟨_, by rw [List.reverse_append]; rfl⟩

/-- A date begins with a digit. -/
theorem Iso.readDate?_of_no_digit {c : Char} (noDigit : asciiDigit? c = none) (rest : List Char)
    (count : Nat) : readDate? ((c :: rest).take count) = none := by
  cases count with
  | zero => rfl
  | succ count => simp [readDate?, takeNumber?, noDigit]

theorem Iso.readIso?_of_no_digit {c : Char} (noDigit : asciiDigit? c = none) (rest : List Char) :
    readIso? (c :: rest) = none := by
  unfold readIso?
  split
  case isTrue => rfl
  case isFalse => simp [readDate?_of_no_digit noDigit]

/-- A year begins with a digit. -/
theorem readYear?_of_no_digit {c : Char} (noDigit : digitValue? c = none) (rest : List Char) :
    readYear? (c :: rest) = none := by
  unfold readYear?
  split
  case h_1 a _ _ _ same =>
    obtain ⟨rfl, _⟩ := List.cons.inj same
    simp [noDigit]
  case h_2 => rfl

theorem splitAt?_cons {c separator : Char} (other : c ≠ separator) {rest front back : List Char}
    (split : splitAt? separator (c :: rest) = some (front, back)) : ∃ front', front = c :: front' := by
  have begins : (c :: rest).takeWhile (· != separator) = c :: rest.takeWhile (· != separator) := by
    rw [List.takeWhile_cons, if_pos (by simpa using other)]
  unfold splitAt? at split
  rw [begins] at split
  split at split
  case h_1 => cases split
  case h_2 =>
    cases split
    exact ⟨_, rfl⟩

theorem readCatalogTimestamp?_of_no_digit {c : Char} (noDigit : digitValue? c = none)
    (noHyphen : c ≠ '-') (rest : List Char) : readCatalogTimestamp? (c :: rest) = none := by
  unfold readCatalogTimestamp?
  cases split : splitAt? '-' (c :: rest) with
  | none => rfl
  | some parts =>
      obtain ⟨year, behind⟩ := parts
      obtain ⟨year', rfl⟩ := splitAt?_cons noHyphen split
      change Option.bind (some (c :: year', behind)) _ = none
      rw [Option.bind_some]
      -- the year is read last, after the text has been taken apart
      refine Option.bind_eq_none_iff.mpr fun month _ => ?_
      refine Option.bind_eq_none_iff.mpr fun day _ => ?_
      refine Option.bind_eq_none_iff.mpr fun hour _ => ?_
      refine Option.bind_eq_none_iff.mpr fun minute _ => ?_
      dsimp only
      split
      all_goals
        refine Option.bind_eq_none_iff.mpr fun second _ => ?_
        rw [readYear?_of_no_digit noDigit]
        rfl

/-- A text that begins with the letter `b` is no timestamp. -/
theorem readTimestamp?_b (rest : List Char) : readTimestamp? ('b' :: rest) = none := by
  rw [readTimestamp?, Iso.readIso?_of_no_digit (by decide),
    readCatalogTimestamp?_of_no_digit (by decide) (by decide)]
  rfl

end Syscat
