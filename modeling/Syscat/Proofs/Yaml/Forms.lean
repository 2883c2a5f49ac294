/-
Module: Syscat.Proofs.Yaml.Forms
Purpose: Truth values and integers as plain scalars: how their texts look, that these have the right
  tags by their form, and what they are read as.
Main exports: Yaml.formTag_flagText, Yaml.formTag_integerChars, Yaml.integerContent_integerChars
-/
import Mathlib.Data.List.TakeWhile
import Syscat.Proofs.Number.Based
import Syscat.Proofs.Yaml.Layout
import Syscat.Yaml.Content

namespace Syscat.Yaml

/-! ### How they are written -/

theorem isVisible_of_isDigit {c : Char} (digit : c.isDigit = true) : isVisible c = true := by
  obtain ⟨low, high⟩ := toNat_of_isDigit digit
  simp [isVisible]
  omega

theorem isIndicator_of_isDigit {c : Char} (digit : c.isDigit = true) : isIndicator c = false := by
  have apart : ∀ d ∈ ",[]#&*!|>%@\x7b\x7d\x27\x22\x60".toList, d.isDigit = false :=
      forall_mem_of_all (by decide)
  rw [isIndicator, Bool.eq_false_iff]
  intro listed
  rw [apart c (List.contains_iff_mem.mp listed)] at digit
  cases digit

/-- An integer is written as digits, which a hyphen may precede. -/
theorem integerChars_cases (n : Int) : ∃ c digits, Nat.toDigits 10 n.natAbs = c :: digits ∧
    (∀ d ∈ c :: digits, d.isDigit = true) ∧
      (integerChars n = c :: digits ∨ integerChars n = '-' :: c :: digits) := by
  obtain ⟨c, digits, same⟩ := List.exists_cons_of_ne_nil (@Nat.toDigits_ne_nil n.natAbs 10)
  refine ⟨c, digits, same, fun d inside => isDigit_of_mem_digits (same ▸ inside), ?_⟩
  rw [integerChars, integerSign, same]
  split
  · exact .inr rfl
  · exact .inl rfl

theorem of_mem_integerChars {n : Int} {d : Char} (inside : d ∈ integerChars n) :
    d = '-' ∨ d.isDigit = true := by
  obtain ⟨c, digits, _, all, shape⟩ := integerChars_cases n
  rcases shape with same | same
  · exact .inr (all d (same ▸ inside))
  · rw [same] at inside
    exact (List.mem_cons.mp inside).imp id (all d)

theorem ne_of_mem_integerChars {n : Int} {d : Char} (inside : d ∈ integerChars n) {e : Char}
    (noHyphen : e ≠ '-') (noDigit : e.isDigit = false) : d ≠ e := by
  rintro rfl
  rcases of_mem_integerChars inside with hyphen | digit
  · exact noHyphen hyphen
  · rw [noDigit] at digit
    cases digit

theorem word_integerChars (n : Int) : Word (integerChars n) := by
  refine ⟨?_, fun d inside => ?_, fun d inside => ne_of_mem_integerChars inside (by decide) rfl,
    fun d front => ne_of_mem_integerChars (List.mem_of_head? front) (by decide) rfl,
    fun last => ne_of_mem_integerChars (List.mem_of_getLast? last) (by decide) rfl rfl⟩
  · obtain ⟨c, digits, _, _, shape⟩ := integerChars_cases n
    rcases shape with same | same <;> (rw [same]; exact List.cons_ne_nil _ _)
  · rcases of_mem_integerChars inside with rfl | digit
    · rfl
    · exact isVisible_of_isDigit digit

theorem opens_integerChars (n : Int) : Opens (integerChars n) := by
  obtain ⟨c, digits, _, all, shape⟩ := integerChars_cases n
  have digit := all c List.mem_cons_self
  have other := fun e => ne_of_isDigit digit e
  rcases shape with same | same
  · refine ⟨c, digits, same, isVisible_of_isDigit digit, other ' ' rfl, isIndicator_of_isDigit digit, ?_⟩
    rintro (mark | mark | mark)
    · exact absurd mark (other '-' rfl)
    · exact absurd mark (other ':' rfl)
    · exact absurd mark (other '?' rfl)
  · refine ⟨'-', c :: digits, same, rfl, by decide, rfl, fun _ => ⟨List.cons_ne_nil c digits, ?_⟩⟩
    exact ungapped_cons.mpr (solid_of_isVisible (isVisible_of_isDigit digit) (other ' ' rfl))

theorem lettered_flagText (b : Bool) : Lettered (flagText b) := by
  cases b <;> decide

/-! ### The tag by form -/

/-- A visible text has no line end behind it. -/
theorem formTag_visible {s : List Char} (visible : ∀ c ∈ s, isVisible c = true) :
    formTag s = plainTag s := by
  have other : ∀ c ∈ s, c ≠ '\n' := fun c inside => ne_of_isVisible (visible c inside) '\n' rfl
  have noBreak : (s == ['\n']) = false := by
    refine beq_eq_false_iff_ne.mpr ?_
    rintro rfl
    exact other '\n' List.mem_cons_self rfl
  have noEnd : (s.getLast? == some '\n') = false :=
    beq_eq_false_iff_ne.mpr fun last => other '\n' (List.mem_of_getLast? last) rfl
  rw [formTag, noBreak, withoutLineEnd, noEnd]
  rfl

/-- A name is a text by its form. -/
theorem Key.formTag_eq {name : List Char} (key : Key name) : formTag name = .text :=
  (formTag_visible key.word.visible).trans (of_scalarStyle_plain key.style).1

theorem formTag_flagText (b : Bool) : formTag (flagText b) = .flag := by
  cases b <;> decide +kernel

/-- Whether no word begins as an integer does. -/
def noneNumeric (words : List String) : Bool :=
  words.all fun w => !(w.toList.head?.any fun c => c == '-' || c.isDigit)

theorem contains_integer {words : List String} (none : noneNumeric words = true) {c : Char}
    (front : c = '-' ∨ c.isDigit = true) (s : List Char) :
    words.contains (String.ofList (c :: s)) = false := by
  rw [Bool.eq_false_iff]
  intro listed
  have apart := List.all_eq_true.mp none _ (List.contains_iff_mem.mp listed)
  rcases front with rfl | digit
  · simp at apart
  · simp [digit] at apart

section
variable {s : List Char} (all : ∀ c ∈ s, c.isDigit = true)
include all

theorem all_isDigitMark : s.all isDigitMark = true :=
  List.all_eq_true.mpr fun c inside => by rw [isDigitMark, all c inside, Bool.true_or]

/-- Digits alone are no number with a point. -/
theorem isPointedForm_digits : isPointedForm s = false := by
  cases s with
  | nil => rfl
  | cons c rest =>
      have none : rest.dropWhile isDigitMark = [] :=
        List.dropWhile_eq_nil_iff.mpr (List.all_eq_true.mp (all_isDigitMark fun d inside =>
          all d (.tail c inside)))
      rw [isPointedForm, none, Bool.and_false]

end

theorem withoutSign_integerChars (n : Int) : withoutSign (integerChars n) = Nat.toDigits 10 n.natAbs := by
  rw [integerChars, integerSign]
  split
  case isTrue => rfl
  case isFalse =>
    have all : ∀ c ∈ Nat.toDigits 10 n.natAbs, c.isDigit = true := fun c => isDigit_of_mem_digits
    rw [List.nil_append]
    generalize Nat.toDigits 10 n.natAbs = s at all
    -- a digit is no sign
    unfold withoutSign
    split
    case h_1 => exact absurd (all '-' List.mem_cons_self) (by decide)
    case h_2 => exact absurd (all '+' List.mem_cons_self) (by decide)
    case h_3 => rfl

/-- The digits of a number are an integer by their form: only zero begins with a zero. -/
theorem isIntegerForm_toDigits (n : Nat) : isIntegerForm (Nat.toDigits 10 n) = true := by
  rcases Nat.eq_zero_or_pos n with rfl | positive
  · rfl
  · have all : ∀ c ∈ Nat.toDigits 10 n, c.isDigit = true := fun c => isDigit_of_mem_digits
    obtain ⟨c, tail, digits, nonzero⟩ := toDigits_eq_cons positive
    rw [digits] at all ⊢
    obtain ⟨digit, later⟩ := List.forall_mem_cons.mp all
    have one : splitOn ':' tail = [tail] := splitOn_eq fun inside => absurd (later ':' inside) (by decide)
    rw [isIntegerForm.eq_4 _ _ (fun _ same => absurd same nonzero) (fun _ same =>
      absurd same nonzero) nonzero, digit, one]
    simp [all_isDigitMark later]

/-- An integer has its tag by its form. -/
theorem formTag_integerChars (n : Int) : formTag (integerChars n) = .integer := by
  rw [formTag_visible (word_integerChars n).visible]
  have form := isIntegerForm_toDigits n.natAbs
  have unsigned := withoutSign_integerChars n
  obtain ⟨c, digits, same, all, shape⟩ := integerChars_cases n
  have pointless := isPointedForm_digits all
  rw [same] at form unsigned
  obtain ⟨d, rest, whole, front⟩ : ∃ d rest, integerChars n = d :: rest ∧
    (d = '-' ∨ d.isDigit = true) := by
    rcases shape with shape | shape
    · exact ⟨c, digits, shape, .inr (all c List.mem_cons_self)⟩
    · exact ⟨'-', c :: digits, shape, .inl rfl⟩
  rw [whole] at unsigned ⊢
  have noPoint : d ≠ '.' := by
    rcases front with rfl | digit
    · decide
    · exact ne_of_isDigit digit '.' rfl
  have noFloat : isFloatForm (d :: rest) = false := by
    rw [isFloatForm.eq_2 _ (fun _ _ same => noPoint (List.cons.inj same).1), unsigned, pointless,
      contains_integer (by decide) (.inr (all c List.mem_cons_self)), contains_integer (by decide) front]
    rfl
  rw [plainTag, contains_integer (by decide) front, contains_integer (by decide) front,
    contains_integer (by decide) front, noFloat, unsigned, form]
  rfl

/-! ### What they are read as -/

theorem flagContent_flagText (b : Bool) : flagContent (flagText b) = .ok (.flag b) := by
  cases b <;> rfl

theorem takeSign_integerChars (n : Int) :
    takeSign (integerChars n) = .ok (decide (n < 0), Nat.toDigits 10 n.natAbs) := by
  rw [integerChars, integerSign]
  split
  case isTrue negative =>
    rw [decide_eq_true negative]
    rfl
  case isFalse positive =>
    rw [decide_eq_false positive, List.nil_append]
    obtain ⟨c, digits, same⟩ := List.exists_cons_of_ne_nil (@Nat.toDigits_ne_nil n.natAbs 10)
    have digit : c.isDigit = true := isDigit_of_mem_digits (same ▸ List.mem_cons_self)
    rw [same, takeSign.eq_4 _ (List.cons_ne_nil c digits)
      (fun _ same => ne_of_isDigit digit '-' rfl (List.cons.inj same).1)
      (fun _ same => ne_of_isDigit digit '+' rfl (List.cons.inj same).1)]

theorem numeral_toDigits {n : Nat} (short : n < Nat.pow 10 digitLimit) :
    numeral 10 (Nat.toDigits 10 n) = .ok n := by
  rw [numeral, Based.read_toDigits short]

theorem magnitude_toDigits {n : Nat} (short : n < Nat.pow 10 digitLimit) :
    magnitude (Nat.toDigits 10 n) = .ok n := by
  have read := numeral_toDigits short
  rcases Nat.eq_zero_or_pos n with rfl | positive
  · rfl
  · have noColon : (Nat.toDigits 10 n).contains ':' = false := by
      rw [Bool.eq_false_iff]
      intro inside
      exact absurd (isDigit_of_mem_digits (List.contains_iff_mem.mp inside)) (by decide)
    obtain ⟨c, tail, digits, nonzero⟩ := toDigits_eq_cons positive
    rw [digits] at noColon read ⊢
    unfold magnitude
    split
    case h_6 => rw [noColon, read]; rfl
    -- the other cases begin with a zero or with nothing
    all_goals simp_all

/-- An integer that is not too long is read as itself. -/
theorem integerContent_integerChars {n : Int} (short : n.natAbs < Nat.pow 10 digitLimit) :
    integerContent (integerChars n) = .ok (.integer n) := by
  have noUnderscore : (integerChars n).filter (· != '_') = integerChars n :=
    List.filter_eq_self.mpr fun c inside => bne_iff_ne.mpr (ne_of_mem_integerChars inside (by decide) rfl)
  have value : (if decide (n < 0) then -(n.natAbs : Int) else n.natAbs) = n := by
    by_cases negative : n < 0
    · rw [decide_eq_true negative, if_pos rfl]
      omega
    · rw [decide_eq_false negative, if_neg Bool.false_ne_true]
      omega
  rw [integerContent, noUnderscore, takeSign_integerChars, ok_bind]
  simp only [magnitude_toDigits short, ok_bind, value]
  rfl

end Syscat.Yaml
