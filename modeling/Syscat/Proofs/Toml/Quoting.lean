/-
Module: Syscat.Proofs.Toml.Quoting
Purpose: What texts are written as in TOML between their quotation marks: character by character, unless a
  two-digit escape would be needed or seems to stand there.
Main exports: Toml.Spelled, Toml.quotedBody_eq, Toml.quote_eq
-/
import Syscat.Proofs.Results
import Syscat.Proofs.Text.Hex
import Syscat.Proofs.Text.Span
import Syscat.Toml.Simple
import Syscat.Toml.Writer

namespace Syscat.Toml

/-! ### Pairs of characters -/

section
variable {a b : Char} {s t : List Char}

theorem replacePair_cons {x : Char} (other : x ≠ a ∨ s.head? ≠ some b) (substitute : List Char) :
    replacePair a b substitute (x :: s) = x :: replacePair a b substitute s := by
  cases s with
  | nil => rfl
  | cons y rest =>
      have noPair : (x == a && y == b) = false := by
        rcases other with first | second
        · simp [first]
        · simp [show y ≠ b by simpa using second]
      rw [replacePair, noPair, if_neg Bool.false_ne_true]

/-- A stretch without the second character of the pair is kept. -/
theorem replacePair_append (without : b ∉ s) (next : t.head? ≠ some b) (substitute : List Char) :
    replacePair a b substitute (s ++ t) = s ++ replacePair a b substitute t := by
  induction s with
  | nil => rfl
  | cons x s ih =>
      obtain ⟨_, later⟩ : b ≠ x ∧ b ∉ s := by simpa using without
      have other : (s ++ t).head? ≠ some b := by
        cases s with
        | nil => exact next
        | cons y s => simpa using fun same : y = b => later (same ▸ List.mem_cons_self)
      rw [List.cons_append, replacePair_cons (.inr other), ih later]
      rfl

/-- Two stretches have the pair only if one of them has it or it stands where they meet. -/
theorem hasPair_append : hasPair a b (s ++ t) = false ↔
    hasPair a b s = false ∧ hasPair a b t = false ∧ ¬ (s.getLast? = some a ∧ t.head? = some b) := by
  induction s with
  | nil => simp [hasPair]
  | cons x s ih =>
      cases s with
      | nil =>
          cases t with
          | nil => simp [hasPair]
          | cons y t => simp [hasPair, and_comm]
      | cons y s =>
          rw [List.cons_append] at ih
          rw [List.cons_append, List.cons_append, hasPair, Bool.or_eq_false_iff, ih, hasPair,
            Bool.or_eq_false_iff, List.getLast?_cons_cons, and_assoc]

theorem hasPair_of_not_mem (without : b ∉ s) : hasPair a b s = false := by
  fun_induction hasPair a b s with
  | case1 c d rest ih =>
      obtain ⟨_, other, _⟩ : b ≠ c ∧ b ≠ d ∧ b ∉ rest := by simpa using without
      rw [ih (by simpa using And.intro other ‹_›)]
      simp [Ne.symm other]
  | case2 => rfl

/-- A text without the pair is one piece. -/
theorem splitOnPair_eq (none : hasPair a b s = false) : splitOnPair a b s = [s] := by
  fun_induction hasPair a b s with
  | case1 c d rest ih =>
      obtain ⟨here, later⟩ := Bool.or_eq_false_iff.mp none
      rw [splitOnPair, if_neg (by rw [here]; exact Bool.false_ne_true), ih later]
  | case2 s short =>
      unfold splitOnPair
      split
      case h_1 x y rest => exact absurd rfl (short x y rest)
      case h_2 => rfl

end

/-! ### Characters of a text -/

/-- The letter and the number of digits of an escape that spells a code point. -/
inductive Spells : Nat → Char → Nat → Prop where
  | two {n : Nat} (small : n < 0x100) : Spells n 'x' 2
  | four {n : Nat} (large : 0x100 ≤ n) (small : n < 0x10000) : Spells n 'u' 4
  | eight {n : Nat} (large : 0x10000 ≤ n) : Spells n 'U' 8

theorem codePointEscape_eq (n : Nat) : ∃ letter width, Spells n letter width ∧
    codePointEscape n = '\\' :: letter :: hexText width n := by
  unfold codePointEscape
  split
  case isTrue small => exact ⟨'x', 2, .two small, rfl⟩
  case isFalse large =>
    split
    case isTrue small => exact ⟨'u', 4, .four (Nat.not_lt.mp large) small, rfl⟩
    case isFalse larger => exact ⟨'U', 8, .eight (Nat.not_lt.mp larger), rfl⟩

/-- A code point is spelled in one way. -/
theorem Spells.unique {n width width' : Nat} {letter letter' : Char} (spells : Spells n letter width)
    (spells' : Spells n letter' width') : letter = letter' ∧ width = width' := by
  cases spells with
  | two small =>
      cases spells' with
      | two => exact ⟨rfl, rfl⟩
      | four large => omega
      | eight large => omega
  | four large small =>
      cases spells' with
      | two small' => omega
      | four => exact ⟨rfl, rfl⟩
      | eight large' => omega
  | eight large =>
      cases spells' with
      | two small => omega
      | four _ small => omega
      | eight => exact ⟨rfl, rfl⟩

/-- How a character stands between quotation marks. -/
inductive Image (mark c : Char) : List Char → Prop where
  | marked (special : c = mark ∨ c = '\\') : Image mark c ['\\', c]
  | letter (l : Char) (unmarked : c ≠ mark)
      (known : l = 'n' ∧ c = '\n' ∨ l = 'r' ∧ c = '\r' ∨ l = 't' ∧ c = '\t') : Image mark c ['\\', l]
  | plain (unmarked : c ≠ mark) (noBackslash : c ≠ '\\') (printable : isPrintable c = true)
      (noBreak : c ≠ '\n' ∧ c ≠ '\r' ∧ c ≠ '\t') : Image mark c [c]
  | spelled (letter : Char) (width : Nat) (unmarked : c ≠ mark) (unprintable : isPrintable c = false)
      (noBreak : c ≠ '\n' ∧ c ≠ '\r' ∧ c ≠ '\t') (spells : Spells c.toNat letter width) :
      Image mark c ('\\' :: letter :: hexText width c.toNat)

theorem image_quotedChar (mark c : Char) : Image mark c (quotedChar mark c) := by
  unfold quotedChar
  split
  case isTrue special => exact .marked (by simpa using special)
  case isFalse common =>
    obtain ⟨unmarked, noBackslash⟩ : c ≠ mark ∧ c ≠ '\\' := by simpa using common
    split
    case isTrue here => exact .letter 'n' unmarked (by simpa using here)
    split
    case isTrue here => exact .letter 'r' unmarked (by simpa using here)
    split
    case isTrue here => exact .letter 't' unmarked (by simpa using here)
    split
    case isTrue printable => exact .plain unmarked noBackslash printable (by simp_all)
    case isFalse unprintable =>
      obtain ⟨letter, width, spells, same⟩ := codePointEscape_eq c.toNat
      rw [same]
      exact .spelled letter width unmarked (Bool.eq_false_iff.mpr unprintable) (by simp_all) spells

/-- A single quotation mark that is escaped loses its backslash again. -/
def unmarkedChar (c : Char) : List Char :=
  if c = '\x27' then ['\x27'] else quotedChar '\x27' c

/-- A character that is no hexadecimal digit is not in an escape's digits. -/
theorem not_mem_hexText {c : Char} (other : ∀ d < 16, hexDigit d ≠ c) {width n : Nat} :
    c ∉ hexText width n := by
  intro inside
  obtain ⟨d, small, rfl⟩ := mem_hexText inside
  exact other d small rfl

theorem Spells.letter_mem {n width : Nat} {letter : Char} (spells : Spells n letter width) :
    letter = 'x' ∨ letter = 'u' ∨ letter = 'U' := by
  cases spells <;> simp

/-- Only a quotation mark is written with one. -/
theorem not_mem_quotedChar {mark c : Char} (quote : mark = '\x22' ∨ mark = '\x27') (other : c ≠ mark) :
    mark ∉ quotedChar mark c := by
  have image := image_quotedChar mark c
  generalize quotedChar mark c = w at image ⊢
  have noBackslash : mark ≠ '\\' := by rcases quote with rfl | rfl <;> decide
  cases image with
  | marked special => simpa using ⟨noBackslash, Ne.symm other⟩
  | letter l _ known =>
      rcases quote with rfl | rfl <;> rcases known with ⟨rfl, _⟩ | ⟨rfl, _⟩ | ⟨rfl, _⟩ <;> decide
  | plain => simpa using Ne.symm other
  | spelled letter width _ _ _ spells =>
      have digits : mark ∉ hexText width c.toNat :=
        not_mem_hexText (by rcases quote with rfl | rfl <;> decide)
      have noLetter : mark ≠ letter := by
        rcases quote with rfl | rfl <;> rcases spells.letter_mem with rfl | rfl | rfl <;> decide
      simpa using ⟨noBackslash, noLetter, digits⟩

/-- No character is written with a quotation mark in front. -/
theorem head?_quotedChar (c : Char) :
    ∃ first rest, quotedChar '\x27' c = first :: rest ∧ first ≠ '\x27' := by
  have image := image_quotedChar '\x27' c
  generalize quotedChar '\x27' c = w at image ⊢
  cases image with
  | marked => exact ⟨'\\', _, rfl, by decide⟩
  | letter => exact ⟨'\\', _, rfl, by decide⟩
  | plain unmarked => exact ⟨c, _, rfl, unmarked⟩
  | spelled => exact ⟨'\\', _, rfl, by decide⟩

theorem head?_flatMap_quotedChar (s : List Char) :
    (s.flatMap (quotedChar '\x27')).head? ≠ some '\x27' := by
  cases s with
  | nil => nofun
  | cons c s =>
      obtain ⟨first, rest, same, other⟩ := head?_quotedChar c
      rw [List.flatMap_cons, same]
      simpa using other

/-- The single quotation marks of a text lose their backslashes one by one. -/
theorem replacePair_quoted (s : List Char) :
    replacePair '\\' '\x27' ['\x27'] (s.flatMap (quotedChar '\x27')) = s.flatMap unmarkedChar := by
  induction s with
  | nil => rfl
  | cons c s ih =>
      rw [List.flatMap_cons, List.flatMap_cons, ← ih]
      by_cases mark : c = '\x27'
      · rw [mark]
        rfl
      · rw [replacePair_append (not_mem_quotedChar (.inr rfl) mark) (head?_flatMap_quotedChar s),
          unmarkedChar, if_neg mark]

/-- A quotation mark of the other sort makes no difference. -/
theorem quotedChar_eq_of_ne {c : Char} (noSingle : c ≠ '\x27') (noDouble : c ≠ '\x22') :
    quotedChar '\x27' c = quotedChar '\x22' c := by
  unfold quotedChar
  rw [beq_eq_false_iff_ne.mpr noSingle, beq_eq_false_iff_ne.mpr noDouble]

/-- The double quotation marks of a text get backslashes one by one. -/
theorem flatMap_unmarkedChar (c : Char) :
    ((unmarkedChar c).flatMap fun c => if c == '\x22' then ['\\', '\x22'] else [c]) =
      quotedChar '\x22' c := by
  by_cases single : c = '\x27'
  · rw [single, unmarkedChar, if_pos rfl]
    decide +kernel
  by_cases double : c = '\x22'
  · rw [double]
    decide +kernel
  rw [unmarkedChar, if_neg single, quotedChar_eq_of_ne single double]
  have none := not_mem_quotedChar (.inl rfl) double
  generalize quotedChar '\x22' c = w at none
  induction w with
  | nil => rfl
  | cons d w ih =>
      obtain ⟨other, later⟩ : '\x22' ≠ d ∧ '\x22' ∉ w := by simpa using none
      rw [List.flatMap_cons, ih later, if_neg (by simpa using Ne.symm other)]
      rfl

/-- Between double quotation marks a text stands character by character. -/
theorem quotedBody_eq (s : List Char) : quotedBody s = s.flatMap (quotedChar '\x22') := by
  have inside : (quoted s).tail.dropLast = s.flatMap (quotedChar (quoteMark s)) := by
    rw [quoted, List.tail_cons, List.dropLast_concat]
  rw [quotedBody, inside]
  unfold quoteMark
  split
  case isTrue => rw [if_neg (by decide)]
  case isFalse =>
    rw [if_pos (by decide), replacePair_quoted, List.flatMap_assoc]
    exact congrArg (List.flatMap · s) (funext flatMap_unmarkedChar)

/-! ### Texts that are spelled without two-digit escapes -/

/-- A text needs no two-digit escape and seems to have none: no backslash stands in front of the
letter. -/
structure Spelled (s : List Char) : Prop where
  shown : ∀ c ∈ s, c.toNat < 0x100 → isPrintable c = true ∨ c = '\n' ∨ c = '\r' ∨ c = '\t'
  noHex : hasPair '\\' 'x' s = false

/-- A character begins as it stands or with a backslash. -/
theorem head?_quotedChar_double (c : Char) : ∃ first rest, quotedChar '\x22' c = first :: rest ∧
    (first = '\\' ∨ first = c) := by
  have image := image_quotedChar '\x22' c
  generalize quotedChar '\x22' c = w at image ⊢
  cases image with
  | marked => exact ⟨'\\', _, rfl, .inl rfl⟩
  | letter => exact ⟨'\\', _, rfl, .inl rfl⟩
  | plain => exact ⟨c, _, rfl, .inr rfl⟩
  | spelled => exact ⟨'\\', _, rfl, .inl rfl⟩

/-- A character that is shown, or has a longer escape, is not written with a two-digit one. -/
theorem hasPair_quotedChar {c : Char}
    (shown : c.toNat < 0x100 → isPrintable c = true ∨ c = '\n' ∨ c = '\r' ∨ c = '\t') :
    hasPair '\\' 'x' (quotedChar '\x22' c) = false ∧
      ((quotedChar '\x22' c).getLast? = some '\\' → c = '\\') := by
  have image := image_quotedChar '\x22' c
  generalize quotedChar '\x22' c = w at image ⊢
  cases image with
  | marked special => rcases special with rfl | rfl <;> decide
  | letter l _ known => rcases known with ⟨rfl, _⟩ | ⟨rfl, _⟩ | ⟨rfl, _⟩ <;> simp [hasPair]
  | plain _ noBackslash => simp [hasPair]
  | spelled letter width _ unprintable noBreak spells =>
      have longer : letter ≠ 'x' := by
        intro two
        cases spells with
        | two small => exact absurd (shown small) (by simp [unprintable, noBreak])
        | four => cases two
        | eight => cases two
      have digits : 'x' ∉ hexText width c.toNat := not_mem_hexText (by decide)
      refine ⟨hasPair_of_not_mem (by simpa using ⟨Ne.symm longer, digits⟩), fun last => ?_⟩
      rw [List.getLast?_cons_cons] at last
      have noBackslash : '\\' ∉ letter :: hexText width c.toNat := by
        have digits : '\\' ∉ hexText width c.toNat := not_mem_hexText (by decide)
        rcases spells.letter_mem with rfl | rfl | rfl <;> simpa using digits
      exact absurd (List.mem_of_getLast? last) noBackslash

theorem hasPair_flatMap {s : List Char} (spelled : Spelled s) :
    hasPair '\\' 'x' (s.flatMap (quotedChar '\x22')) = false := by
  obtain ⟨shown, noHex⟩ := spelled
  induction s with
  | nil => rfl
  | cons c s ih =>
      obtain ⟨own, ends⟩ := hasPair_quotedChar (shown c List.mem_cons_self)
      have front := (hasPair_append (s := [c]) (t := s)).mp noHex
      have later := ih (fun d inside => shown d (List.mem_cons_of_mem c inside)) front.2.1
      refine hasPair_append.mpr ⟨own, later, fun ⟨last, next⟩ => ?_⟩
      cases s with
      | nil => cases next
      | cons d s =>
          obtain ⟨first, rest, same, start⟩ := head?_quotedChar_double d
          rw [List.map_cons, List.flatten_cons, same] at next
          have letter : d = 'x' := by
            rcases start with rfl | rfl
            · cases next
            · exact Option.some.inj next
          exact front.2.2 ⟨by rw [ends last]; rfl, by rw [letter]; rfl⟩

/-- Such a text stands between its quotation marks character by character. -/
theorem quote_eq {s : List Char} (spelled : Spelled s) :
    quote s = .ok ('\x22' :: (s.flatMap (quotedChar '\x22') ++ ['\x22'])) := by
  rw [quote, quotedBody_eq, splitOnPair_eq (hasPair_flatMap spelled)]
  rfl

end Syscat.Toml
