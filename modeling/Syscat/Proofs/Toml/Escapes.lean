/-
Module: Syscat.Proofs.Toml.Escapes
Purpose: Escapes between quotation marks are read back. Two sorts of them spell code points, and each is
  looked for by itself; a backslash of the text in front of the letter of such an escape is mistaken for
  one behind a character that is spelled this way.
Main exports: Toml.Settled, Toml.readHexEscapes_text, Toml.Faithful, Toml.readText_quote
-/
import Syscat.Proofs.Toml.Body

namespace Syscat.Toml

/-! ### Parts between the marks of escapes -/

section
variable {mark c : Char} {width : Nat} {s : List Char} {literal : List Char → Bool}

theorem exists_splitOnEscape (mark : Char) (s : List Char) :
    ∃ part parts, splitOnEscape mark s = part :: parts := by
  fun_cases splitOnEscape mark s
  all_goals exact ⟨_, _, rfl⟩

/-- A character that begins no mark belongs to the part behind it. -/
theorem splitOnEscape_cons (other : c ≠ '\\' ∨ s.head? ≠ some mark) {part : List Char}
    {parts : List (List Char)} (split : splitOnEscape mark s = part :: parts) :
    splitOnEscape mark (c :: s) = (c :: part) :: parts := by
  by_cases backslash : c = '\\'
  · cases s with
    | nil =>
        cases split
        rw [backslash]
        rfl
    | cons d s =>
        have unmarked : d ≠ mark := by
          rcases other with other | other
          · exact absurd backslash other
          · simpa using other
        rw [backslash, splitOnEscape, if_neg (by simpa using unmarked), split]
  · rw [splitOnEscape.eq_2 _ _ _ fun _ _ same _ => backslash same, split]

/-- A stretch without backslashes belongs to the part behind it. -/
theorem splitOnEscape_append {w : List Char} (plain : '\\' ∉ w) {part : List Char}
    {parts : List (List Char)} (split : splitOnEscape mark s = part :: parts) :
    splitOnEscape mark (w ++ s) = (w ++ part) :: parts := by
  induction w with
  | nil => exact split
  | cons c w ih =>
      obtain ⟨other, later⟩ : '\\' ≠ c ∧ '\\' ∉ w := by simpa using plain
      exact splitOnEscape_cons (.inl (Ne.symm other)) (ih later)

/-- Read the escapes of one sort, given whether a part in front of the first mark makes it a literal
one. -/
def readOn (mark : Char) (width : Nat) (literal : List Char → Bool) (s : List Char) :
    Except ReadFailure (List Char) :=
  match splitOnEscape mark s with
  | [] => .ok []
  | part :: parts => do
      let rest ← replaceHexEscapes mark width (literal part) parts
      return part ++ rest

theorem readHexEscapes_eq (mark : Char) (width : Nat) (s : List Char) :
    readHexEscapes mark width s = readOn mark width (fun part => oddBackslashes part.reverse) s := rfl

theorem readOn_cons (other : c ≠ '\\' ∨ s.head? ≠ some mark) :
    readOn mark width literal (c :: s) =
      (readOn mark width (fun part => literal (c :: part)) s).map (c :: ·) := by
  obtain ⟨part, parts, split⟩ := exists_splitOnEscape mark s
  rw [readOn, readOn, splitOnEscape_cons other split, split]
  dsimp only
  cases replaceHexEscapes mark width (literal (c :: part)) parts <;> rfl

/-- A stretch without marks is kept. -/
theorem readOn_append {w : List Char} (none : hasPair '\\' mark w = false)
    (apart : w.getLast? = some '\\' → s.head? ≠ some mark) :
    readOn mark width literal (w ++ s) =
      (readOn mark width (fun part => literal (w ++ part)) s).map (w ++ ·) := by
  induction w generalizing literal with
  | nil =>
      show readOn mark width literal s = (readOn mark width literal s).map id
      cases readOn mark width literal s <;> rfl
  | cons c w ih =>
      have front := (hasPair_append (s := [c]) (t := w)).mp none
      have other : c ≠ '\\' ∨ (w ++ s).head? ≠ some mark := by
        by_cases backslash : c = '\\'
        · refine .inr ?_
          cases w with
          | nil => exact apart (by rw [backslash]; rfl)
          | cons d w => exact fun next => front.2.2 ⟨by rw [backslash]; rfl, next⟩
        · exact .inl backslash
      have later : w.getLast? = some '\\' → s.head? ≠ some mark := by
        intro last
        refine apart ?_
        cases w with
        | nil => cases last
        | cons d w => exact last
      rw [List.cons_append, readOn_cons other, ih front.2.1 later]
      show _ = (readOn mark width (fun part => literal (c :: (w ++ part))) s).map fun t => c :: (w ++ t)
      cases readOn mark width (fun part => literal (c :: (w ++ part))) s <;> rfl

/-- A mark behind a part that makes it literal is kept, and the next one depends on what stands
between. -/
theorem readOn_literal (here : literal [] = true) :
    readOn mark width literal ('\\' :: mark :: s) =
      (readOn mark width (fun part => oddBackslashes part.reverse) s).map ('\\' :: mark :: ·) := by
  obtain ⟨part, parts, split⟩ := exists_splitOnEscape mark s
  rw [readOn, readOn, splitOnEscape, if_pos (by simp), split]
  dsimp only
  rw [here, replaceHexEscapes, if_pos rfl]
  cases replaceHexEscapes mark width (oddBackslashes part.reverse) parts <;> rfl

/-- Any other mark is read with the digits behind it, and from there on all of them are. -/
theorem readOn_escape (here : literal [] = false) {digits : List Char} (plain : '\\' ∉ digits)
    (read : ∀ rest, hexEscape width (digits ++ rest) = .ok (c, rest)) :
    readOn mark width literal ('\\' :: mark :: (digits ++ s)) =
      (readOn mark width (fun _ => false) s).map (c :: ·) := by
  obtain ⟨part, parts, split⟩ := exists_splitOnEscape mark s
  rw [readOn, readOn, splitOnEscape, if_pos (by simp), splitOnEscape_append plain split, split]
  dsimp only
  rw [here, replaceHexEscapes, if_neg Bool.false_ne_true, read, ok_bind]
  dsimp only
  cases replaceHexEscapes mark width false parts <;> rfl

end

/-- Whether the backslashes at the end of a part make a mark behind it literal, `before` being what
stands in front of the part, the nearest first. -/
def chained (before part : List Char) : Bool :=
  oddBackslashes (part.reverse ++ before)

theorem chained_append (before w : List Char) :
    (fun part => chained before (w ++ part)) = chained (w.reverse ++ before) := by
  funext part
  rw [chained, chained, List.reverse_append, List.append_assoc]

theorem chained_cons (before : List Char) (c : Char) :
    (fun part => chained before (c :: part)) = chained (c :: before) :=
  chained_append before [c]

theorem chained_nil : chained [] = fun part => oddBackslashes part.reverse := by
  funext part
  rw [chained, List.append_nil]

/-- Backslashes in front of a stretch that ends with something else do not count. -/
theorem oddBackslashes_reverse_append {w : List Char} (filled : w ≠ []) (last : w.getLast? ≠ some '\\')
    (before : List Char) : oddBackslashes (w.reverse ++ before) = false := by
  obtain ⟨front, c, rfl⟩ : ∃ front c, w = front ++ [c] :=
    ⟨w.dropLast, w.getLast filled, (List.dropLast_concat_getLast filled).symm⟩
  rw [List.reverse_concat, List.cons_append]
  exact oddBackslashes_cons (by simpa using last) _

/-! ### Characters that are spelled -/

/-- A text in which no backslash stands in front of `mark` behind a character of some sort. -/
def Settled (mark : Char) (spelled : Char → Bool) : List Char → Prop
  | [] => True
  | c :: s => (spelled c = true → hasPair '\\' mark s = false) ∧ Settled mark spelled s

instance decidableSettled (mark : Char) (spelled : Char → Bool) : (s : List Char) →
    Decidable (Settled mark spelled s)
  | [] => isTrue trivial
  | _ :: s =>
      have := decidableSettled mark spelled s
      inferInstanceAs (Decidable (_ ∧ _))

/-- How a character is written before escapes of one sort are read, and how afterwards. A character
that is spelled with such an escape then stands for itself, and any other is left as it is. The
backslash is written twice and is not among them. -/
inductive Stage (mark : Char) (width : Nat) (spelled : Char → Bool) (c : Char) :
    List Char → List Char → Prop where
  | read {digits : List Char} (own : spelled c = true) (plain : '\\' ∉ digits)
      (read : ∀ rest, hexEscape width (digits ++ rest) = .ok (c, rest)) :
      Stage mark width spelled c ('\\' :: mark :: digits) [c]
  | kept {w : List Char} (filled : w ≠ []) (none : hasPair '\\' mark w = false)
      (last : w.getLast? ≠ some '\\') (first : w.head? = some mark → c = mark) :
      Stage mark width spelled c w w

/-- The escapes of one sort in a text are read back, behind whole characters and also between the two
backslashes of one. Up to the first of them a mark that a backslash of the text makes is told by the
backslashes in front of the letter, which are odd in number. -/
structure ReadsBack (mark : Char) (width : Nat) (f g : Char → List Char) (s : List Char) : Prop where
  outside : ∀ before, oddBackslashes before = false →
    readOn mark width (chained before) (s.flatMap f ++ ['\x22']) = .ok (s.flatMap g ++ ['\x22'])
  between : ∀ before, oddBackslashes before = true →
    readOn mark width (chained before) ('\\' :: (s.flatMap f ++ ['\x22'])) =
      .ok ('\\' :: (s.flatMap g ++ ['\x22']))

theorem readsBack_nil {mark : Char} {width : Nat} {f g : Char → List Char} (noMark : mark ≠ '\x22') :
    ReadsBack mark width f g [] := by
  have last : ∀ literal, readOn mark width literal ['\x22'] = .ok ['\x22'] := fun literal => by
    rw [readOn_cons (.inl (by decide))]
    rfl
  refine ⟨fun _ _ => last _, fun _ _ => ?_⟩
  rw [List.flatMap_nil, List.flatMap_nil, List.nil_append,
    readOn_cons (.inr (by simpa using Ne.symm noMark)), last]
  rfl

section
variable {mark : Char} {width : Nat} {spelled : Char → Bool} {f g : Char → List Char}
  (noBackslash : mark ≠ '\\') (backslash : f '\\' = ['\\', '\\'] ∧ g '\\' = ['\\', '\\'])
include noBackslash backslash

/-- What is written begins with the mark only if the text does. -/
theorem head?_flatMap_stage {s : List Char}
    (stages : ∀ c ∈ s, c ≠ '\\' → Stage mark width spelled c (f c) (g c)) (more : List Char)
    (next : more.head? ≠ some mark) (begins : (s.flatMap f ++ more).head? = some mark) :
    s.head? = some mark := by
  cases s with
  | nil => exact absurd begins next
  | cons c s =>
      rw [List.flatMap_cons] at begins
      by_cases special : c = '\\'
      · rw [special, backslash.1] at begins
        exact absurd (Option.some.inj begins).symm noBackslash
      · have stage := stages c List.mem_cons_self special
        generalize f c = w, g c = w' at stage begins
        cases stage with
        | read => exact absurd (Option.some.inj begins).symm noBackslash
        | kept filled _ _ first =>
            cases w with
            | nil => exact absurd rfl filled
            | cons d w => rw [first begins]; rfl

/-- Once an escape has been read, all marks are read as escapes. No backslash of the text may make one. -/
theorem readOn_read {s : List Char}
    (stages : ∀ c ∈ s, c ≠ '\\' → Stage mark width spelled c (f c) (g c))
    (none : hasPair '\\' mark s = false) (noMark : mark ≠ '\x22') :
    readOn mark width (fun _ => false) (s.flatMap f ++ ['\x22']) = .ok (s.flatMap g ++ ['\x22']) := by
  induction s with
  | nil =>
      show readOn mark width (fun _ => false) ['\x22'] = .ok ['\x22']
      rw [readOn_cons (.inl (by decide))]
      rfl
  | cons c s ih =>
      have front := (hasPair_append (s := [c]) (t := s)).mp none
      have later := fun d inside => stages d (List.mem_cons_of_mem c inside)
      have next : c = '\\' → (s.flatMap f ++ ['\x22']).head? ≠ some mark := fun special begins =>
        front.2.2 ⟨by rw [special]; rfl, head?_flatMap_stage noBackslash backslash later ['\x22']
          (by simpa using Ne.symm noMark) begins⟩
      rw [List.flatMap_cons, List.flatMap_cons, List.append_assoc, List.append_assoc]
      by_cases special : c = '\\'
      · rw [special, backslash.1, backslash.2, readOn_append (by simp [hasPair, Ne.symm noBackslash])
          fun _ => next special, ih later front.2.1]
        rfl
      · have stage := stages c List.mem_cons_self special
        generalize f c = w, g c = w' at stage
        cases stage with
        | read _ plain read =>
            rw [List.cons_append, List.cons_append, readOn_escape rfl plain read, ih later front.2.1]
            rfl
        | kept _ none last =>
            rw [readOn_append none fun ends => absurd ends last, ih later front.2.1]
            rfl

section
variable {c : Char} {s : List Char}
  (stages : ∀ d ∈ c :: s, d ≠ '\\' → Stage mark width spelled d (f d) (g d)) (noMark : mark ≠ '\x22')
  (later : ReadsBack mark width f g s) {before : List Char}
include noBackslash backslash stages noMark later

theorem outside_cons (settled : Settled mark spelled (c :: s)) (even : oddBackslashes before = false) :
    readOn mark width (chained before) ((c :: s).flatMap f ++ ['\x22']) =
      .ok ((c :: s).flatMap g ++ ['\x22']) := by
  rw [List.flatMap_cons, List.flatMap_cons, List.append_assoc, List.append_assoc]
  by_cases special : c = '\\'
  · have odd : oddBackslashes ('\\' :: before) = true := by
      rw [oddBackslashes_cons_backslash, even]
      rfl
    rw [special, backslash.1, backslash.2, List.cons_append,
      readOn_cons (.inr (by simpa using Ne.symm noBackslash)), chained_cons, List.singleton_append,
      later.between _ odd]
    rfl
  · have stage := stages c List.mem_cons_self special
    generalize f c = w, g c = w' at stage
    cases stage with
    | read own plain read =>
        rw [List.cons_append, List.cons_append, readOn_escape even plain read,
          readOn_read noBackslash backslash (fun d inside => stages d (List.mem_cons_of_mem c inside))
            (settled.1 own) noMark]
        rfl
    | kept filled none last =>
        have still := oddBackslashes_reverse_append filled last before
        rw [readOn_append none fun ends => absurd ends last, chained_append, later.outside _ still]
        rfl

/-- A character that is the letter of the escapes makes a mark with the backslash in front, a literal
one. -/
theorem between_cons (self : f mark = [mark] ∧ g mark = [mark]) (settled : Settled mark spelled (c :: s))
    (odd : oddBackslashes before = true) :
    readOn mark width (chained before) ('\\' :: ((c :: s).flatMap f ++ ['\x22'])) =
      .ok ('\\' :: ((c :: s).flatMap g ++ ['\x22'])) := by
  by_cases same : c = mark
  · have rest := later.outside [] rfl
    rw [chained_nil] at rest
    rw [List.flatMap_cons, List.flatMap_cons, same, self.1, self.2, List.append_assoc, List.append_assoc,
      List.singleton_append, readOn_literal odd, rest]
    rfl
  · have next : ((c :: s).flatMap f ++ ['\x22']).head? ≠ some mark := fun begins =>
      same (Option.some.inj (head?_flatMap_stage noBackslash backslash stages ['\x22']
        (by simpa using Ne.symm noMark) begins))
    have even : oddBackslashes ('\\' :: before) = false := by
      rw [oddBackslashes_cons_backslash, odd]
      rfl
    rw [readOn_cons (.inr next), chained_cons,
      outside_cons noBackslash backslash stages noMark later settled even]
    rfl

end

theorem readsBack {s : List Char} (self : f mark = [mark] ∧ g mark = [mark])
    (stages : ∀ c ∈ s, c ≠ '\\' → Stage mark width spelled c (f c) (g c))
    (settled : Settled mark spelled s) (noMark : mark ≠ '\x22') : ReadsBack mark width f g s := by
  induction s with
  | nil => exact readsBack_nil noMark
  | cons c s ih =>
      have later := ih (fun d inside => stages d (List.mem_cons_of_mem c inside)) settled.2
      constructor
      · exact fun before even => outside_cons noBackslash backslash stages noMark later settled even
      · exact fun before odd => between_cons noBackslash backslash stages noMark later self settled odd

end

/-! ### Escapes that spell code points -/

theorem codePoint_toNat (c : Char) : codePoint c.toNat = .ok c := by
  rw [codePoint, if_pos (show c.toNat.isValidChar from c.valid), Char.ofNat_toNat]

/-- The digits of a character are read back unless they look like those of a surrogate. -/
theorem hexEscape_hexText {width : Nat} {c first second : Char} {more : List Char}
    (fits : c.toNat < Nat.pow 16 width) (digits : hexText width c.toNat = first :: second :: more)
    (plain : first ≠ 'D') (low : first = 'd' → second.toNat < 56) (rest : List Char) :
    hexEscape width (hexText width c.toNat ++ rest) = .ok (c, rest) := by
  have length := length_hexText width c.toNat
  rw [hexEscape, List.take_left' length, List.drop_left' length, hexNumber?_hexText fits, digits]
  dsimp only
  rw [codePoint_toNat]
  split
  case isTrue letter =>
    have small := low (by simpa [plain] using letter)
    rw [if_neg (Nat.not_le.mpr small)]
    rfl
  case isFalse => rfl

theorem toNat_hexDigit_lt : ∀ d < 8, (hexDigit d).toNat < 56 := by decide

theorem eq_of_hexDigit_eq : ∀ d < 16, hexDigit d ≠ 'D' ∧ (hexDigit d = 'd' → d = 13) := by decide

/-- A character below U+10000 is read back from its four digits, since it is no surrogate. -/
theorem hexEscape_four {c : Char} (small : c.toNat < 0x10000) (rest : List Char) :
    hexEscape 4 (hexText 4 c.toNat ++ rest) = .ok (c, rest) := by
  obtain ⟨plain, letter⟩ := eq_of_hexDigit_eq (c.toNat / 16 / 16 / 16 % 16) (by omega)
  refine hexEscape_hexText small rfl plain (fun first => ?_) rest
  have front := letter first
  have valid : c.toNat < 0xd800 ∨ 0xdfff < c.toNat ∧ c.toNat < 0x110000 := c.valid
  exact toNat_hexDigit_lt _ (by omega)

/-- Any character is read back from its eight digits. -/
theorem hexEscape_eight (c : Char) (rest : List Char) :
    hexEscape 8 (hexText 8 c.toNat ++ rest) = .ok (c, rest) := by
  have valid : c.toNat < 0xd800 ∨ 0xdfff < c.toNat ∧ c.toNat < 0x110000 := c.valid
  have zero : c.toNat / 16 / 16 / 16 / 16 / 16 / 16 / 16 % 16 = 0 := by omega
  have fits : c.toNat < Nat.pow 16 8 := show c.toNat < 0x100000000 by omega
  refine hexEscape_hexText fits rfl (by rw [zero]; decide) (fun first => ?_) rest
  rw [zero] at first
  exact absurd first (by decide)

/-- A character that is spelled with four digits. -/
def isShort (c : Char) : Bool :=
  !isPrintable c && decide (0x100 ≤ c.toNat) && decide (c.toNat < 0x10000)

/-- A character that is spelled with eight digits. -/
def isLong (c : Char) : Bool :=
  !isPrintable c && decide (0x10000 ≤ c.toNat)

/-- How a character stands in a text once the escapes with four digits have been read. -/
def halfChar (c : Char) : List Char :=
  if isShort c then [c] else quotedChar '\x22' c

/-- How a character stands in a text once all escapes that spell code points have been read. -/
def letterChar (c : Char) : List Char :=
  if isLong c then [c] else halfChar c

section
variable {mark c : Char} {width : Nat} {spelled : Char → Bool}

theorem Stage.plain (other : c ≠ '\\') : Stage mark width spelled c [c] [c] :=
  .kept (List.cons_ne_nil _ _) rfl (by simpa using other) fun same => Option.some.inj same

theorem Stage.escape {letter : Char} {more : List Char} (noMark : mark ∉ '\\' :: letter :: more)
    (plain : '\\' ∉ letter :: more) :
    Stage mark width spelled c ('\\' :: letter :: more) ('\\' :: letter :: more) := by
  refine .kept (List.cons_ne_nil _ _) (hasPair_of_not_mem noMark) (fun last => ?_) fun same => ?_
  · rw [List.getLast?_cons_cons] at last
    exact plain (List.mem_of_getLast? last)
  · exact absurd (List.mem_cons.mpr (.inl (Option.some.inj same).symm)) noMark

end

/-- A character beyond the first 256 that is not printable is written with its digits. -/
theorem quotedChar_of_spells {c letter : Char} {width : Nat} (large : 0x100 ≤ c.toNat)
    (unprintable : isPrintable c = false) (spells : Spells c.toNat letter width) :
    quotedChar '\x22' c = '\\' :: letter :: hexText width c.toNat := by
  have other {d : Char} (small : d.toNat < 0x100) : c ≠ d := by
    rintro rfl
    exact absurd large (Nat.not_le.mpr small)
  have image := image_quotedChar '\x22' c
  generalize quotedChar '\x22' c = w at image ⊢
  cases image with
  | marked special => exact absurd special (not_or.mpr ⟨other (by decide), other (by decide)⟩)
  | letter l _ known =>
      rcases known with ⟨_, same⟩ | ⟨_, same⟩ | ⟨_, same⟩
      all_goals exact absurd same (other (by decide))
  | plain _ _ printable => rw [unprintable] at printable; cases printable
  | spelled letter' width' _ _ _ spells' =>
      obtain ⟨rfl, rfl⟩ := spells.unique spells'
      rfl

/-- What is written for a character is left as it is by the escapes of another sort. -/
theorem stage_of_foreign {mark c : Char} {width : Nat} {spelled : Char → Bool} {w : List Char}
    (sort : mark = 'u' ∨ mark = 'U') (other : c ≠ '\\') (image : Image '\x22' c w)
    (foreign : isPrintable c = false → ∀ width, ¬ Spells c.toNat mark width) :
    Stage mark width spelled c w w := by
  cases image with
  | marked special =>
      obtain rfl : c = '\x22' := by simpa [other] using special
      rcases sort with rfl | rfl
      all_goals exact .escape (by decide) (by decide)
  | letter l _ known =>
      rcases sort with rfl | rfl
      all_goals
        rcases known with ⟨rfl, _⟩ | ⟨rfl, _⟩ | ⟨rfl, _⟩
        all_goals exact .escape (by decide) (by decide)
  | plain => exact .plain other
  | spelled letter digits _ unprintable _ spells =>
      have unlike : mark ≠ letter := by
        rintro rfl
        exact foreign unprintable digits spells
      have noMark : mark ∉ hexText digits c.toNat := by
        rcases sort with rfl | rfl
        all_goals exact not_mem_hexText (by decide)
      have noBackslash : '\\' ∉ hexText digits c.toNat := not_mem_hexText (by decide)
      have markOther : mark ≠ '\\' := by rcases sort with rfl | rfl <;> decide
      have letterOther : '\\' ≠ letter := by rcases spells.letter_mem with rfl | rfl | rfl <;> decide
      exact .escape (by simpa using ⟨markOther, unlike, noMark⟩)
        (by simpa using ⟨letterOther, noBackslash⟩)

theorem stage_four {c : Char} (other : c ≠ '\\') :
    Stage 'u' 4 isShort c (quotedChar '\x22' c) (halfChar c) := by
  rw [halfChar]
  by_cases short : isShort c = true
  · obtain ⟨⟨unprintable, large⟩, small⟩ : (isPrintable c = false ∧ 0x100 ≤ c.toNat) ∧
      c.toNat < 0x10000 := by
      simpa [isShort] using short
    rw [if_pos short, quotedChar_of_spells large unprintable (.four large small)]
    exact .read short (not_mem_hexText (by decide)) (hexEscape_four small)
  · rw [if_neg short]
    refine stage_of_foreign (.inl rfl) other
      (image_quotedChar '\x22' c) fun unprintable width spells => ?_
    cases spells with
    | four large small => exact short (by simp [isShort, unprintable, large, small])

theorem stage_eight {c : Char} (other : c ≠ '\\') :
    Stage 'U' 8 isLong c (halfChar c) (letterChar c) := by
  rw [letterChar]
  by_cases long : isLong c = true
  · obtain ⟨unprintable, large⟩ : isPrintable c = false ∧ 0x10000 ≤ c.toNat := by
      simpa [isLong] using long
    have noShort : ¬ isShort c = true := by
      simp only [isShort, Bool.and_eq_true, decide_eq_true_eq]
      omega
    rw [if_pos long, halfChar, if_neg noShort, quotedChar_of_spells (by omega) unprintable (.eight large)]
    exact .read long (not_mem_hexText (by decide)) (hexEscape_eight c)
  · rw [if_neg long, halfChar]
    split
    case isTrue => exact .plain other
    case isFalse =>
      refine stage_of_foreign (.inr rfl) other
        (image_quotedChar '\x22' c) fun unprintable width spells => ?_
      cases spells with
      | eight large => exact long (by simp [isLong, unprintable, large])

/-! ### Texts -/

/-- A text that comes back from between its quotation marks: nothing in it needs two digits or seems
to, no backslash is mistaken for one of an escape, and its beginning does not look like that of a text
over several lines. -/
structure Faithful (s : List Char) : Prop extends Spelled s where
  short : Settled 'u' isShort s
  long : Settled 'U' isLong s
  begins : s ≠ ['\x22'] ∧ s.take 2 ≠ ['\x22', '\x22']

instance (s : List Char) : Decidable (Faithful s) :=
  have := List.decidableBAll
    (fun c : Char => c.toNat < 0x100 → isPrintable c = true ∨ c = '\n' ∨ c = '\r' ∨ c = '\t') s
  decidable_of_iff (((∀ c ∈ s, c.toNat < 0x100 → isPrintable c = true ∨ c = '\n' ∨ c = '\r' ∨ c = '\t') ∧
      hasPair '\\' 'x' s = false) ∧ Settled 'u' isShort s ∧ Settled 'U' isLong s ∧
      s ≠ ['\x22'] ∧ s.take 2 ≠ ['\x22', '\x22'])
    ⟨fun ⟨⟨shown, noHex⟩, short, long, begins⟩ => ⟨⟨shown, noHex⟩, short, long, begins⟩,
      fun ⟨⟨shown, noHex⟩, short, long, begins⟩ => ⟨⟨shown, noHex⟩, short, long, begins⟩⟩

/-- The escapes of a text that spell code points are read back. -/
theorem readHexEscapes_text {s : List Char} (faithful : Faithful s) :
    (readHexEscapes 'u' 4 ('\x22' :: (s.flatMap (quotedChar '\x22') ++ ['\x22'])) >>=
        readHexEscapes 'U' 8) = .ok ('\x22' :: (s.flatMap letterChar ++ ['\x22'])) := by
  have first : readHexEscapes 'u' 4 ('\x22' :: (s.flatMap (quotedChar '\x22') ++ ['\x22'])) =
      .ok ('\x22' :: (s.flatMap halfChar ++ ['\x22'])) := by
    have back := readsBack (by decide) (by decide +kernel) (by decide +kernel) (fun c _ => stage_four)
      faithful.short (by decide)
    rw [readHexEscapes_eq, ← chained_nil, readOn_cons (.inl (by decide)), chained_cons,
      back.outside _ rfl]
    rfl
  have second : readHexEscapes 'U' 8 ('\x22' :: (s.flatMap halfChar ++ ['\x22'])) =
      .ok ('\x22' :: (s.flatMap letterChar ++ ['\x22'])) := by
    have back := readsBack (by decide) (by decide +kernel) (by decide +kernel) (fun c _ => stage_eight)
      faithful.long (by decide)
    rw [readHexEscapes_eq, ← chained_nil, readOn_cons (.inl (by decide)), chained_cons,
      back.outside _ rfl]
    rfl
  rw [first, ok_bind, second]

/-- The other escapes of a text are read back, one character at a time. -/
theorem readLetterEscapes_letterChar {c : Char}
    (shown : c.toNat < 0x100 → isPrintable c = true ∨ c = '\n' ∨ c = '\r' ∨ c = '\t') (rest : List Char) :
    readLetterEscapes (letterChar c ++ rest) = (readLetterEscapes rest).map (c :: ·) := by
  have alone : c ≠ '\\' → readLetterEscapes ([c] ++ rest) = (readLetterEscapes rest).map (c :: ·) := by
    intro other
    rw [List.singleton_append, readLetterEscapes.eq_2 _ _ fun _ _ same _ => other same]
    cases readLetterEscapes rest <;> rfl
  unfold letterChar halfChar
  split
  case isTrue long => exact alone (by rintro rfl; exact absurd long (by decide +kernel))
  split
  case isTrue short => exact alone (by rintro rfl; exact absurd short (by decide +kernel))
  case isFalse noLong noShort =>
    have image := image_quotedChar '\x22' c
    generalize quotedChar '\x22' c = w at image ⊢
    cases image with
    | marked special =>
        rcases special with rfl | rfl
        all_goals
          show readLetterEscapes ('\\' :: _ :: rest) = _
          rw [readLetterEscapes]
          cases readLetterEscapes rest <;> rfl
    | letter l _ known =>
        rcases known with ⟨rfl, rfl⟩ | ⟨rfl, rfl⟩ | ⟨rfl, rfl⟩
        all_goals
          show readLetterEscapes ('\\' :: _ :: rest) = _
          rw [readLetterEscapes]
          cases readLetterEscapes rest <;> rfl
    | plain _ other => exact alone other
    | spelled letter width _ unprintable noBreak spells =>
        cases spells with
        | two small => exact absurd (shown small) (by simp [unprintable, noBreak])
        | four large small => exact absurd (by simp [isShort, unprintable, large, small]) noShort
        | eight large => exact absurd (by simp [isLong, unprintable, large]) noLong

theorem readLetterEscapes_text {s : List Char}
    (shown : ∀ c ∈ s, c.toNat < 0x100 → isPrintable c = true ∨ c = '\n' ∨ c = '\r' ∨ c = '\t') :
    readLetterEscapes ('\x22' :: (s.flatMap letterChar ++ ['\x22'])) =
      .ok ('\x22' :: (s ++ ['\x22'])) := by
  have body : readLetterEscapes (s.flatMap letterChar ++ ['\x22']) = .ok (s ++ ['\x22']) := by
    induction s with
    | nil => rfl
    | cons c s ih =>
        rw [List.flatMap_cons, List.append_assoc,
          readLetterEscapes_letterChar (shown c List.mem_cons_self),
          ih fun d inside => shown d (List.mem_cons_of_mem c inside)]
        rfl
  rw [readLetterEscapes.eq_2 _ _ (fun _ _ same _ => absurd same (by decide)), body]
  rfl

/-- The escapes of a text are all read back. -/
theorem readEscapes_text {s : List Char} (faithful : Faithful s) :
    readEscapes ('\x22' :: (s.flatMap (quotedChar '\x22') ++ ['\x22'])) =
      .ok ('\x22' :: (s ++ ['\x22'])) := by
  obtain ⟨part, parts, split, checked⟩ :=
    checkEscapes_body (body_flatMap faithful.shown) '\x22' (by decide)
  have front : splitOn '\\' ('\x22' :: (s.flatMap (quotedChar '\x22') ++ ['\x22'])) =
      ('\x22' :: part) :: parts := by
    rw [splitOn, if_neg (by decide), split]
  have codePoints := readHexEscapes_text faithful
  rw [readEscapes, front, List.drop_one, List.tail_cons, checked, ok_bind]
  rw [← bind_assoc, codePoints, ok_bind, readLetterEscapes_text faithful.shown]

/-- The characters between the quotation marks. -/
theorem inside_one (first last : Char) (s : List Char) : inside 1 (first :: (s ++ [last])) = s := by
  rw [inside, List.length_cons, List.length_append, List.length_singleton, Nat.add_sub_cancel,
    List.take_succ_cons, List.take_left, List.drop_one, List.tail_cons]

/-- A text comes back from between its quotation marks. -/
theorem readText_quote {s : List Char} (faithful : Faithful s) :
    readText '\x22' ('\x22' :: (s.flatMap (quotedChar '\x22') ++ ['\x22'])) = .ok (String.ofList s) := by
  cases s with
  | nil => rfl
  | cons c s =>
      obtain ⟨part, parts, split, filled, closed⟩ := checkClosed_body (body_flatMap faithful.shown)
      have body : (c :: s).flatMap (quotedChar '\x22') ≠ [] := by
        obtain ⟨first, rest, same, _⟩ := head?_quotedChar_double c
        rw [List.flatMap_cons, same]
        exact List.cons_ne_nil _ _
      obtain ⟨d, more, rfl⟩ : ∃ d more, part = d :: more := List.exists_cons_of_ne_nil (filled body)
      have checked : checkClosed false 0 false ((d :: more) :: parts) = .ok () := closed [] rfl
      -- a text over several lines begins with three marks
      have single : (c == '\x22' && ((s ++ ['\x22']).isEmpty ||
          (s ++ ['\x22']).head? == some '\x22')) = false := by
        obtain ⟨notOne, notTwo⟩ := faithful.begins
        cases s with
        | nil => simpa using notOne
        | cons d s => simpa using notTwo
      rw [readText, List.drop_one, List.tail_cons, split]
      dsimp only
      rw [checked, ok_bind, if_pos (by decide), readEscapes_text faithful, ok_bind]
      simp only [List.cons_append, single, Bool.false_eq_true, if_false]
      rw [← List.cons_append, inside_one]
      rfl

end Syscat.Toml
