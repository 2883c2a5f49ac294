/-
Module: Syscat.Proofs.Yaml.Escapes
Purpose: Texts in double quotation marks are read back: what needs an escape has one, and lines are folded
  only where a backslash joins them again.
Main exports: Yaml.escaped_of_escape?, Yaml.quoted_doubleBody
-/
import Syscat.Proofs.Text.Hex
import Syscat.Proofs.Yaml.Quoted

namespace Syscat.Yaml

/-! ### Escapes -/

theorem escaped_letter {letter c : Char} (known : letterEscape? letter = some c) :
    Escaped [letter] [c] := by
  intro cursor rest here
  refine ⟨cursor.next, ?_, by rw [Cursor.rest_next, here]; rfl⟩
  rw [escape, here]
  dsimp only [List.cons_append]
  rw [known]

/-- A character is read back from its number in hexadecimal digits. -/
theorem escaped_digits {mark : Char} {width : Nat} (noLetter : letterEscape? mark = none)
    (known : escapeWidth? mark = some width) {c : Char} (fits : c.toNat < Nat.pow 16 width) :
    Escaped (mark :: upperHexText width c.toNat) [c] := by
  intro cursor rest here
  have length : (upperHexText width c.toNat).length = width := by
    rw [upperHexText, List.length_map, length_hexText]
  have point : codePoint c.toNat = .ok c := by
    rw [codePoint, if_pos (show c.toNat.isValidChar from c.valid), Char.ofNat_toNat]
  refine ⟨cursor.skip (width + 1), ?_, ?_⟩
  · rw [escape, here]
    dsimp only [List.cons_append]
    rw [noLetter, known]
    dsimp only
    rw [if_neg (by rw [List.length_append, length]; omega), List.take_left' length,
      hexNumber?_upperHexText fits]
    dsimp only
    rw [point]
    rfl
  · rw [Cursor.rest_skip, here, List.cons_append, List.drop_succ_cons, List.drop_left' length]

theorem letterEscape?_shortEscape {c letter : Char} (short : shortEscape? c = some letter) :
    letterEscape? letter = some c := by
  rw [← Char.ofNat_toNat c]
  unfold shortEscape? at short
  split at short
  all_goals cases short
  all_goals rename_i same; rw [same]; rfl

theorem isVisible_shortEscape {c letter : Char} (short : shortEscape? c = some letter) :
    isVisible letter = true := by
  unfold shortEscape? at short
  split at short <;> cases short <;> rfl

theorem isVisible_upperHexText (width n : Nat) : ∀ d ∈ upperHexText width n, isVisible d = true := by
  have each : ∀ d < 16, isVisible (hexDigit d).toUpper = true := by decide
  intro d inside
  obtain ⟨c, digit, rfl⟩ := List.mem_map.mp inside
  obtain ⟨value, small, rfl⟩ := mem_hexText digit
  exact each value small

/-- What is written for a character that does not stand for itself is read as that character. -/
theorem escaped_of_escape? {c : Char} {written : List Char} (needed : escape? c = some written) :
    ∃ behind, written = '\\' :: behind ∧ (∀ d ∈ behind, isVisible d = true) ∧ Escaped behind [c] := by
  have digits {mark : Char} (shown : isVisible mark = true) (width n : Nat) :
      ∀ d ∈ mark :: upperHexText width n, isVisible d = true :=
    List.forall_mem_cons.mpr ⟨shown, isVisible_upperHexText width n⟩
  unfold escape? at needed
  split at needed
  case h_1 letter short =>
    cases needed
    exact ⟨[letter], rfl, List.forall_mem_singleton.mpr (isVisible_shortEscape short),
      escaped_letter (letterEscape?_shortEscape short)⟩
  case h_2 =>
    split at needed
    case isTrue => cases needed
    split at needed
    case isTrue small =>
      cases needed
      exact ⟨_, rfl, digits rfl _ _, escaped_digits rfl rfl small⟩
    split at needed
    case isTrue small =>
      cases needed
      exact ⟨_, rfl, digits rfl _ _, escaped_digits rfl rfl small⟩
    case isFalse =>
      cases needed
      have valid : c.toNat < 0xd800 ∨ 0xdfff < c.toNat ∧ c.toNat < 0x110000 := c.valid
      exact ⟨_, rfl, digits rfl _ _, escaped_digits rfl rfl (show c.toNat < 0x100000000 by omega)⟩

/-- A character that stands for itself is visible, and neither the mark nor a backslash. -/
theorem of_escape?_eq_none {c : Char} (plain : escape? c = none) :
    isVisible c = true ∧ c ≠ '\x22' ∧ c ≠ '\\' := by
  have other : ∀ d, escape? d ≠ none → c ≠ d := by
    rintro d written rfl
    exact written plain
  refine ⟨?_, other _ (by decide), other _ (by decide)⟩
  unfold escape? at plain
  split at plain
  case h_1 => cases plain
  case h_2 =>
    split at plain
    case isTrue visible => exact visible
    case isFalse =>
      split at plain
      case isTrue => cases plain
      case isFalse => split at plain <;> cases plain

/-! ### Folded lines -/

section
variable {double : Bool} {w s : List Char}

/-- A blank in a line may be followed by more. -/
theorem Quoted.blank (quoted : Quoted double w s) (noBreak : w.head? ≠ some '\n') :
    Quoted double (' ' :: w) (' ' :: s) := by
  have single (ungapped : Ungapped w) : Quoted double (' ' :: w) (' ' :: s) :=
    @Quoted.blanks double 1 w s Nat.one_pos ungapped quoted
  cases quoted with
  | nil => exact single nofun
  | plain visible noBlank => exact single (ungapped_cons.mpr (solid_of_isVisible visible noBlank))
  | doubled | escape | joined => exact single (ungapped_cons.mpr (by decide))
  | @blanks count w s any ungapped quoted =>
      exact @Quoted.blanks double (count + 1) w s (Nat.succ_pos _) ungapped quoted
  | lines => exact absurd rfl noBreak

end

section
variable {place : Place}

/-- A text in double quotation marks begins with no gap but a blank of its own. -/
theorem head?_doubleBody {s : List Char} {first fresh : Bool} {column : Nat} :
    ∀ d ∈ (doubleBody place first fresh column s).head?, Solid d ∨ d = ' ' ∧ s.head? = some ' ' := by
  intro d front
  have backslash : Solid '\\' := by decide
  cases s with
  | nil => cases front
  | cons c s =>
      rw [doubleBody] at front
      cases needed : escape? c with
      | none =>
          rw [needed] at front
          dsimp only at front
          split at front
          case isTrue =>
            cases front
            exact .inl backslash
          case isFalse =>
            cases front
            by_cases blank : d = ' '
            · exact .inr ⟨blank, congrArg some blank⟩
            · exact .inl (solid_of_isVisible (of_escape?_eq_none needed).1 blank)
      | some written =>
          obtain ⟨behind, rfl, _⟩ := escaped_of_escape? needed
          rw [needed] at front
          dsimp only at front
          split at front <;> (cases front; exact .inl backslash)

theorem ungapped_doubleBody {s : List Char} (noBlank : s.head? ≠ some ' ') {first fresh : Bool}
    {column : Nat} : Ungapped (doubleBody place first fresh column s) := fun d front =>
  (head?_doubleBody d front).resolve_right fun blank => noBlank blank.2

theorem head?_doubleBody_ne {s : List Char} {first fresh : Bool} {column : Nat} :
    (doubleBody place first fresh column s).head? ≠ some '\n' := by
  intro front
  rcases head?_doubleBody '\n' front with solid | blank
  · exact absurd solid (by decide)
  · cases blank.1

/-- A blank may be escaped. -/
theorem escaped_blank : Escaped [' '] [' '] :=
  escaped_letter rfl

/-- A folded line is joined again. -/
theorem Quoted.folded (deep : 0 < place.indent) {w s : List Char} (ungapped : Ungapped w)
    (quoted : Quoted true w s) : Quoted true (foldQuoted place false ++ w) s := by
  have joined := Quoted.joined rfl deep ungapped quoted
  simpa [foldQuoted, nextLine] using joined

/-- So is one that a blank stands in front of. -/
theorem Quoted.foldedBlank (deep : 0 < place.indent) {w s : List Char}
    (quoted : Quoted true ('\\' :: w) s) : Quoted true (foldQuoted place true ++ w) s := by
  have backslash : Solid '\\' := by decide
  have joined := Quoted.joined rfl deep (ungapped_cons.mpr backslash) quoted
  simpa [foldQuoted, nextLine] using joined

section
variable {c : Char} {s : List Char} (deep : 0 < place.indent)
  (quoted : ∀ first fresh column, Quoted true (doubleBody place first fresh column s) s)
  {first fresh : Bool} {column : Nat}
include deep quoted

/-- A character that stands for itself is read back along with the text behind it, also where the line
is folded in front of it. -/
theorem quoted_doubleBody_plain (plain : escape? c = none) :
    Quoted true (doubleBody place first fresh column (c :: s)) (c :: s) := by
  obtain ⟨visible, noMark, noBackslash⟩ := of_escape?_eq_none plain
  have ahead {more : List Char} (noBlank : c ≠ ' ') (rest : Quoted true more s) :
      Quoted true (c :: more) (c :: s) :=
    .plain visible noBlank noMark (fun _ => noBackslash) rest
  rw [doubleBody, plain]
  dsimp only
  split
  case isTrue =>
    by_cases blank : c = ' '
    · subst blank
      exact .foldedBlank deep (.escape rfl
        (List.forall_mem_singleton.mpr rfl) escaped_blank (quoted _ _ _))
    · rw [beq_eq_false_iff_ne.mpr blank]
      exact .folded deep (ungapped_cons.mpr (solid_of_isVisible visible blank))
        (ahead blank (quoted _ _ _))
  case isFalse =>
    by_cases blank : c = ' '
    · subst blank
      exact .blank (quoted _ _ _) head?_doubleBody_ne
    · exact ahead blank (quoted _ _ _)

/-- So is one that is escaped. A blank behind it that begins a folded line has a backslash in front. -/
theorem quoted_doubleBody_escaped {written : List Char} (needed : escape? c = some written)
    (narrow : place.indent < lineWidth)
    (marked : s.head? = some ' ' → ∀ fresh column, column ≤ lineWidth →
      Quoted true ('\\' :: doubleBody place false fresh column s) s) :
    Quoted true (doubleBody place first fresh column (c :: s)) (c :: s) := by
  obtain ⟨behind, rfl, shown, escaped⟩ := escaped_of_escape? needed
  rw [doubleBody, needed]
  dsimp only
  split
  case isTrue =>
    rw [List.cons_append, List.cons_append, List.append_assoc]
    cases blank : s.head? == some ' ' with
    | true => exact .escape rfl shown escaped (.foldedBlank deep (marked (eq_of_beq blank) _ _ narrow))
    | false =>
        have ungapped := fun fresh column => @ungapped_doubleBody place s
          (beq_eq_false_iff_ne.mp blank) false fresh column
        exact .escape rfl shown escaped (.folded deep (ungapped _ _) (quoted _ _ _))
  case isFalse => exact .escape rfl shown escaped (quoted _ _ _)

end

/-- A text is read back from between double quotation marks, as long as a folded line has columns left. A
blank at its beginning may have a backslash in front, as it has at the beginning of a line. -/
theorem quoted_doubleBody (deep : 0 < place.indent) (narrow : place.indent < lineWidth) (s : List Char) :
    (∀ first fresh column, Quoted true (doubleBody place first fresh column s) s) ∧
      (s.head? = some ' ' → ∀ fresh column, column ≤ lineWidth →
        Quoted true ('\\' :: doubleBody place false fresh column s) s) := by
  induction s with
  | nil => exact ⟨fun _ _ _ => .nil, nofun⟩
  | cons c s ih =>
      obtain ⟨quoted, marked⟩ := ih
      refine ⟨fun first fresh column => ?_, fun blank fresh column room => ?_⟩
      · cases needed : escape? c with
        | none => exact quoted_doubleBody_plain deep quoted needed
        | some written => exact quoted_doubleBody_escaped deep quoted needed narrow marked
      · obtain rfl : c = ' ' := Option.some.inj blank
        have whole : doubleBody place false fresh column (' ' :: s) =
            ' ' :: doubleBody place false false (column + 1) s := by
          rw [doubleBody]
          exact if_neg (by simp [Nat.not_lt.mpr room])
        rw [whole]
        exact .escape rfl (List.forall_mem_singleton.mpr rfl) escaped_blank (quoted _ _ _)

end

end Syscat.Yaml
