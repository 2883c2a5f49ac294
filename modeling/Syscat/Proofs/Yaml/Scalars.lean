/-
Module: Syscat.Proofs.Yaml.Scalars
Purpose: Texts are written as scalars in a style in which they are read back. Plain ones begin with
  nothing that means something else.
Main exports: Yaml.Written, Yaml.written_scalarText
-/
import Syscat.Proofs.Yaml.Escapes
import Syscat.Proofs.Yaml.Folding

namespace Syscat.Yaml

/-- What a plain scalar can begin with. A hyphen, a colon or a question mark has to be followed by another
character. -/
def Opens (w : List Char) : Prop :=
  ∃ c rest, w = c :: rest ∧ isVisible c = true ∧ c ≠ ' ' ∧ isIndicator c = false ∧
    (c = '-' ∨ c = ':' ∨ c = '?' → rest ≠ [] ∧ Ungapped rest)

/-- What a scalar may be written as and what it is: whether it is plain, and its text. -/
inductive Written (least : Nat) : List Char → Bool → List Char → Prop where
  | plain {w s : List Char} (opens : Opens w) (plain : Plain least w s) : Written least w true s
  | quoted {double : Bool} {w s : List Char} (quoted : Quoted double w s) :
      Written least (quotationMark double :: (w ++ [quotationMark double])) false s

theorem Written.legible {least : Nat} {w s : List Char} {isPlain : Bool}
    (written : Written least w isPlain s) : Legible w := by
  have mark : ∀ double, isVisible (quotationMark double) = true := fun double => by cases double <;> rfl
  cases written with
  | plain _ plain => exact plain.legible
  | @quoted double _ _ quoted =>
      exact .cons (mark double) (.append quoted.legible (.cons (mark double) nofun))

/-! ### Plain texts -/

section
variable {s : List Char}

/-- The first run of a text is a word if the text begins with no space. -/
theorem isWord_runs (noSpace : ∀ c ∈ s.head?, isSpace c = false) (alternating : Alternating (runs s)) :
    ∀ r ∈ (runs s).head?, r.isWord = true := by
  intro r front
  obtain ⟨rest, same⟩ := List.head?_eq_some_iff.mp front
  have whole := flatMap_runs s
  rw [same] at whole alternating
  rw [← whole] at noSpace
  cases r with
  | word => rfl
  | blanks count | breaks count =>
      obtain ⟨count, rfl⟩ : ∃ n, count = n + 1 := ⟨count - 1, (Nat.sub_add_cancel alternating.1).symm⟩
      cases noSpace _ rfl

theorem eq_blank_of_visible {c : Char} (visible : isVisible c = true) (space : isSpace c = true) :
    c = ' ' := by
  have noBreak := ne_of_isVisible visible '\n' rfl
  simpa [isSpace, noBreak] using space

/-- A text on one line has no blank beside a line end. -/
theorem hasBlankAtBreak_visible (visible : ∀ c ∈ s, isVisible c = true) : hasBlankAtBreak s = false := by
  induction s with
  | nil => rfl
  | cons c s ih =>
      obtain ⟨own, later⟩ := List.forall_mem_cons.mp visible
      cases s with
      | nil => rfl
      | cons d s =>
          have same : (isSpace c && isSpace d && c != d) = false := by
            by_cases spaces : isSpace c = true ∧ isSpace d = true
            · rw [eq_blank_of_visible own spaces.1,
                eq_blank_of_visible (later d List.mem_cons_self) spaces.2]
              rfl
            · have none : (isSpace c && isSpace d) = false := by simpa using spaces
              rw [none, Bool.false_and]
          rw [hasBlankAtBreak, same, ih later]
          rfl

/-- A text begins with no mark that means something else. -/
theorem of_hasLeadingMark {c : Char} {rest : List Char} (noMark : hasLeadingMark (c :: rest) = false) :
    isIndicator c = false ∧ (c = '-' ∨ c = ':' ∨ c = '?' → endsHere rest = false) := by
  unfold hasLeadingMark at noMark
  split at noMark
  case h_1 => cases noMark
  case h_2 => cases noMark
  case h_3 same =>
    cases same
    obtain ⟨noIndicator, followed⟩ := Bool.or_eq_false_iff.mp noMark
    refine ⟨noIndicator, ?_⟩
    rintro (rfl | rfl | rfl) <;> exact followed
  case h_4 same => cases same

theorem visible_of_isPlainSafe (safe : isPlainSafe s = true) : ∀ c ∈ s, isVisible c = true := by
  simp only [isPlainSafe, Bool.and_eq_true, List.all_eq_true] at safe
  exact safe.1.1.1.1

/-- A text that may stand plainly: it has no space around it, and nothing in it is a mark of a key or a
comment. -/
theorem of_isPlainSafe (any : s ≠ []) (safe : isPlainSafe s = true) :
    Unmarked s ∧ (∀ c ∈ s.head?, isSpace c = false) ∧ hasLeadingMark s = false := by
  obtain ⟨c, rest, rfl⟩ := List.exists_cons_of_ne_nil any
  simp only [isPlainSafe, Bool.and_eq_true, Bool.not_eq_true', List.all_eq_true] at safe
  obtain ⟨⟨⟨⟨visible, noSpace⟩, ends⟩, leading⟩, inside⟩ := safe
  have space : isSpace c = false := noSpace
  obtain ⟨noIndicator, followed⟩ := of_hasLeadingMark leading
  have noComment : c ≠ '#' := by
    rintro rfl
    cases noIndicator
  have noColon : (c == ':' && endsHere rest) = false := by
    by_cases colon : c = ':'
    · rw [followed (.inr (.inl colon)), Bool.and_false]
    · rw [beq_eq_false_iff_ne.mpr colon, Bool.false_and]
  refine ⟨⟨any, visible, fun last => ?_, ?_⟩, by simpa using space, leading⟩
  · rw [last] at ends
    cases ends
  · rw [hasMark, noColon, beq_eq_false_iff_ne.mpr noComment, space]
    exact inside

/-- Where the first word begins, so may a plain scalar. -/
theorem Plain.opens {least : Nat} {w : List Char} (plain : Plain least w s)
    (leading : hasLeadingMark s = false) : Opens w := by
  obtain ⟨first, rest, later, word, rfl, rfl, ends⟩ := plain.exists_word
  have each := word.each
  have visible := word.visible
  obtain ⟨c, tail, rfl⟩ := List.exists_cons_of_ne_nil word.any
  obtain ⟨noIndicator, followed⟩ := of_hasLeadingMark leading
  refine ⟨c, tail ++ rest, rfl, visible c List.mem_cons_self, (each c List.mem_cons_self).1, noIndicator,
    fun mark => ?_⟩
  cases tail with
  | nil =>
      have none : endsHere later = false := followed mark
      rw [ends] at none
      cases none
  | cons d tail =>
      exact ⟨List.cons_ne_nil _ _, ungapped_cons.mpr (each d (List.mem_cons_of_mem _ List.mem_cons_self))⟩

end

/-! ### Styles -/

theorem of_scalarStyle_plain {s : List Char} (style : scalarStyle s = .plain) :
    plainTag s = .text ∧ isPlainSafe s = true := by
  unfold scalarStyle at style
  split at style
  case isTrue plain => simpa using plain
  case isFalse => split at style <;> cases style

theorem of_scalarStyle_singleQuoted {s : List Char} (style : scalarStyle s = .singleQuoted) :
    Legible s ∧ hasBlankAtBreak s = false := by
  unfold scalarStyle at style
  split at style
  case isTrue => cases style
  case isFalse =>
    split at style
    case isTrue safe => simpa [isSingleSafe, Legible] using safe
    case isFalse => cases style

/-- A text is written as a scalar that is read back, as long as folded lines have columns left. -/
theorem written_scalarText {place : Place} {least : Nat} (inside : least ≤ place.indent)
    (deep : 0 < place.indent) (narrow : place.indent < lineWidth) (column : Nat) (s : List Char) :
    Written least (scalarText place column s) (scalarStyle s == .plain) s := by
  unfold scalarText
  cases style : scalarStyle s with
  | plain =>
      obtain ⟨tag, safe⟩ := of_scalarStyle_plain style
      have any : s ≠ [] := by
        rintro rfl
        cases tag
      obtain ⟨unmarked, noSpace, leading⟩ := of_isPlainSafe any safe
      have alternating := alternating_runs (hasBlankAtBreak_visible unmarked.visible)
      have word := isWord_runs noSpace alternating
      have plain := plain_foldRuns deep inside (runs s) alternating word
        (by rw [flatMap_runs]; exact unmarked) true column
      rw [flatMap_runs] at plain
      exact .plain (plain.opens leading) plain
  | singleQuoted =>
      obtain ⟨legible, apart⟩ := of_scalarStyle_singleQuoted style
      have quoted := quoted_foldRuns deep (alternating_runs apart)
        (by rw [flatMap_runs]; exact legible) true (column + 1)
      rw [flatMap_runs] at quoted
      exact @Written.quoted least false _ s quoted
  | doubleQuoted => exact @Written.quoted least true _ s ((quoted_doubleBody deep narrow s).1 _ _ _)

end Syscat.Yaml
