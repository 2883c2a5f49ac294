/-
Module: Syscat.Proofs.Text.Part
Purpose: Texts cut at a separator, texts without a line end behind them, and texts without blanks around
  them.
Main exports: splitOn_append, intercalate_splitOn, splitOn_intercalate, withoutLineEnd_cases, strip_eq,
  strip_surrounded
-/
import Syscat.Proofs.Text.Span
import Syscat.Text.Blank
import Syscat.Text.Part

namespace Syscat

section
variable {separator : Char} {s : List Char}

theorem exists_splitOn (separator : Char) (s : List Char) :
    ∃ part parts, splitOn separator s = part :: parts := by
  fun_cases splitOn separator s
  all_goals exact ⟨_, _, rfl⟩

/-- A stretch without the separator belongs to the part behind it. -/
theorem splitOn_append_part {w : List Char} (without : separator ∉ w) {part : List Char}
    {parts : List (List Char)} (split : splitOn separator s = part :: parts) :
    splitOn separator (w ++ s) = (w ++ part) :: parts := by
  induction w with
  | nil => exact split
  | cons c w ih =>
      obtain ⟨other, later⟩ : separator ≠ c ∧ separator ∉ w := by simpa using without
      rw [List.cons_append, splitOn, if_neg (by simpa using Ne.symm other), ih later]
      rfl

/-- A text without the separator is one part. -/
theorem splitOn_eq (without : separator ∉ s) : splitOn separator s = [s] := by
  have split : splitOn separator (s ++ []) = (s ++ []) :: [] := splitOn_append_part without rfl
  rwa [List.append_nil] at split

/-- A text is cut where the first separator stands. -/
theorem splitOn_append {w : List Char} (without : separator ∉ w) (rest : List Char) :
    splitOn separator (w ++ separator :: rest) = w :: splitOn separator rest := by
  have split : splitOn separator (separator :: rest) = [] :: splitOn separator rest := by
    rw [splitOn, if_pos (by simp)]
  rw [splitOn_append_part without split, List.append_nil]

/-- The parts of a text make it up again with the separators between them. -/
theorem intercalate_splitOn (separator : Char) (s : List Char) :
    [separator].intercalate (splitOn separator s) = s := by
  induction s with
  | nil => rfl
  | cons c s ih =>
      obtain ⟨part, parts, split⟩ := exists_splitOn separator s
      rw [split] at ih
      rw [splitOn]
      split
      case isTrue here =>
        rw [split, List.intercalate_cons_cons, ih]
        simpa using (beq_iff_eq.mp here).symm
      case isFalse =>
        rw [split]
        cases parts with
        | nil => simpa [List.intercalate] using ih
        | cons more parts =>
            rw [List.intercalate_cons_cons] at ih ⊢
            rw [List.cons_append, List.cons_append, ih]

/-- Parts without the separator are found again in the text that they make up. -/
theorem splitOn_intercalate {parts : List (List Char)} (any : parts ≠ [])
    (without : ∀ part ∈ parts, separator ∉ part) :
    splitOn separator ([separator].intercalate parts) = parts := by
  induction parts with
  | nil => exact absurd rfl any
  | cons part rest ih =>
      have first := without part List.mem_cons_self
      cases rest with
      | nil =>
          rw [List.intercalate_singleton]
          exact splitOn_eq first
      | cons next rest =>
          have others := ih (List.cons_ne_nil _ _) fun p inside =>
            without p (List.mem_cons_of_mem _ inside)
          rw [List.intercalate_cons_cons, List.append_assoc, List.singleton_append,
            splitOn_append first, others]

/-- A separator stands in front of each part but the first. -/
theorem intercalate_cons (part : List Char) (parts : List (List Char)) :
    [separator].intercalate (part :: parts) = part ++ parts.flatMap (separator :: ·) := by
  induction parts generalizing part with
  | nil => rw [List.intercalate_singleton, List.flatMap_nil, List.append_nil]
  | cons next parts ih =>
      rw [List.intercalate_cons_cons, ih, List.flatMap_cons, List.append_assoc, List.singleton_append]
      rfl

/-- What stands in a text is a separator or stands in a part. -/
theorem mem_intercalate {parts : List (List Char)} {c : Char}
    (inside : c ∈ [separator].intercalate parts) : c = separator ∨ ∃ part ∈ parts, c ∈ part := by
  induction parts with
  | nil => cases inside
  | cons part rest ih =>
      cases rest with
      | nil =>
          rw [List.intercalate_singleton] at inside
          exact .inr ⟨part, List.mem_cons_self, inside⟩
      | cons next rest =>
          rw [List.intercalate_cons_cons, List.append_assoc, List.mem_append, List.singleton_append,
            List.mem_cons] at inside
          obtain here | same | later := inside
          · exact .inr ⟨part, List.mem_cons_self, here⟩
          · exact .inl same
          · obtain same | ⟨p, among, found⟩ := ih later
            · exact .inl same
            · exact .inr ⟨p, List.mem_cons_of_mem part among, found⟩

/-- A line end behind a text is taken off. -/
theorem withoutLineEnd_concat (s : List Char) : withoutLineEnd (s ++ ['\n']) = s := by
  rw [withoutLineEnd, List.getLast?_concat, if_pos (by decide), List.dropLast_concat]

/-- A text that does not end with a line end is left as it is. -/
theorem withoutLineEnd_of_ne (other : ∀ c ∈ s.getLast?, c ≠ '\n') : withoutLineEnd s = s := by
  refine if_neg fun lineEnd => ?_
  exact other '\n' (beq_iff_eq.mp lineEnd) rfl

/-- Nothing but one line end is taken off. -/
theorem withoutLineEnd_cases (s : List Char) : s = withoutLineEnd s ∨ s = withoutLineEnd s ++ ['\n'] := by
  by_cases lineEnd : s.getLast? = some '\n'
  · obtain ⟨front, rfl⟩ := List.getLast?_eq_some_iff.mp lineEnd
    rw [withoutLineEnd_concat]
    exact .inr rfl
  · refine .inl (withoutLineEnd_of_ne ?_).symm
    rintro c last rfl
    exact lineEnd last

end

/-- A text that neither begins nor ends with a blank is left as it is. -/
theorem strip_eq {c d : Char} {s front : List Char} (ends : c :: s = front ++ [d])
    (first : isBlank c = false) (last : isBlank d = false) : strip (c :: s) = c :: s := by
  rw [strip, List.dropWhile_cons, first, if_neg Bool.false_ne_true, ends, List.reverse_concat,
    List.dropWhile_cons, last, if_neg Bool.false_ne_true, List.reverse_cons, List.reverse_reverse]

/-- Blanks around a text that neither begins nor ends with one are dropped. -/
theorem strip_surrounded {before s after : List Char} (blankBefore : ∀ c ∈ before, isBlank c = true)
    (blankAfter : ∀ c ∈ after, isBlank c = true) (any : s ≠ []) (first : ∀ c ∈ s.head?, isBlank c = false)
    (last : ∀ c ∈ s.getLast?, isBlank c = false) : strip (before ++ (s ++ after)) = s := by
  have begins : ∀ c ∈ (s ++ after).head?, isBlank c = false := by
    obtain ⟨c, rest, rfl⟩ := List.exists_cons_of_ne_nil any
    exact first
  have ends : ∀ c ∈ s.reverse.head?, isBlank c = false := by
    rwa [List.head?_reverse]
  have blankReversed : ∀ c ∈ after.reverse, isBlank c = true := fun c inside =>
    blankAfter c (List.mem_reverse.mp inside)
  rw [strip, dropWhile_run blankBefore begins, List.reverse_append, dropWhile_run blankReversed ends,
    List.reverse_reverse]

/-- A blank in front is dropped. -/
theorem strip_blank_cons {c : Char} (blank : isBlank c = true) (s : List Char) :
    strip (c :: s) = strip s := by
  rw [strip, List.dropWhile_cons, if_pos blank]
  rfl

/-- A blank behind something visible is dropped. -/
theorem strip_concat_blank {c d : Char} (visible : isBlank c = false) (blank : isBlank d = true)
    (s : List Char) : strip (c :: s ++ [d]) = strip (c :: s) := by
  rw [strip, strip, List.cons_append, List.dropWhile_cons, visible, if_neg Bool.false_ne_true,
    List.dropWhile_cons, visible, if_neg Bool.false_ne_true, ← List.cons_append, List.reverse_concat,
    List.dropWhile_cons, if_pos blank]

end Syscat
