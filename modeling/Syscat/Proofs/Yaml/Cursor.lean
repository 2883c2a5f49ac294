/-
Module: Syscat.Proofs.Yaml.Cursor
Purpose: The places that one comes to in a text of line ends, blanks and visible characters. Quotation
  marks only matter for what is left of the text, plain scalars also for the column.
Main exports: Yaml.Legible, Yaml.Ungapped, Yaml.Cursor.skip_visible, Yaml.Cursor.exists_takeWhile
-/
import Syscat.Proofs.Results
import Syscat.Proofs.Text.Span
import Syscat.Yaml.Cursor
import Syscat.Yaml.Writer

namespace Syscat.Yaml

/-! ### Visible characters -/

section
variable {c : Char}

/-- A visible character is none of the others. -/
theorem ne_of_isVisible (visible : isVisible c = true) (d : Char) (other : isVisible d = false) :
    c ≠ d := by
  rintro rfl
  exact absurd visible (by rw [other]; exact Bool.false_ne_true)

theorem isBreak_of_isVisible (visible : isVisible c = true) : isBreak c = false := by
  have apart := ne_of_isVisible visible
  simp [isBreak, apart '\n' rfl, apart '\u0085' rfl, apart '\u2028' rfl, apart '\u2029' rfl]

end

/-- A text of visible characters, blanks and line ends. -/
def Legible (s : List Char) : Prop :=
  ∀ c ∈ s, isVisible c = true ∨ c = '\n'

section
variable {s t : List Char}

theorem Legible.of_visible (visible : ∀ c ∈ s, isVisible c = true) : Legible s :=
  fun c inside => .inl (visible c inside)

theorem Legible.append (front : Legible s) (back : Legible t) : Legible (s ++ t) :=
  List.forall_mem_append.mpr ⟨front, back⟩

theorem Legible.cons {c : Char} (visible : isVisible c = true) (rest : Legible s) : Legible (c :: s) :=
  List.forall_mem_cons.mpr ⟨.inl visible, rest⟩

theorem Legible.newline (rest : Legible s) : Legible ('\n' :: s) :=
  List.forall_mem_cons.mpr ⟨.inr rfl, rest⟩

theorem visible_blanks (count : Nat) :
    ∀ c ∈ List.replicate count ' ', isVisible c = true := fun c inside => by
  rw [List.eq_of_mem_replicate inside]
  rfl

end

/-! ### Gaps -/

/-- A character is neither a blank nor a tab nor a line end. -/
def Solid (c : Char) : Prop :=
  c ≠ ' ' ∧ c ≠ '\t' ∧ isBreak c = false

instance (c : Char) : Decidable (Solid c) :=
  inferInstanceAs (Decidable (_ ∧ _))

theorem solid_of_isVisible {c : Char} (visible : isVisible c = true) (noBlank : c ≠ ' ') : Solid c :=
  ⟨noBlank, ne_of_isVisible visible '\t' rfl, isBreak_of_isVisible visible⟩

/-- No blank, tab or line end stands in front of a text. -/
def Ungapped (s : List Char) : Prop :=
  ∀ c ∈ s.head?, Solid c

theorem ungapped_cons {c : Char} {s : List Char} : Ungapped (c :: s) ↔ Solid c := by
  simp [Ungapped]

/-- What stands in front of a text stands in front of a longer one. -/
theorem Ungapped.concat {s : List Char} (ungapped : Ungapped s) {c : Char} (solid : Solid c)
    (rest : List Char) : Ungapped (s ++ c :: rest) := by
  cases s with
  | nil => exact ungapped_cons.mpr solid
  | cons d s => exact ungapped_cons.mpr (ungapped_cons.mp ungapped)

namespace Cursor

/-! ### What is left of the text -/

theorem rest_next (c : Cursor) : c.next.rest = c.rest.tail := by
  unfold next
  split
  case h_1 none => rw [none]; rfl
  case h_2 some =>
    rw [some]
    split
    · rfl
    · split <;> rfl

theorem rest_skip (n : Nat) (c : Cursor) : (c.skip n).rest = c.rest.drop n := by
  induction n generalizing c with
  | zero => rfl
  | succ n ih => rw [skip, ih, rest_next, List.drop_tail]

/-- A run of characters is taken up to something of another sort. -/
theorem exists_takeWhile {c : Cursor} {p : Char → Bool} {run rest : List Char}
    (here : c.rest = run ++ rest) (all : ∀ d ∈ run, p d = true) (stop : ∀ d ∈ rest.head?, p d = false) :
    ∃ after, c.takeWhile p = (run, after) ∧ after.rest = rest := by
  refine ⟨c.skip run.length, ?_, ?_⟩
  · rw [takeWhile, here, takeWhile_run all stop]
  · rw [rest_skip, here, List.drop_left]

theorem ahead_eq {c : Cursor} {d : Char} {rest : List Char} (here : c.rest = d :: rest)
    (p : Char → Bool) : c.ahead p = p d := by
  rw [ahead, here]
  rfl

section
variable {c : Cursor} {rest : List Char} (here : c.rest = rest)
include here

theorem ahead_blank (ungapped : Ungapped rest) : c.ahead (· == ' ') = false := by
  rw [ahead, here]
  cases rest with
  | nil => rfl
  | cons d rest => simpa using (ungapped_cons.mp ungapped).1

theorem ahead_break (ungapped : Ungapped rest) : c.ahead isBreak = false := by
  rw [ahead, here]
  cases rest with
  | nil => rfl
  | cons d rest => exact (ungapped_cons.mp ungapped).2.2

theorem ahead_comment (noComment : ∀ d ∈ rest.head?, d ≠ '#') : c.ahead (· == '#') = false := by
  rw [ahead, here]
  cases rest with
  | nil => rfl
  | cons d rest => simpa using noComment

/-- There are no blanks to pass where none stands. -/
theorem skipBlanks_eq (noBlank : ∀ d ∈ rest.head?, d ≠ ' ') : c.skipBlanks = c := by
  rw [skipBlanks, skipWhile, takeWhile, here]
  cases rest with
  | nil => rfl
  | cons d rest =>
      have stop : (d == ' ') = false := by simpa using noBlank
      rw [List.takeWhile_cons, stop]
      rfl

end

/-- Documents are only separated where a hyphen or a point stands. -/
theorem atSeparator_eq_false {c : Cursor} {d : Char} {rest : List Char} (here : c.rest = d :: rest)
    (noHyphen : d ≠ '-') (noPoint : d ≠ '.') : c.atSeparator = false := by
  unfold atSeparator
  rw [here]
  split
  case h_1 same =>
    obtain rfl := (List.cons.inj same).1
    simp [noHyphen, noPoint]
  case h_2 => rfl

theorem lineBreak_newline {c : Cursor} {rest : List Char} (here : c.rest = '\n' :: rest) :
    c.lineBreak = (['\n'], c.next) := by
  rw [lineBreak, here]
  rfl

/-! ### Columns -/

section
variable {c : Char} (rest : List Char) (line column index : Nat)

theorem next_visible (visible : isVisible c = true) :
    next ⟨c :: rest, line, column, index⟩ = ⟨rest, line, column + 1, index + 1⟩ := by
  have noMark := ne_of_isVisible visible '\ufeff' rfl
  simp [next, isBreak_of_isVisible visible, noMark]

theorem column_next {cursor : Cursor} (here : cursor.rest = c :: rest) (visible : isVisible c = true) :
    cursor.next.column = cursor.column + 1 := by
  obtain ⟨_, line, column, index⟩ := cursor
  cases here
  rw [next_visible rest line column index visible]

/-- On a line one comes as many columns further as there are characters. -/
theorem skip_visible {s : List Char} (visible : ∀ c ∈ s, isVisible c = true) :
    skip s.length ⟨s ++ rest, line, column, index⟩ =
      ⟨rest, line, column + s.length, index + s.length⟩ := by
  induction s generalizing column index with
  | nil => rfl
  | cons c s ih =>
      rw [List.length_cons, List.cons_append, skip, next_visible _ _ _ _ (visible c List.mem_cons_self),
        ih _ _ fun d inside => visible d (List.mem_cons_of_mem c inside)]
      simp only [Nat.add_comm, Nat.add_left_comm]

theorem skip_blanks (n : Nat) : skip n ⟨List.replicate n ' ' ++ rest, line, column, index⟩ =
    ⟨rest, line, column + n, index + n⟩ := by
  have passed := @skip_visible rest line column index (List.replicate n ' ') (visible_blanks n)
  rwa [List.length_replicate] at passed

/-- Blanks are taken up to something of another sort. -/
theorem takeWhile_blanks (n : Nat) (stop : ∀ c ∈ rest.head?, c ≠ ' ') :
    takeWhile (· == ' ') ⟨List.replicate n ' ' ++ rest, line, column, index⟩ =
      (List.replicate n ' ', ⟨rest, line, column + n, index + n⟩) := by
  have taken : (List.replicate n ' ' ++ rest).takeWhile (· == ' ') = List.replicate n ' ' :=
    takeWhile_run (fun c inside => by rw [List.eq_of_mem_replicate inside]; rfl)
      fun c inside => by simpa using stop c inside
  rw [takeWhile, taken, List.length_replicate, skip_blanks]

end

end Cursor

end Syscat.Yaml
