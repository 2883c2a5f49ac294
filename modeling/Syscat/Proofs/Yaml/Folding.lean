/-
Module: Syscat.Proofs.Yaml.Folding
Purpose: Texts as runs of words, blanks and line ends. Where runs are written one by one, the lines
  that are folded are read as the text.
Main exports: Yaml.flatMap_runs, Yaml.alternating_runs, Yaml.quoted_foldRuns, Yaml.plain_foldRuns
-/
import Syscat.Proofs.Yaml.Plain
import Syscat.Proofs.Yaml.Quoted

namespace Syscat.Yaml

/-! ### Runs -/

namespace Run

/-- What a run stands for. -/
def text : Run → List Char
  | word s => s
  | blanks count => List.replicate count ' '
  | breaks count => List.replicate count '\n'

/-- Whether a run is a word. -/
def isWord : Run → Bool
  | word _ => true
  | _ => false

/-- No run is empty, and no blank or line end stands inside a word. -/
def Sound : Run → Prop
  | word s => s ≠ [] ∧ ∀ c ∈ s, isSpace c = false
  | blanks count => 0 < count
  | breaks count => 0 < count

end Run

/-- Words and other runs alternate. -/
def Alternating : List Run → Prop
  | [] => True
  | r :: rest => r.Sound ∧ (∀ next ∈ rest.head?, next.isWord = !r.isWord) ∧ Alternating rest

theorem isSpace_eq_false {c : Char} : isSpace c = false ↔ c ≠ ' ' ∧ c ≠ '\n' := by
  simp [isSpace]

theorem head?_replicate {c : Char} {count : Nat} (any : 0 < count) :
    c ∈ (List.replicate count c).head? := by
  obtain ⟨count, rfl⟩ : ∃ n, count = n + 1 := ⟨count - 1, by omega⟩
  rfl

/-- A character extends the first run or begins one. It begins one beside another that is no word only
as a blank beside a line end. -/
theorem Run.cons_cases (c : Char) (rs : List Run) :
    (∃ first longer rest, rs = first :: rest ∧ Run.cons c rs = longer :: rest ∧
        longer.text = c :: first.text ∧ longer.isWord = first.isWord ∧ (first.Sound → longer.Sound)) ∨
      ∃ single : Run, Run.cons c rs = single :: rs ∧ single.text = [c] ∧ single.Sound ∧
        ∀ next ∈ rs.head?, next.Sound → next.isWord = !single.isWord ∨
          ∃ d ∈ next.text.head?, isSpace c = true ∧ isSpace d = true ∧ c ≠ d := by
  by_cases blank : c = ' '
  · subst blank
    cases rs with
    | nil => exact .inr ⟨.blanks 1, rfl, rfl, Nat.one_pos, nofun⟩
    | cons first rest =>
        cases first with
        | word s =>
            refine .inr ⟨.blanks 1, rfl, rfl, Nat.one_pos, fun next same _ => ?_⟩
            cases same
            exact .inl rfl
        | blanks count =>
            exact .inl ⟨_, .blanks (count + 1), rest, rfl, rfl, rfl, rfl, fun _ => Nat.succ_pos count⟩
        | breaks count =>
            refine .inr ⟨.blanks 1, rfl, rfl, Nat.one_pos, fun next same sound => ?_⟩
            cases same
            exact .inr ⟨'\n', head?_replicate sound, rfl, rfl, by decide⟩
  by_cases newline : c = '\n'
  · subst newline
    cases rs with
    | nil => exact .inr ⟨.breaks 1, rfl, rfl, Nat.one_pos, nofun⟩
    | cons first rest =>
        cases first with
        | word s =>
            refine .inr ⟨.breaks 1, rfl, rfl, Nat.one_pos, fun next same _ => ?_⟩
            cases same
            exact .inl rfl
        | blanks count =>
            refine .inr ⟨.breaks 1, rfl, rfl, Nat.one_pos, fun next same sound => ?_⟩
            cases same
            exact .inr ⟨' ', head?_replicate sound, rfl, rfl, by decide⟩
        | breaks count =>
            exact .inl ⟨_, .breaks (count + 1), rest, rfl, rfl, rfl, rfl, fun _ => Nat.succ_pos count⟩
  have solid : isSpace c = false := isSpace_eq_false.mpr ⟨blank, newline⟩
  have alone : Run.Sound (.word [c]) := ⟨List.cons_ne_nil c [], List.forall_mem_singleton.mpr solid⟩
  cases rs with
  | nil => exact .inr ⟨.word [c], by simp [Run.cons, blank, newline], rfl, alone, nofun⟩
  | cons first rest =>
      cases first with
      | word s =>
          exact .inl ⟨_, .word (c :: s), rest, rfl, by simp [Run.cons, blank, newline], rfl, rfl,
            fun sound => ⟨List.cons_ne_nil c s, List.forall_mem_cons.mpr ⟨solid, sound.2⟩⟩⟩
      | blanks count | breaks count =>
          refine .inr ⟨.word [c], by simp [Run.cons, blank, newline], rfl, alone, fun next same _ => ?_⟩
          cases same
          exact .inl rfl

/-- Runs stand for the text that they are taken from. -/
theorem flatMap_runs (s : List Char) : (runs s).flatMap Run.text = s := by
  induction s with
  | nil => rfl
  | cons c s ih =>
      rw [runs, List.foldr_cons]
      change (Run.cons c (runs s)).flatMap Run.text = _
      rcases Run.cons_cases c (runs s) with
        ⟨first, longer, rest, same, cons, text, _⟩ | ⟨single, cons, text, _⟩
      · rw [cons, List.flatMap_cons, text, ← ih, same]
        rfl
      · rw [cons, List.flatMap_cons, text, ih]
        rfl

/-- The runs of a text alternate if no blank stands beside a line end. -/
theorem alternating_runs {s : List Char} (apart : hasBlankAtBreak s = false) : Alternating (runs s) := by
  induction s with
  | nil => trivial
  | cons c s ih =>
      have later : hasBlankAtBreak s = false := by
        cases s with
        | nil => rfl
        | cons d s =>
            rw [hasBlankAtBreak] at apart
            exact (Bool.or_eq_false_iff.mp apart).2
      have alternating := ih later
      rw [runs, List.foldr_cons]
      change Alternating (Run.cons c (runs s))
      rcases Run.cons_cases c (runs s) with ⟨first, longer, rest, same, cons, _, sort, sound⟩ |
        ⟨single, cons, _, sound, beside⟩
      · rw [same] at alternating
        rw [cons]
        exact ⟨sound alternating.1, fun next inside => by rw [sort]; exact alternating.2.1 next inside,
          alternating.2.2⟩
      · rw [cons]
        refine ⟨sound, fun next inside => ?_, alternating⟩
        obtain ⟨rest, same⟩ : ∃ rest, runs s = next :: rest := List.head?_eq_some_iff.mp inside
        rw [same] at alternating
        rcases beside next inside alternating.1 with sort | ⟨d, front, space, spaceNext, other⟩
        · exact sort
        · -- the text goes on with the other sort of space, which was excluded
          obtain ⟨tail, text⟩ : ∃ tail, next.text = d :: tail := List.head?_eq_some_iff.mp front
          have whole := flatMap_runs s
          rw [same, List.flatMap_cons, text] at whole
          rw [← whole, List.cons_append, hasBlankAtBreak] at apart
          simp [space, spaceNext, other] at apart

/-! ### Single quotation marks -/

/-- How a character is written in single quotation marks. -/
def singleForm (c : Char) : List Char :=
  if c == '\x27' then ['\x27', '\x27'] else [c]

section
variable {place : Place} {w s : List Char}

/-- A visible character that is no blank is written so that it is read as itself. -/
theorem Quoted.singleForm {c : Char} (visible : isVisible c = true) (noBlank : c ≠ ' ')
    (quoted : Quoted false w s) : Quoted false (singleForm c ++ w) (c :: s) := by
  by_cases mark : c = '\x27'
  · subst mark
    exact .doubled rfl quoted
  · have plain : Yaml.singleForm c = [c] := if_neg (by simpa using mark)
    rw [plain]
    exact .plain visible noBlank mark nofun quoted

/-- So is a word. -/
theorem Quoted.word {first : List Char} (solid : ∀ c ∈ first, isVisible c = true ∧ c ≠ ' ')
    (quoted : Quoted false w s) : Quoted false (first.flatMap Yaml.singleForm ++ w) (first ++ s) := by
  induction first with
  | nil => exact quoted
  | cons c first ih =>
      obtain ⟨own, later⟩ := List.forall_mem_cons.mp solid
      rw [List.flatMap_cons, List.append_assoc]
      exact .singleForm own.1 own.2 (ih later)

theorem ungapped_singleForm {c : Char} (solid : Solid c) (rest : List Char) :
    Ungapped (singleForm c ++ rest) := by
  unfold singleForm
  split
  case isTrue => exact ungapped_cons.mpr (by decide)
  case isFalse => exact ungapped_cons.mpr solid

theorem visible_of_legible {c : Char} (legible : isVisible c = true ∨ c = '\n')
    (word : isSpace c = false) : isVisible c = true ∧ c ≠ ' ' := by
  obtain ⟨noBlank, noBreak⟩ := isSpace_eq_false.mp word
  exact ⟨legible.resolve_right noBreak, noBlank⟩

/-- Runs in front of which a word or nothing stands begin with no gap. -/
theorem ungapped_foldRuns {rs : List Run} (alternating : Alternating rs)
    (legible : Legible (rs.flatMap Run.text)) (begins : ∀ r ∈ rs.head?, r.isWord = true)
    (first : Bool) (column : Nat) : Ungapped (foldRuns place singleForm first column rs) := by
  cases rs with
  | nil => nofun
  | cons r rest =>
      cases r with
      | word s =>
          obtain ⟨c, tail, rfl⟩ := List.exists_cons_of_ne_nil alternating.1.1
          have solid := visible_of_legible (legible c List.mem_cons_self)
            (alternating.1.2 c List.mem_cons_self)
          rw [foldRuns, List.flatMap_cons, List.append_assoc]
          exact ungapped_singleForm (solid_of_isVisible solid.1 solid.2) _
      | blanks | breaks => cases begins _ rfl

/-- Runs that are written one by one, with lines folded between words, are read as their text. -/
theorem quoted_foldRuns (deep : 0 < place.indent) {rs : List Run} (alternating : Alternating rs)
    (legible : Legible (rs.flatMap Run.text)) (first : Bool) (column : Nat) :
    Quoted false (foldRuns place singleForm first column rs) (rs.flatMap Run.text) := by
  induction rs generalizing first column with
  | nil => exact .nil
  | cons r rest ih =>
      obtain ⟨sound, next, later⟩ := alternating
      rw [List.flatMap_cons] at legible ⊢
      have quoted := ih later fun c inside => legible c (List.mem_append_right _ inside)
      have ungapped := fun sort => @ungapped_foldRuns place rest later
        (fun c inside => legible c (List.mem_append_right _ inside)) sort
      cases r with
      | word s =>
          have solid : ∀ c ∈ s, isVisible c = true ∧ c ≠ ' ' := fun c inside =>
            visible_of_legible (legible c (List.mem_append_left _ inside)) (sound.2 c inside)
          exact .word solid (quoted _ _)
      | blanks count =>
          rw [foldRuns]
          split
          case isTrue full =>
            obtain rfl : count = 1 := by simp at full; exact full.1.1.1.1
            exact @Quoted.lines false 0 _ _ _ deep (ungapped next _ _) (quoted _ _)
          case isFalse => exact .blanks sound (ungapped next _ _) (quoted _ _)
      | breaks count =>
          have kept : foldedBreak ['\n'] (List.replicate count '\n') = List.replicate count '\n' := by
            obtain ⟨count, rfl⟩ : ∃ n, count = n + 1 := ⟨count - 1, (Nat.sub_add_cancel sound).symm⟩
            rfl
          have lines := @Quoted.lines false count _ _ _ deep
            (ungapped next false place.indent) (quoted _ _)
          rw [kept, ← List.cons_append, ← List.replicate_succ, List.replicate_succ',
            List.append_assoc] at lines
          rw [foldRuns, List.append_assoc]
          exact lines

end

/-! ### Plain scalars -/

/-- A word ends in no colon if a space follows, and what follows it is no comment. -/
theorem hasMark_word {first rest : List Char} (any : first ≠ []) (whole : ∀ c ∈ first, isSpace c = false)
    {spaced : Bool} (noMark : hasMark spaced (first ++ rest) = false) :
    hasMark false rest = false ∧ (endsHere rest = true → first.getLast? ≠ some ':') := by
  induction first generalizing spaced with
  | nil => exact absurd rfl any
  | cons c first ih =>
      obtain ⟨own, later⟩ := List.forall_mem_cons.mp whole
      rw [List.cons_append, hasMark, own, Bool.or_eq_false_iff, Bool.or_eq_false_iff] at noMark
      obtain ⟨⟨noColon, _⟩, more⟩ := noMark
      cases first with
      | nil =>
          refine ⟨more, fun ends same => ?_⟩
          obtain rfl : c = ':' := Option.some.inj same
          rw [List.nil_append, ends] at noColon
          cases noColon
      | cons d first =>
          rw [List.getLast?_cons_cons]
          exact ih (List.cons_ne_nil d first) later more

theorem hasMark_blanks {count : Nat} {rest : List Char} {spaced : Bool} (any : 0 < count)
    (noMark : hasMark spaced (List.replicate count ' ' ++ rest) = false) : hasMark true rest = false := by
  obtain ⟨count, rfl⟩ : ∃ n, count = n + 1 := ⟨count - 1, (Nat.sub_add_cancel any).symm⟩
  rw [List.replicate_succ, List.cons_append, hasMark] at noMark
  have later : hasMark true (List.replicate count ' ' ++ rest) = false :=
      (Bool.or_eq_false_iff.mp noMark).2
  clear noMark any
  induction count with
  | zero => exact later
  | succ count ih =>
      rw [List.replicate_succ, List.cons_append, hasMark] at later
      exact ih (Bool.or_eq_false_iff.mp later).2

/-- No comment begins behind a blank. -/
theorem head?_of_hasMark {s : List Char} (noMark : hasMark true s = false) : ∀ c ∈ s.head?, c ≠ '#' := by
  rintro c front rfl
  obtain ⟨tail, rfl⟩ := List.head?_eq_some_iff.mp front
  simp [hasMark] at noMark

/-- A text that may stand plainly behind a blank: visible characters without a blank behind them, and no
mark of a key or a comment. -/
structure Unmarked (s : List Char) : Prop where
  any : s ≠ []
  visible : ∀ c ∈ s, isVisible c = true
  ends : s.getLast? ≠ some ' '
  noMark : hasMark true s = false

/-- The first word of such a text. -/
theorem Unmarked.word {first rest : List Char} (unmarked : Unmarked (first ++ rest)) (any : first ≠ [])
    (whole : ∀ c ∈ first, isSpace c = false) (ends : endsHere rest = true) : Word first where
  any := any
  visible c inside := unmarked.visible c (List.mem_append_left rest inside)
  solid c inside := (isSpace_eq_false.mp (whole c inside)).1
  noComment := by
    obtain ⟨c, tail, rfl⟩ := List.exists_cons_of_ne_nil any
    show ∀ d ∈ (c :: tail ++ rest).head?, d ≠ '#'
    exact head?_of_hasMark unmarked.noMark
  noColon := (hasMark_word any whole unmarked.noMark).2 ends

/-- Behind a word and blanks stands such a text again. -/
theorem Unmarked.rest {first rest : List Char} {count : Nat} (any : first ≠ [])
    (whole : ∀ c ∈ first, isSpace c = false) (some : 0 < count)
    (unmarked : Unmarked (first ++ (List.replicate count ' ' ++ rest))) : Unmarked rest := by
  have more : rest ≠ [] := by
    rintro rfl
    refine unmarked.ends ?_
    rw [List.append_nil, List.getLast?_append, List.getLast?_replicate, if_neg (Nat.ne_of_gt some)]
    rfl
  refine ⟨more, fun c inside => unmarked.visible c ?_, fun last => unmarked.ends ?_,
    hasMark_blanks some (hasMark_word any whole unmarked.noMark).1⟩
  · exact List.mem_append_right _ (List.mem_append_right _ inside)
  · rw [List.getLast?_append, List.getLast?_append, last]
    rfl

section
variable {place : Place} {least : Nat}

/-- Words and the blanks between them are read as their text, wherever lines are folded. -/
theorem plain_foldRuns (deep : 0 < place.indent) (inside : least ≤ place.indent) : (rs : List Run) →
    Alternating rs → (∀ r ∈ rs.head?, r.isWord = true) → Unmarked (rs.flatMap Run.text) →
    ∀ first column, Plain least (foldRuns place (fun c => [c]) first column rs) (rs.flatMap Run.text)
  | [], _, _, unmarked => absurd rfl unmarked.any
  | .blanks _ :: _, _, begins, _ => nomatch begins _ rfl
  | .breaks _ :: _, _, begins, _ => nomatch begins _ rfl
  | .word s :: .word _ :: _, alternating, _, _ => nomatch alternating.2.1 _ rfl
  | .word s :: .breaks count :: rest, alternating, _, unmarked => by
      have newline : '\n' ∈ List.replicate count '\n' :=
        List.mem_replicate.mpr ⟨Nat.ne_of_gt alternating.2.2.1, rfl⟩
      have visible := unmarked.visible '\n' (List.mem_append_right s (List.mem_append_left _ newline))
      cases visible
  | [.word s], alternating, _, unmarked => by
      intro first column
      have whole : [Run.word s].flatMap Run.text = s ++ [] := rfl
      rw [whole] at unmarked ⊢
      have word := unmarked.word alternating.1.1 alternating.1.2 rfl
      rw [foldRuns, foldRuns, List.flatMap_singleton', List.append_nil]
      exact .word word
  | .word s :: .blanks count :: rest, alternating, _, unmarked => by
      intro first column
      obtain ⟨sound, _, some, begins, later⟩ := alternating
      rw [List.flatMap_cons, List.flatMap_cons] at unmarked ⊢
      have gap : endsHere (List.replicate count ' ' ++ rest.flatMap Run.text) = true := by
        obtain ⟨count, rfl⟩ : ∃ n, count = n + 1 := ⟨count - 1, (Nat.sub_add_cancel some).symm⟩
        rfl
      have word := unmarked.word sound.1 sound.2 gap
      have behind := Unmarked.rest sound.1 sound.2 some unmarked
      have plain := plain_foldRuns deep inside rest later begins behind
      rw [foldRuns, foldRuns, List.flatMap_singleton']
      split
      case isTrue full =>
        obtain rfl : count = 1 := by simp at full; exact full.1.1.1
        exact .folded word deep inside (plain _ _)
      case isFalse => exact .blanks word some (plain _ _)

end

end Syscat.Yaml
