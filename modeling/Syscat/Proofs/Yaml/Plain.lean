/-
Module: Syscat.Proofs.Yaml.Plain
Purpose: Plain scalars are read as their texts: words with blanks between them, where a line may end
  instead of a single blank, up to the colon behind a key or to a line that is not indented as deep.
Main exports: Yaml.Word, Yaml.Plain, Yaml.plainScalar_key, Yaml.Plain.read
-/
import Syscat.Proofs.Yaml.Cursor
import Syscat.Yaml.Scalar

namespace Syscat.Yaml

/-! ### Words -/

/-- A word in a plain scalar. It could be neither the beginning of a comment nor a key with its colon. -/
structure Word (s : List Char) : Prop where
  any : s ≠ []
  visible : ∀ c ∈ s, isVisible c = true
  solid : ∀ c ∈ s, c ≠ ' '
  noComment : ∀ c ∈ s.head?, c ≠ '#'
  noColon : s.getLast? ≠ some ':'

theorem Word.each {s : List Char} (word : Word s) : ∀ c ∈ s, Solid c := fun c inside =>
  solid_of_isVisible (word.visible c inside) (word.solid c inside)

theorem atGap_eq_false {c : Char} (solid : Solid c) (rest : List Char) : atGap (c :: rest) = false := by
  obtain ⟨noBlank, noTab, noBreak⟩ := solid
  simp [atGap, noBlank, noTab, noBreak]

/-- A piece is as long as its word. -/
theorem plainLength_word {s rest : List Char} (each : ∀ c ∈ s, Solid c) (noColon : s.getLast? ≠ some ':')
    (stop : plainLength false rest = 0) : plainLength false (s ++ rest) = s.length := by
  induction s with
  | nil => exact stop
  | cons c s ih =>
      obtain ⟨⟨noBlank, noTab, noBreak⟩, later⟩ := List.forall_mem_cons.mp each
      have apart : (c == ':' && atGap (s ++ rest)) = false := by
        cases s with
        | nil =>
            have other : c ≠ ':' := fun same => noColon (by rw [same]; rfl)
            simp [other]
        | cons d s => rw [List.cons_append, atGap_eq_false (later d List.mem_cons_self), Bool.and_false]
      have last : s.getLast? ≠ some ':' := by
        cases s with
        | nil => nofun
        | cons d s => rwa [List.getLast?_cons_cons] at noColon
      rw [List.cons_append, plainLength, ih later last]
      simp [noBlank, noTab, noBreak, apart]

/-! ### Gaps between words -/

/-- What may stand behind the indentation of a line that ends a scalar: nothing, or something that is
neither a gap nor a comment nor a mark between documents. -/
structure Resumes (s : List Char) : Prop where
  ungapped : Ungapped s
  noComment : ∀ c ∈ s.head?, c ≠ '#'
  apart : ∀ c : Cursor, c.rest = s → c.atSeparator = false

section
variable {rest : List Char} (line column index : Nat)

/-- Blanks in a line stand for themselves, or end the scalar where there are none. -/
theorem plainSpaces_blanks (ungapped : Ungapped rest) (count : Nat) :
    plainSpaces ⟨List.replicate count ' ' ++ rest, line, column, index⟩ =
      (if count = 0 then none else some (List.replicate count ' '),
        ⟨rest, line, column + count, index + count⟩, false) := by
  rw [plainSpaces, Cursor.takeWhile_blanks _ _ _ _ _ fun c inside => (ungapped c inside).1]
  dsimp only
  rw [Cursor.ahead_break rfl ungapped]
  cases count <;> rfl

/-- Blanks are passed behind a line end. -/
theorem plainBreaks_blanks (ungapped : Ungapped rest) {count fuel : Nat} (enough : count < fuel) :
    plainBreaks fuel ⟨List.replicate count ' ' ++ rest, line, column, index⟩ =
      some ([], ⟨rest, line, column + count, index + count⟩) := by
  induction count generalizing column index fuel with
  | zero =>
      obtain ⟨fuel, rfl⟩ : ∃ n, fuel = n + 1 := ⟨fuel - 1, by omega⟩
      rw [List.replicate_zero, List.nil_append, plainBreaks, Cursor.ahead_blank rfl ungapped,
        Cursor.ahead_break rfl ungapped]
      rfl
  | succ count ih =>
      obtain ⟨fuel, rfl⟩ : ∃ n, fuel = n + 1 := ⟨fuel - 1, by omega⟩
      rw [List.replicate_succ, List.cons_append, plainBreaks, Cursor.next_visible _ _ _ _ rfl,
        ih _ _ (Nat.lt_of_succ_lt_succ enough), Nat.add_right_comm column, Nat.add_right_comm index]
      rfl

/-- A line end and the blanks behind it count as one blank, unless a document ends there. -/
theorem plainSpaces_line (ungapped : Ungapped rest) (depth : Nat)
    (apart : ∀ c : Cursor, c.rest = List.replicate depth ' ' ++ rest → c.atSeparator = false) :
    plainSpaces ⟨'\n' :: (List.replicate depth ' ' ++ rest), line, column, index⟩ =
      (some [' '], ⟨rest, line + 1, depth, index + 1 + depth⟩, true) := by
  have none :
      Cursor.takeWhile (· == ' ') ⟨'\n' :: (List.replicate depth ' ' ++ rest), line, column, index⟩ =
        ([], ⟨'\n' :: (List.replicate depth ' ' ++ rest), line, column, index⟩) := rfl
  have next : Cursor.next ⟨'\n' :: (List.replicate depth ' ' ++ rest), line, column, index⟩ =
      ⟨List.replicate depth ' ' ++ rest, line + 1, 0, index + 1⟩ := rfl
  have enough : depth < (List.replicate depth ' ' ++ rest).length + 1 := by
    rw [List.length_append, List.length_replicate]
    omega
  rw [plainSpaces, none]
  dsimp only
  rw [Cursor.ahead_eq rfl, Cursor.lineBreak_newline rfl, next]
  dsimp only
  rw [apart _ rfl, plainBreaks_blanks _ _ _ ungapped enough, Nat.zero_add]
  rfl

end

/-! ### Scalars -/

section
variable {least : Nat} {w s rest : List Char} {line column index : Nat}

/-- A word is taken as a piece. -/
theorem word_piece (word : Word w) (stop : plainLength false rest = 0) :
    plainLength false (w ++ rest) = w.length ∧ w.length ≠ 0 ∧
      Cursor.ahead (· == '#') ⟨w ++ rest, line, column, index⟩ = false := by
  refine ⟨plainLength_word word.each word.noColon stop,
    fun none => word.any (List.length_eq_zero_iff.mp none), Cursor.ahead_comment rfl ?_⟩
  have noComment := word.noComment
  obtain ⟨c, tail, rfl⟩ := List.exists_cons_of_ne_nil word.any
  exact noComment

section
variable (word : Word w) (stop : plainLength false rest = 0) {indent : Int} {more : List Char}
  {behind : Cursor} {lineEnded : Bool}
include word stop

/-- The scalar ends behind a word that no gap follows. -/
theorem plainPieces_none (gap : plainSpaces ⟨rest, line, column + w.length, index + w.length⟩ =
    (none, behind, lineEnded)) (fuel : Nat) (spaces : List Char) (ended : Bool) :
    plainPieces false indent (fuel + 1) spaces ⟨w ++ rest, line, column, index⟩ ended =
      (spaces ++ w, behind, lineEnded) := by
  obtain ⟨length, some, noComment⟩ := @word_piece w rest line column index word stop
  rw [plainPieces, noComment, if_neg Bool.false_ne_true]
  dsimp only
  rw [length, if_neg (by simpa using some), Cursor.skip_visible _ _ _ _ word.visible, List.take_left, gap]

/-- It also ends where the next line is not indented as deep. -/
theorem plainPieces_shallow (gap : plainSpaces ⟨rest, line, column + w.length, index + w.length⟩ =
    (some more, behind, lineEnded)) (shallow : (behind.column : Int) < indent) (fuel : Nat)
    (spaces : List Char) (ended : Bool) :
    plainPieces false indent (fuel + 1) spaces ⟨w ++ rest, line, column, index⟩ ended =
      (spaces ++ w, behind, lineEnded) := by
  obtain ⟨length, some, noComment⟩ := @word_piece w rest line column index word stop
  rw [plainPieces, noComment, if_neg Bool.false_ne_true]
  dsimp only
  rw [length, if_neg (by simpa using some), Cursor.skip_visible _ _ _ _ word.visible, List.take_left, gap]
  dsimp only
  rw [if_pos (by simp [shallow])]

/-- Otherwise another piece follows. -/
theorem plainPieces_more (gap : plainSpaces ⟨rest, line, column + w.length, index + w.length⟩ =
    (some more, behind, lineEnded)) (noComment : behind.ahead (· == '#') = false)
    (deep : ¬ (behind.column : Int) < indent) {fuel : Nat} {text : List Char} {after : Cursor}
    {last : Bool} (later : plainPieces false indent fuel more behind lineEnded = (text, after, last))
    (spaces : List Char) (ended : Bool) :
    plainPieces false indent (fuel + 1) spaces ⟨w ++ rest, line, column, index⟩ ended =
      (spaces ++ w ++ text, after, last) := by
  obtain ⟨length, some, noMark⟩ := @word_piece w rest line column index word stop
  rw [plainPieces, noMark, if_neg Bool.false_ne_true]
  dsimp only
  rw [length, if_neg (by simpa using some), Cursor.skip_visible _ _ _ _ word.visible, List.take_left, gap]
  dsimp only
  rw [noComment, if_neg (by simpa using deep), later]

end

/-- The word in front of a colon is read as a key. -/
theorem plainScalar_key (word : Word w) (gap : atGap rest = true) (indent : Int) :
    plainScalar false indent ⟨w ++ ':' :: rest, line, column, index⟩ =
      (w, ⟨':' :: rest, line, column + w.length, index + w.length⟩, false) := by
  have stop : plainLength false (':' :: rest) = 0 := by simp [plainLength, gap]
  have ends := @plainSpaces_blanks (':' :: rest) line (column + w.length) (index + w.length)
    (ungapped_cons.mpr (by decide)) 0
  exact plainPieces_none word stop ends _ _ _

/-- What a plain scalar may be written as and the text that it is read as. Lines behind the first one are
indented by at least `least` columns. -/
inductive Plain (least : Nat) : List Char → List Char → Prop where
  | word {w : List Char} (word : Word w) : Plain least w w
  | blanks {first w s : List Char} {count : Nat} (word : Word first) (any : 0 < count)
      (rest : Plain least w s) :
      Plain least (first ++ (List.replicate count ' ' ++ w)) (first ++ (List.replicate count ' ' ++ s))
  | folded {first w s : List Char} {depth : Nat} (word : Word first) (deep : 0 < depth)
      (inside : least ≤ depth) (rest : Plain least w s) :
      Plain least (first ++ '\n' :: (List.replicate depth ' ' ++ w)) (first ++ ' ' :: s)

/-- A plain scalar begins with the first word of its text. -/
theorem Plain.exists_word (plain : Plain least w s) : ∃ first rest later, Word first ∧ w = first ++ rest ∧
    s = first ++ later ∧ endsHere later = true := by
  cases plain with
  | word word => exact ⟨_, [], [], word, (List.append_nil _).symm, (List.append_nil _).symm, rfl⟩
  | @blanks _ _ _ count word any =>
      obtain ⟨count, rfl⟩ : ∃ n, count = n + 1 := ⟨count - 1, (Nat.sub_add_cancel any).symm⟩
      exact ⟨_, _, _, word, rfl, rfl, rfl⟩
  | folded word => exact ⟨_, _, _, word, rfl, rfl, rfl⟩

theorem Plain.begins (plain : Plain least w s) (rest : List Char) :
    Ungapped (w ++ rest) ∧ ∀ c ∈ (w ++ rest).head?, c ≠ '#' := by
  obtain ⟨first, more, _, word, rfl, _⟩ := plain.exists_word
  have each := word.each
  have noComment := word.noComment
  obtain ⟨c, tail, rfl⟩ := List.exists_cons_of_ne_nil word.any
  exact ⟨ungapped_cons.mpr (each c List.mem_cons_self), noComment⟩

/-- What a plain scalar is written as can be shown. -/
theorem Plain.legible (plain : Plain least w s) : Legible w := by
  have blanks : ∀ count, Legible (List.replicate count ' ') :=
      fun count => .of_visible (visible_blanks count)
  induction plain with
  | word word => exact .of_visible word.visible
  | @blanks _ _ _ count word _ _ ih =>
      exact .append (.of_visible word.visible) (.append (blanks count) ih)
  | @folded _ _ _ depth word _ _ _ ih =>
      exact .append (.of_visible word.visible) (.newline (.append (blanks depth) ih))

/-- A scalar is read up to a line that is not indented as deep. -/
theorem Plain.pieces (plain : Plain least w s) (resumes : Resumes rest) {depth : Nat}
    (shallow : depth < least) (inside : least ≤ column) {fuel : Nat} (enough : w.length < fuel)
    (spaces : List Char) (ended : Bool) : ∃ line' index', plainPieces false least fuel spaces
        ⟨w ++ '\n' :: (List.replicate depth ' ' ++ rest), line, column, index⟩ ended =
      (spaces ++ s, ⟨rest, line', depth, index'⟩, true) := by
  induction plain generalizing line column index fuel spaces ended with
  | @word w word =>
      obtain ⟨fuel, rfl⟩ : ∃ n, fuel = n + 1 := ⟨fuel - 1, by omega⟩
      have apart : ∀ c : Cursor, c.rest = List.replicate depth ' ' ++ rest → c.atSeparator = false := by
        cases depth with
        | zero => exact resumes.apart
        | succ depth => exact fun c here => Cursor.atSeparator_eq_false here (by decide) (by decide)
      have gap := plainSpaces_line line (column + w.length)
        (index + w.length) resumes.ungapped depth apart
      exact ⟨_, _, plainPieces_shallow word rfl gap (by simpa using shallow) _ _ _⟩
  | @blanks first w s count word any plain ih =>
      obtain ⟨fuel, rfl⟩ : ∃ n, fuel = n + 1 := ⟨fuel - 1, by omega⟩
      have stop : plainLength false (List.replicate count ' ' ++
          (w ++ '\n' :: (List.replicate depth ' ' ++ rest))) = 0 := by
        obtain ⟨count, rfl⟩ : ∃ n, count = n + 1 := ⟨count - 1, by omega⟩
        rfl
      obtain ⟨ungapped, noComment⟩ := plain.begins ('\n' :: (List.replicate depth ' ' ++ rest))
      have gap := plainSpaces_blanks line (column + first.length) (index + first.length) ungapped count
      rw [if_neg (Nat.ne_of_gt any)] at gap
      have shorter : w.length < fuel := by simp at enough; omega
      have right : least ≤ column + first.length + count := by omega
      obtain ⟨line', index', later⟩ := ih right shorter (List.replicate count ' ') false
      refine ⟨line', index', ?_⟩
      have read := plainPieces_more word stop gap (Cursor.ahead_comment rfl noComment)
        (Int.not_lt.mpr (Int.ofNat_le.mpr right)) later spaces ended
      simpa only [List.append_assoc] using read
  | @folded first w s deeper word deep within plain ih =>
      obtain ⟨fuel, rfl⟩ : ∃ n, fuel = n + 1 := ⟨fuel - 1, by omega⟩
      obtain ⟨ungapped, noComment⟩ := plain.begins ('\n' :: (List.replicate depth ' ' ++ rest))
      have apart : ∀ c : Cursor, c.rest = List.replicate deeper ' ' ++
          (w ++ '\n' :: (List.replicate depth ' ' ++ rest)) → c.atSeparator = false := by
        obtain ⟨deeper, rfl⟩ : ∃ n, deeper = n + 1 := ⟨deeper - 1, by omega⟩
        exact fun c here => Cursor.atSeparator_eq_false here (by decide) (by decide)
      have gap := plainSpaces_line line (column + first.length)
        (index + first.length) ungapped deeper apart
      have shorter : w.length < fuel := by simp at enough; omega
      obtain ⟨line', index', later⟩ := ih within shorter [' '] true
      refine ⟨line', index', ?_⟩
      have read := plainPieces_more word rfl gap (Cursor.ahead_comment rfl noComment)
        (Int.not_lt.mpr (Int.ofNat_le.mpr within)) later spaces ended
      simpa only [List.append_assoc, List.cons_append, List.nil_append] using read

/-- A plain scalar is read as its text, up to a line that is not indented as deep. -/
theorem Plain.read (plain : Plain least w s) (resumes : Resumes rest) {depth : Nat}
    (shallow : depth < least) (inside : least ≤ column) : ∃ line' index', plainScalar false least
        ⟨w ++ '\n' :: (List.replicate depth ' ' ++ rest), line, column, index⟩ =
      (s, ⟨rest, line', depth, index'⟩, true) :=
  plain.pieces resumes shallow inside (by rw [List.length_append]; omega) [] false

end

end Syscat.Yaml
