/-
Module: Syscat.Proofs.Yaml.Quoted
Purpose: What may stand between quotation marks, and the text that it is read as: characters that
  stand for themselves, escapes, blanks, and lines that are folded.
Main exports: Yaml.Quoted, Yaml.Quoted.read
-/
import Syscat.Proofs.Yaml.Cursor
import Syscat.Yaml.Scalar

namespace Syscat.Yaml

/-- The mark that ends a scalar of one sort or the other. -/
def quotationMark (double : Bool) : Char :=
  if double then '\x22' else '\x27'

/-- What stands behind a backslash is read as a text, whatever follows it. -/
def Escaped (written text : List Char) : Prop :=
  ∀ (c : Cursor) (rest : List Char), c.rest = written ++ rest →
    ∃ after, escape c = .ok (text, after) ∧ after.rest = rest

/-- What may stand between quotation marks and what it is read as. Blanks and line ends are taken in
runs, so something else follows each run. -/
inductive Quoted (double : Bool) : List Char → List Char → Prop where
  | nil : Quoted double [] []
  | plain {c : Char} {w s : List Char} (visible : isVisible c = true) (noBlank : c ≠ ' ')
      (noMark : c ≠ quotationMark double) (noBackslash : double = true → c ≠ '\\')
        (rest : Quoted double w s) :
      Quoted double (c :: w) (c :: s)
  /-- A mark is written twice between single ones. -/
  | doubled {w s : List Char} (single : double = false) (rest : Quoted double w s) :
      Quoted double ('\x27' :: '\x27' :: w) ('\x27' :: s)
  | escape {written text w s : List Char} (marked : double = true)
      (visible : ∀ c ∈ written, isVisible c = true) (escaped : Escaped written text)
        (rest : Quoted double w s) :
      Quoted double ('\\' :: (written ++ w)) (text ++ s)
  /-- A backslash at the end of a line joins it with the next one. -/
  | joined {count : Nat} {w s : List Char} (marked : double = true) (deep : 0 < count)
      (ungapped : Ungapped w) (rest : Quoted double w s) :
      Quoted double ('\\' :: '\n' :: (List.replicate count ' ' ++ w)) s
  | blanks {count : Nat} {w s : List Char} (any : 0 < count) (ungapped : Ungapped w)
      (rest : Quoted double w s) :
      Quoted double (List.replicate count ' ' ++ w) (List.replicate count ' ' ++ s)
  /-- A line end counts as a blank, but of several only the first is dropped. -/
  | lines {count depth : Nat} {w s : List Char} (deep : 0 < depth) (ungapped : Ungapped w)
      (rest : Quoted double w s) :
      Quoted double ('\n' :: (List.replicate count '\n' ++ (List.replicate depth ' ' ++ w)))
        (foldedBreak ['\n'] (List.replicate count '\n') ++ s)

/-- What stands between quotation marks can be shown. -/
theorem Quoted.legible {double : Bool} {w s : List Char} (quoted : Quoted double w s) : Legible w := by
  have blanks : ∀ count, Legible (List.replicate count ' ') :=
      fun count => .of_visible (visible_blanks count)
  induction quoted with
  | nil => nofun
  | plain visible _ _ _ _ ih => exact .cons visible ih
  | doubled _ _ ih => exact .cons rfl (.cons rfl ih)
  | escape _ visible _ _ ih => exact .cons rfl (.append (.of_visible visible) ih)
  | @joined count _ _ _ _ _ _ ih => exact .cons rfl (.newline (.append (blanks count) ih))
  | @blanks count _ _ _ _ _ ih => exact .append (blanks count) ih
  | @lines count depth _ _ _ _ _ ih =>
      have newlines : Legible (List.replicate count '\n') :=
          fun c inside => .inr (List.eq_of_mem_replicate inside)
      exact .newline (.append newlines (.append (blanks depth) ih))

/-! ### Lines -/

section
variable {rest : List Char}

/-- Blanks are taken up to something else. -/
theorem exists_takeGap {count : Nat} (ungapped : Ungapped rest) {c : Cursor}
    (here : c.rest = List.replicate count ' ' ++ rest) :
    ∃ after, c.takeWhile (fun ch => ch == ' ' || ch == '\t') = (List.replicate count ' ', after) ∧
      after.rest = rest := by
  refine Cursor.exists_takeWhile here (fun d inside => ?_) fun d inside => ?_
  · rw [List.eq_of_mem_replicate inside]
    rfl
  · obtain ⟨noBlank, noTab, _⟩ := ungapped d inside
    simp [noBlank, noTab]

/-- Blanks behind line ends are passed. -/
theorem quotedBreaks_lines {count depth : Nat} (deep : 0 < depth) (ungapped : Ungapped rest) {c : Cursor}
    (here : c.rest = List.replicate count '\n' ++ (List.replicate depth ' ' ++ rest)) {fuel : Nat}
    (enough : count < fuel) :
    ∃ after, quotedBreaks fuel c = .ok (List.replicate count '\n', after) ∧ after.rest = rest := by
  induction count generalizing c fuel with
  | zero =>
      obtain ⟨fuel, rfl⟩ : ∃ n, fuel = n + 1 := ⟨fuel - 1, by omega⟩
      have apart : c.atSeparator = false := by
        obtain ⟨depth, rfl⟩ : ∃ n, depth = n + 1 := ⟨depth - 1, by omega⟩
        exact Cursor.atSeparator_eq_false here (by decide) (by decide)
      obtain ⟨after, taken, left⟩ := exists_takeGap ungapped (here.trans (List.nil_append _))
      have noBreak : after.ahead isBreak = false := Cursor.ahead_break left ungapped
      refine ⟨after, ?_, left⟩
      rw [quotedBreaks, apart, if_neg Bool.false_ne_true, Cursor.skipWhile, taken]
      dsimp only
      rw [noBreak]
      rfl
  | succ count ih =>
      obtain ⟨fuel, rfl⟩ : ∃ n, fuel = n + 1 := ⟨fuel - 1, by omega⟩
      rw [List.replicate_succ, List.cons_append] at here
      have apart : c.atSeparator = false := Cursor.atSeparator_eq_false here (by decide) (by decide)
      have stays : c.skipWhile (fun ch => ch == ' ' || ch == '\t') = c := by
        rw [Cursor.skipWhile, Cursor.takeWhile, here]
        rfl
      have next : c.next.rest = List.replicate count '\n' ++ (List.replicate depth ' ' ++ rest) := by
        rw [Cursor.rest_next, here]
        rfl
      obtain ⟨after, more, left⟩ := ih next (Nat.lt_of_succ_lt_succ enough)
      refine ⟨after, ?_, left⟩
      rw [quotedBreaks, apart, if_neg Bool.false_ne_true, stays]
      dsimp only
      rw [Cursor.ahead_eq here, Cursor.lineBreak_newline here]
      dsimp only
      rw [more]
      rfl

/-- Blanks in a line stand for themselves. -/
theorem quotedSpaces_blanks {count : Nat} (ungapped : Ungapped rest) (any : rest ≠ []) {c : Cursor}
    (here : c.rest = List.replicate count ' ' ++ rest) :
    ∃ after, quotedSpaces c = .ok (List.replicate count ' ', after) ∧ after.rest = rest := by
  obtain ⟨after, taken, left⟩ := exists_takeGap ungapped here
  obtain ⟨d, tail, rfl⟩ := List.exists_cons_of_ne_nil any
  refine ⟨after, ?_, left⟩
  rw [quotedSpaces, taken]
  dsimp only
  rw [left, Cursor.ahead_eq left, (ungapped_cons.mp ungapped).2.2]
  rfl

/-- A line end and the empty lines behind it are folded. -/
theorem quotedSpaces_lines {count depth : Nat} (deep : 0 < depth) (ungapped : Ungapped rest) {c : Cursor}
    (here : c.rest = '\n' :: (List.replicate count '\n' ++ (List.replicate depth ' ' ++ rest))) :
    ∃ after, quotedSpaces c = .ok (foldedBreak ['\n'] (List.replicate count '\n'), after) ∧
      after.rest = rest := by
  have stays : c.takeWhile (fun ch => ch == ' ' || ch == '\t') = ([], c) := by
    rw [Cursor.takeWhile, here]
    rfl
  have next : c.next.rest = List.replicate count '\n' ++ (List.replicate depth ' ' ++ rest) := by
    rw [Cursor.rest_next, here]
    rfl
  obtain ⟨after, breaks, left⟩ := @quotedBreaks_lines rest count depth deep ungapped c.next next
    (c.next.rest.length + 1) (by rw [next]; simp only [List.length_append, List.length_replicate]; omega)
  refine ⟨after, ?_, left⟩
  rw [quotedSpaces, stays]
  dsimp only
  rw [here, Cursor.ahead_eq here, Cursor.lineBreak_newline here]
  dsimp only
  rw [breaks]
  rfl

/-- A line end behind a backslash counts as nothing, nor do the blanks behind it. -/
theorem escape_newline {depth : Nat} (deep : 0 < depth) (ungapped : Ungapped rest) {c : Cursor}
    (here : c.rest = '\n' :: (List.replicate depth ' ' ++ rest)) :
    ∃ after, escape c = .ok ([], after) ∧ after.rest = rest := by
  have next : c.skipBreak.rest = List.replicate 0 '\n' ++ (List.replicate depth ' ' ++ rest) := by
    rw [Cursor.skipBreak, Cursor.lineBreak_newline here, Cursor.rest_next, here]
    rfl
  obtain ⟨after, breaks, left⟩ := @quotedBreaks_lines rest 0 depth deep ungapped c.skipBreak next
    ((List.replicate depth ' ' ++ rest).length + 1) (by omega)
  refine ⟨after, ?_, left⟩
  rw [escape, here]
  exact breaks

end

/-! ### Pieces -/

section
variable {double : Bool} {c : Cursor} {d : Char} {rest : List Char}

/-- A piece with something in front of it. -/
def inFront (front : List Char) (scanned : Scanned) : Scanned :=
  (front ++ scanned.1, scanned.2)

/-- A piece ends at a blank or a line end. -/
theorem quotedPiece_gap (here : c.rest = d :: rest) (gap : d = ' ' ∨ d = '\n') (fuel : Nat) :
    quotedPiece double (fuel + 1) c = .ok ([], c) := by
  rw [quotedPiece, here]
  rcases gap with rfl | rfl <;> rfl

/-- A piece ends at the mark, unless it is doubled. -/
theorem quotedPiece_mark (here : c.rest = quotationMark double :: rest)
    (single : ∀ d ∈ rest.head?, d ≠ '\x27') (fuel : Nat) :
    quotedPiece double (fuel + 1) c = .ok ([], c) := by
  rw [quotedPiece, here]
  cases double with
  | true => rfl
  | false =>
      have alone : (rest.head? == some '\x27') = false :=
        beq_eq_false_iff_ne.mpr fun same => single '\x27' same rfl
      simp [quotationMark, isBreak, alone]

theorem quotedPiece_plain (here : c.rest = d :: rest) (solid : Solid d)
    (noMark : d ≠ quotationMark double) (noBackslash : double = true → d ≠ '\\') (fuel : Nat) :
    quotedPiece double (fuel + 1) c = (quotedPiece double fuel c.next).map (inFront [d]) := by
  obtain ⟨noBlank, noTab, noBreak⟩ := solid
  rw [quotedPiece, here]
  cases double with
  | true =>
      have other : d ≠ '\x22' := noMark
      simp [noBlank, noTab, noBreak, other, noBackslash rfl]
      rfl
  | false =>
      have other : d ≠ '\x27' := noMark
      simp [noBlank, noTab, noBreak, other]
      rfl

theorem quotedPiece_doubled (here : c.rest = '\x27' :: '\x27' :: rest) (fuel : Nat) :
    quotedPiece false (fuel + 1) c = (quotedPiece false fuel (c.skip 2)).map (inFront ['\x27']) := by
  rw [quotedPiece, here]
  rfl

theorem quotedPiece_escape (here : c.rest = '\\' :: rest) {text : List Char} {after : Cursor}
    (read : escape c.next = .ok (text, after)) (fuel : Nat) :
    quotedPiece true (fuel + 1) c = (quotedPiece true fuel after).map (inFront text) := by
  rw [quotedPiece, here]
  dsimp only
  rw [read]
  rfl

end

/-! ### Scalars -/

/-- What is read behind a piece: nothing if the mark stands there, or else a gap and the rest. -/
def finish (double : Bool) (fuel : Nat) (piece : List Char) (c : Cursor) : Except ReadFailure Scanned :=
  if c.ahead (· == quotationMark double) then .ok (piece, c.next)
  else do
    let (spaces, c) ← quotedSpaces c
    let (more, c) ← quotedRest double fuel c
    return (piece ++ spaces ++ more, c)

theorem quotedRest_succ (double : Bool) (fuel : Nat) (c : Cursor) :
    quotedRest double (fuel + 1) c =
      quotedPiece double (c.rest.length + 1) c >>= fun scanned =>
        finish double fuel scanned.1 scanned.2 := by
  rw [quotedRest]
  rfl

/-- A longer piece is followed by the same. -/
theorem finish_append {double : Bool} {fuel : Nat} {piece s : List Char} {c after : Cursor}
    (finished : finish double fuel piece c = .ok (s, after)) (front : List Char) :
    finish double fuel (front ++ piece) c = .ok (front ++ s, after) := by
  unfold finish at finished ⊢
  split at finished
  case isTrue closed =>
    cases finished
    rw [if_pos closed]
  case isFalse closed =>
    obtain ⟨⟨spaces, c⟩, first, finished⟩ := exists_of_bind_eq_ok finished
    obtain ⟨⟨more, c⟩, later, finished⟩ := exists_of_bind_eq_ok finished
    cases finished
    rw [if_neg closed, first, ok_bind]
    dsimp only
    rw [later, ok_bind]
    simp only [List.append_assoc]
    rfl

/-- From a place on a text is read up to the mark and what stands behind it, whatever fuel there is
for the characters of the first piece. -/
def Finishes (double : Bool) (fuel : Nat) (c : Cursor) (s rest : List Char) : Prop :=
  ∀ pieceFuel, c.rest.length < pieceFuel → ∃ piece between after,
    quotedPiece double pieceFuel c = .ok (piece, between) ∧
      finish double fuel piece between = .ok (s, after) ∧ after.rest = rest

namespace Finishes

variable {double : Bool} {fuel : Nat} {c next : Cursor} {s rest : List Char}

/-- The rest of a scalar, of which a piece is read first. -/
theorem quotedRest (finishes : Finishes double fuel c s rest) :
    ∃ after, quotedRest double (fuel + 1) c = .ok (s, after) ∧ after.rest = rest := by
  obtain ⟨piece, between, after, first, later, left⟩ := finishes _ (Nat.lt_succ_self _)
  refine ⟨after, ?_, left⟩
  rw [quotedRest_succ, first, ok_bind]
  exact later

/-- A piece ends where the mark stands. -/
theorem mark (here : c.rest = quotationMark double :: rest) (single : ∀ d ∈ rest.head?, d ≠ '\x27') :
    Finishes double fuel c [] rest := by
  intro pieceFuel long
  obtain ⟨pieceFuel, rfl⟩ : ∃ n, pieceFuel = n + 1 := ⟨pieceFuel - 1, by omega⟩
  refine ⟨[], c, c.next, quotedPiece_mark here single pieceFuel, ?_, by rw [Cursor.rest_next, here]; rfl⟩
  rw [finish, Cursor.ahead_eq here, if_pos (beq_self_eq_true _)]

/-- A piece goes on behind its first characters. -/
theorem front {text : List Char} (finishes : Finishes double fuel next s rest)
    (shorter : next.rest.length < c.rest.length)
    (step : ∀ pieceFuel, quotedPiece double (pieceFuel + 1) c =
      (quotedPiece double pieceFuel next).map (inFront text)) :
    Finishes double fuel c (text ++ s) rest := by
  intro pieceFuel long
  obtain ⟨pieceFuel, rfl⟩ : ∃ n, pieceFuel = n + 1 := ⟨pieceFuel - 1, by omega⟩
  obtain ⟨piece, between, after, first, later, left⟩ := finishes pieceFuel (by omega)
  refine ⟨text ++ piece, between, after, ?_, finish_append later text, left⟩
  rw [step, first]
  rfl

/-- Behind a gap the rest is read as a scalar of its own. -/
theorem gap {d : Char} {tail : List Char} (here : c.rest = d :: tail) (isGap : d = ' ' ∨ d = '\n')
    {spaces : List Char} (passed : quotedSpaces c = .ok (spaces, next))
    (finishes : Finishes double fuel next s rest) : Finishes double (fuel + 1) c (spaces ++ s) rest := by
  intro pieceFuel long
  obtain ⟨pieceFuel, rfl⟩ : ∃ n, pieceFuel = n + 1 := ⟨pieceFuel - 1, by omega⟩
  obtain ⟨after, read, left⟩ := finishes.quotedRest
  have noMark : c.ahead (· == quotationMark double) = false := by
    rw [Cursor.ahead_eq here]
    rcases isGap with rfl | rfl <;> cases double <;> rfl
  refine ⟨[], c, after, quotedPiece_gap here isGap pieceFuel, ?_, left⟩
  rw [finish, noMark, if_neg Bool.false_ne_true, passed, ok_bind]
  dsimp only
  rw [read]
  rfl

end Finishes

section
variable {double : Bool} {w s rest : List Char}

theorem solid_quotationMark (double : Bool) : Solid (quotationMark double) := by
  cases double <;> decide

/-- What stands up to the mark is read as its text. -/
theorem Quoted.finishes (quoted : Quoted double w s) (single : ∀ d ∈ rest.head?, d ≠ '\x27') {c : Cursor}
    (here : c.rest = w ++ quotationMark double :: rest) {fuel : Nat} (enough : w.length ≤ fuel) :
    Finishes double fuel c s rest := by
  induction quoted generalizing c fuel with
  | nil => exact .mark here single
  | @plain d w s visible noBlank noMark noBackslash _ ih =>
      have next : c.next.rest = w ++ quotationMark double :: rest := by rw [Cursor.rest_next, here]; rfl
      have later : Finishes double fuel c.next s rest := ih next (Nat.le_of_succ_le enough)
      exact later.front (by rw [next, here]; simp) fun pieceFuel =>
        quotedPiece_plain here (solid_of_isVisible visible noBlank) noMark noBackslash pieceFuel
  | @doubled w s isSingle _ ih =>
      subst isSingle
      have next : (c.skip 2).rest = w ++
          quotationMark false :: rest := by rw [Cursor.rest_skip, here]; rfl
      have later : Finishes false fuel (c.skip 2) s rest := ih next (by simp at enough; omega)
      exact later.front (by rw [next, here]; simp only [List.cons_append, List.length_cons]; omega)
        fun pieceFuel => quotedPiece_doubled here pieceFuel
  | @escape written text w s isDouble _ escaped _ ih =>
      subst isDouble
      have next : c.next.rest = written ++ (w ++ quotationMark true :: rest) := by
        rw [Cursor.rest_next, here, List.cons_append, List.append_assoc]
        rfl
      obtain ⟨after, read, left⟩ := escaped c.next _ next
      have later : Finishes true fuel after s rest := ih left (by simp at enough; omega)
      exact later.front (by rw [left, here]; simp only [List.length_append, List.length_cons]; omega)
        fun pieceFuel => quotedPiece_escape here read pieceFuel
  | @joined count w s isDouble deep ungapped _ ih =>
      subst isDouble
      have next : c.next.rest = '\n' :: (List.replicate count ' ' ++
          (w ++ quotationMark true :: rest)) := by
        rw [Cursor.rest_next, here]
        simp
      obtain ⟨after, read, left⟩ := escape_newline deep
        (ungapped.concat (solid_quotationMark true) rest) next
      have later : Finishes true fuel after s rest := ih left (by simp at enough; omega)
      exact later.front (by rw [left, here]; simp only [List.length_append, List.length_cons]; omega)
        fun pieceFuel => quotedPiece_escape here read pieceFuel
  | @blanks count w s any ungapped _ ih =>
      obtain ⟨count, rfl⟩ : ∃ n, count = n + 1 := ⟨count - 1, by omega⟩
      obtain ⟨fuel, rfl⟩ : ∃ n, fuel = n + 1 := ⟨fuel - 1, by simp at enough; omega⟩
      rw [List.append_assoc] at here
      obtain ⟨after, passed, left⟩ :=
        quotedSpaces_blanks (ungapped.concat (solid_quotationMark double) rest) (by simp) here
      exact .gap here (.inl rfl) passed (ih left (by simp at enough; omega))
  | @lines count depth w s deep ungapped _ ih =>
      obtain ⟨fuel, rfl⟩ : ∃ n, fuel = n + 1 := ⟨fuel - 1, by simp at enough; omega⟩
      simp only [List.cons_append, List.append_assoc] at here
      obtain ⟨after, passed, left⟩ :=
        quotedSpaces_lines deep (ungapped.concat (solid_quotationMark double) rest) here
      exact .gap here (.inr rfl) passed (ih left (by simp at enough; omega))

/-- A scalar in quotation marks is read as its text. -/
theorem Quoted.read (quoted : Quoted double w s) (single : ∀ d ∈ rest.head?, d ≠ '\x27') {c : Cursor}
    (here : c.rest = quotationMark double :: (w ++ quotationMark double :: rest)) :
    ∃ after, quotedScalar double c = .ok (s, after) ∧ after.rest = rest := by
  have next : c.next.rest = w ++ quotationMark double :: rest := by rw [Cursor.rest_next, here]; rfl
  have finishes : Finishes double c.rest.length c.next s rest :=
    quoted.finishes single next (by rw [here]; simp; omega)
  exact finishes.quotedRest

end

end Syscat.Yaml
