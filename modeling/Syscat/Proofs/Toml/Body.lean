/-
Module: Syscat.Proofs.Toml.Body
Purpose: What stands between the quotation marks of a text, as plain characters and escapes of two
  characters. It runs through the reading of lines unchanged, and the marks inside it are all escaped.
Main exports: Toml.Body, Toml.body_flatMap, Toml.passAll_body, Toml.checkClosed_body,
  Toml.checkEscapes_body
-/
import Syscat.Proofs.Toml.Quoting
import Syscat.Toml.Text

namespace Syscat.Toml

/-- What may stand between the quotation marks of a text: characters that stand for themselves, and
pairs of a backslash and a character that means something behind it. -/
inductive Body : List Char → Prop where
  | nil : Body []
  | plain {c : Char} {s : List Char} (noMark : c ≠ '\x22') (noBackslash : c ≠ '\\')
      (noBreak : c ≠ '\n' ∧ c ≠ '\r') (rest : Body s) : Body (c :: s)
  | escape {c : Char} {s : List Char} (known : (letterEscape? c).isSome ∨ c = '\\' ∨ c = 'u' ∨ c = 'U')
      (rest : Body s) : Body ('\\' :: c :: s)

theorem Body.append {s t : List Char} (first : Body s) (second : Body t) : Body (s ++ t) := by
  induction first with
  | nil => exact second
  | plain noMark noBackslash noBreak _ ih => exact .plain noMark noBackslash noBreak ih
  | escape known _ ih => exact .escape known ih

theorem plain_hexDigit : ∀ d < 16, hexDigit d ≠ '\x22' ∧ hexDigit d ≠ '\\' ∧ hexDigit d ≠ '\n' ∧
    hexDigit d ≠ '\r' := by
  decide

theorem body_of_plain {s : List Char}
    (plain : ∀ c ∈ s, c ≠ '\x22' ∧ c ≠ '\\' ∧ c ≠ '\n' ∧ c ≠ '\r') : Body s := by
  induction s with
  | nil => exact .nil
  | cons c s ih =>
      obtain ⟨noMark, noBackslash, noBreak⟩ := plain c List.mem_cons_self
      exact .plain noMark noBackslash noBreak (ih fun d inside => plain d (List.mem_cons_of_mem c inside))

/-- A text that needs no two-digit escapes makes up such a stretch. -/
theorem body_quotedChar {c : Char}
    (shown : c.toNat < 0x100 → isPrintable c = true ∨ c = '\n' ∨ c = '\r' ∨ c = '\t') :
    Body (quotedChar '\x22' c) := by
  have image := image_quotedChar '\x22' c
  generalize quotedChar '\x22' c = w at image ⊢
  cases image with
  | marked special => rcases special with rfl | rfl <;> exact .escape (by decide) .nil
  | letter l _ known =>
      rcases known with ⟨rfl, _⟩ | ⟨rfl, _⟩ | ⟨rfl, _⟩ <;> exact .escape (by decide) .nil
  | plain unmarked noBackslash _ noBreak =>
      exact .plain unmarked noBackslash ⟨noBreak.1, noBreak.2.1⟩ .nil
  | spelled letter width _ unprintable noBreak spells =>
      have digits : Body (hexText width c.toNat) := body_of_plain fun d inside => by
        obtain ⟨k, small, rfl⟩ := mem_hexText inside
        exact plain_hexDigit k small
      cases spells with
      | two small => exact absurd (shown small) (by simp [unprintable, noBreak])
      | four => exact .escape (by decide) digits
      | eight => exact .escape (by decide) digits

theorem body_flatMap {s : List Char}
    (shown : ∀ c ∈ s, c.toNat < 0x100 → isPrintable c = true ∨ c = '\n' ∨ c = '\r' ∨ c = '\t') :
    Body (s.flatMap (quotedChar '\x22')) := by
  induction s with
  | nil => exact .nil
  | cons c s ih =>
      exact (body_quotedChar (shown c List.mem_cons_self)).append
        (ih fun d inside => shown d (List.mem_cons_of_mem c inside))

/-- No line breaks off inside a text. -/
theorem Body.noBreak {s : List Char} (body : Body s) : '\n' ∉ s ∧ '\r' ∉ s := by
  induction body with
  | nil => simp
  | plain _ _ noBreak _ ih => simp [Ne.symm noBreak.1, Ne.symm noBreak.2, ih]
  | @escape c s known _ ih =>
      have noBreak : c ≠ '\n' ∧ c ≠ '\r' := by
        constructor <;> rintro rfl <;> exact absurd known (by decide)
      simp [Ne.symm noBreak.1, Ne.symm noBreak.2, ih]

/-! ### Backslashes in a row -/

/-- A backslash in front turns an even number of them into an odd one. -/
theorem oddBackslashes_cons_backslash (s : List Char) :
    oddBackslashes ('\\' :: s) = !oddBackslashes s := by
  rw [oddBackslashes, oddBackslashes, List.takeWhile_cons, if_pos (by decide), List.length_cons]
  have parity := Nat.mod_two_eq_zero_or_one (s.takeWhile (· == '\\')).length
  rcases parity with even | odd
  · simp [Nat.add_mod, even]
  · simp [Nat.add_mod, odd]

theorem oddBackslashes_cons {c : Char} (other : c ≠ '\\') (s : List Char) :
    oddBackslashes (c :: s) = false := by
  rw [oddBackslashes, List.takeWhile_cons, if_neg (by simpa using other)]
  rfl

/-- So their number stays even behind an escape, whatever is escaped. -/
theorem oddBackslashes_escape {s : List Char} (even : oddBackslashes s = false) (c : Char) :
    oddBackslashes (c :: '\\' :: s) = false := by
  by_cases backslash : c = '\\'
  · rw [backslash, oddBackslashes_cons_backslash, oddBackslashes_cons_backslash, even]
    rfl
  · exact oddBackslashes_cons backslash _

/-! ### Reading of lines -/

/-- The state inside a text in double quotation marks. -/
def inText (before : List Char) : LineState :=
  { LineState.start with before, mark := some '\x22', lineStart := false }

/-- Inside a text every character but a double quotation mark and a line end is passed. -/
theorem passChar_inText {c : Char} (noMark : c ≠ '\x22') (noBreak : c ≠ '\n') (before rest : List Char) :
    passChar (inText before) c rest = .ok (inText (c :: before)) := by
  simp [passChar, inText, LineState.start, passMark, passBracket, passOther,
    LineState.pass, noMark, noBreak]

/-- A double quotation mark behind an odd number of backslashes is passed as well. -/
theorem passChar_inText_escaped {before : List Char} (long : 3 ≤ before.length)
    (odd : oddBackslashes before = true) (rest : List Char) :
    passChar (inText before) '\x22' rest = .ok (inText ('\x22' :: before)) := by
  obtain ⟨a, b, c, more, rfl⟩ : ∃ a b c more, before = a :: b :: c :: more := by
    match before, long with
    | a :: b :: c :: more, _ => exact ⟨a, b, c, more, rfl⟩
  have backslash : a = '\\' := Decidable.byContradiction fun other => by
    rw [oddBackslashes_cons other] at odd
    cases odd
  subst backslash
  have marked : passMark (inText ('\\' :: b :: c :: more)) '\x22' rest =
      inText ('\\' :: b :: c :: more) := by
    simp [passMark, passDouble, LineState.lookBack, inText, odd, markWhen]
  simp only [inText, LineState.start] at marked
  simp [passChar, inText, LineState.start, marked, passBracket, passOther, LineState.pass]

/-- What stands inside a text is passed as it is. -/
theorem passAll_body {s : List Char} (body : Body s) {before : List Char} (long : 3 ≤ before.length)
    (even : oddBackslashes before = false) (rest : List Char) :
    passAll (inText before) (s ++ rest) = passAll (inText (s.reverse ++ before)) rest ∧
      oddBackslashes (s.reverse ++ before) = false := by
  induction body generalizing before with
  | nil => exact ⟨rfl, even⟩
  | @plain c s noMark noBackslash noBreak _ ih =>
      have later := @ih (c :: before) (Nat.le_succ_of_le long) (oddBackslashes_cons noBackslash before)
      rw [List.cons_append, passAll, passChar_inText noMark noBreak.1, ok_bind, later.1,
        List.reverse_cons, List.append_assoc]
      exact ⟨rfl, later.2⟩
  | @escape c s known _ ih =>
      have odd : oddBackslashes ('\\' :: before) = true := by
        rw [oddBackslashes_cons_backslash, even]
        rfl
      have noBreak : c ≠ '\n' := by
        rintro rfl
        exact absurd known (by decide)
      have passed : passChar (inText ('\\' :: before)) c (s ++ rest) =
          .ok (inText (c :: '\\' :: before)) := by
        by_cases mark : c = '\x22'
        · rw [mark]
          exact @passChar_inText_escaped ('\\' :: before) (Nat.le_succ_of_le long) odd _
        · exact passChar_inText mark noBreak _ _
      have later := @ih (c :: '\\' :: before) (by simp; omega) (oddBackslashes_escape even c)
      rw [List.cons_append, List.cons_append, passAll, passChar_inText (by decide) (by decide), ok_bind,
        passAll, passed, ok_bind, later.1]
      simp only [List.reverse_cons, List.append_assoc, List.cons_append, List.nil_append]
      exact ⟨trivial, later.2⟩

/-! ### Reading of a text -/

/-- The mark that closes a text is the only one in it that is not escaped. -/
theorem checkClosed_body {s : List Char} (body : Body s) : ∃ part parts,
    splitOn '\x22' (s ++ ['\x22']) = part :: parts ∧ (s ≠ [] → part ≠ []) ∧
      ∀ front : List Char, oddBackslashes front.reverse = false →
        checkClosed false 0 false ((front ++ part) :: parts) = .ok () := by
  induction body with
  | nil =>
      refine ⟨[], [[]], rfl, fun filled => absurd rfl filled, fun front even => ?_⟩
      rw [List.append_nil, checkClosed]
      cases front with
      | nil => rfl
      | cons c front =>
          rw [if_neg (by simp), endsOpen, even]
          rfl
  | @plain c s noMark noBackslash _ _ ih =>
      obtain ⟨part, parts, split, _, closed⟩ := ih
      refine ⟨c :: part, parts, ?_, fun _ => List.cons_ne_nil _ _, fun front _ => ?_⟩
      · rw [List.cons_append, splitOn, if_neg (by simpa using noMark), split]
      · have even : oddBackslashes (front ++ [c]).reverse = false := by
          rw [List.reverse_concat]
          exact oddBackslashes_cons noBackslash _
        have := closed (front ++ [c]) even
        rwa [List.append_assoc] at this
  | @escape c s known _ ih =>
      obtain ⟨part, parts, split, _, closed⟩ := ih
      by_cases mark : c = '\x22'
      · refine ⟨['\\'], part :: parts, ?_, fun _ => List.cons_ne_nil _ _, fun front even => ?_⟩
        · rw [mark, List.cons_append, List.cons_append, splitOn, if_neg (by decide), splitOn,
            if_pos (by decide), split]
        · have odd : oddBackslashes (front ++ ['\\']).reverse = true := by
            rw [List.reverse_concat, oddBackslashes_cons_backslash, even]
            rfl
          rw [checkClosed, if_neg (by simp), endsOpen, odd]
          exact closed [] rfl
      · refine ⟨'\\' :: c :: part, parts, ?_, fun _ => List.cons_ne_nil _ _, fun front even => ?_⟩
        · rw [List.cons_append, List.cons_append, splitOn, if_neg (by decide), splitOn,
            if_neg (by simpa using mark), split]
        · have next : oddBackslashes (front ++ ['\\', c]).reverse = false := by
            have shape : (front ++ ['\\', c]).reverse = c :: '\\' :: front.reverse := by simp
            rw [shape]
            exact oddBackslashes_escape even c
          have := closed (front ++ ['\\', c]) next
          rwa [List.append_assoc] at this

/-- Every backslash in a text stands in front of a character that means something behind it. -/
theorem checkEscapes_body {s : List Char} (body : Body s) (c : Char) (other : c ≠ '\\') : ∃ part parts,
    splitOn '\\' (s ++ [c]) = part :: parts ∧ checkEscapes false parts = .ok () := by
  induction body with
  | nil =>
      refine ⟨[c], [], ?_, rfl⟩
      rw [List.nil_append, splitOn, if_neg (by simpa using other)]
      rfl
  | @plain d s _ noBackslash _ _ ih =>
      obtain ⟨part, parts, split, checked⟩ := ih
      refine ⟨d :: part, parts, ?_, checked⟩
      rw [List.cons_append, splitOn, if_neg (by simpa using noBackslash), split]
  | @escape e s known _ ih =>
      obtain ⟨part, parts, split, checked⟩ := ih
      by_cases backslash : e = '\\'
      · refine ⟨[], [] :: part :: parts, ?_, ?_⟩
        · rw [backslash, List.cons_append, List.cons_append, splitOn, if_pos (by decide), splitOn,
            if_pos (by decide), split]
        · rw [checkEscapes, checkEscapes.eq_def]
          cases part with
          | nil => exact checked
          | cons d part => simpa using checked
      · refine ⟨[], (e :: part) :: parts, ?_, ?_⟩
        · rw [List.cons_append, List.cons_append, splitOn, if_pos (by decide), splitOn,
            if_neg (by simpa using backslash), split]
        · have fits : ((letterEscape? e).isSome || e == 'u' || e == 'U' || false) = true := by
            simpa [backslash, or_assoc] using known
          rw [checkEscapes, if_pos fits, checked]

end Syscat.Toml
