/-
Module: Syscat.Proofs.Toml.Passing
Purpose: The lines of tables are taken as they are written: headers, and entries whose values are texts in
  quotation marks or words without marks.
Main exports: Toml.Passes, Toml.lines_unlined
-/
import Syscat.Proofs.Text.Part
import Syscat.Proofs.Toml.Body

namespace Syscat.Toml

/-! ### Places in a line -/

/-- The state at the beginning of a line. -/
def atLine (before : List Char) : LineState :=
  { LineState.start with before }

/-- The state inside a line, outside of names, texts and headers. -/
def inLine (before : List Char) : LineState :=
  { LineState.start with before, lineStart := false }

/-- The state in the name of an entry. -/
def inName (before : List Char) : LineState :=
  { LineState.start with before, stage := .inside, lineStart := false }

/-- The state behind the name of an entry. -/
def behindName (before : List Char) : LineState :=
  { LineState.start with before, stage := .behind, lineStart := false }

/-- The state in a header, which `tables` says is one of a record in a list. -/
def inHeader (tables : Bool) (before : List Char) : LineState :=
  { LineState.start with before, inHeader := !tables, inTablesHeader := tables, lineStart := false }

/-- The characters of the names of fields. -/
def nameChars : List Char :=
  "abcdefghijklmnopqrstuvwxyz_".toList

/-- A character that means nothing by itself. -/
def isCommon (c : Char) : Bool :=
  !"\x27\x22#[]\n".toList.contains c

theorem isCommon_nameChars : ∀ c ∈ nameChars, isCommon c = true :=
  forall_mem_of_all (by decide)

theorem nameChars_pass : ∀ c ∈ nameChars, (c == '\n') = false ∧ isBlank c = false ∧ (c == '.') = false ∧
    (isAlphanumeric c || c == '_' || c == '-') = true :=
  forall_mem_of_all (by decide +kernel)

/-- A name of a field: letters and underscores. -/
def Bare (name : String) : Prop :=
  name.toList ≠ [] ∧ ∀ c ∈ name.toList, c ∈ nameChars

instance (name : String) : Decidable (Bare name) :=
  have := List.decidableBAll (· ∈ nameChars) name.toList
  inferInstanceAs (Decidable (_ ∧ _))

section
variable {c : Char} (before rest : List Char)

theorem passChar_common (common : isCommon c = true) :
    passChar (inLine before) c rest = .ok (inLine (c :: before)) := by
  simp only [isCommon, Bool.not_eq_true', String.reduceToList, List.contains_cons, List.contains_nil,
    Bool.or_false, Bool.or_eq_false_iff, beq_eq_false_iff_ne, ne_eq] at common
  simp [passChar, inLine, LineState.start, passMark, passBracket, passOther, LineState.pass, common]

theorem passChar_inHeader (tables : Bool) (common : isCommon c = true) :
    passChar (inHeader tables before) c rest = .ok (inHeader tables (c :: before)) := by
  simp only [isCommon, Bool.not_eq_true', String.reduceToList, List.contains_cons, List.contains_nil,
    Bool.or_false, Bool.or_eq_false_iff, beq_eq_false_iff_ne, ne_eq] at common
  simp [passChar, inHeader, LineState.start, passMark, passBracket, passOther, LineState.pass, common]

theorem passChar_openHeader (single : rest.head? ≠ some '[') :
    passChar (atLine before) '[' rest = .ok (inHeader false ('[' :: before)) := by
  simp [passChar, atLine, inHeader, LineState.start, passMark, passBracket, passOther, LineState.pass,
    single, LineState.anyHeader]

theorem passChar_beginName (letter : c ∈ nameChars) :
    passChar (atLine before) c rest = .ok (inName (c :: before)) := by
  have common := isCommon_nameChars c letter
  have noBlank : c ≠ ' ' ∧ c ≠ '\t' ∧ c ≠ '=' := by
    refine ⟨?_, ?_, ?_⟩ <;> rintro rfl <;> exact absurd letter (by decide)
  simp only [isCommon, Bool.not_eq_true', String.reduceToList, List.contains_cons, List.contains_nil,
    Bool.or_false, Bool.or_eq_false_iff, beq_eq_false_iff_ne, ne_eq] at common
  simp [passChar, atLine, inName, LineState.start, passMark, passBracket, passOther, LineState.pass,
    common, noBlank, LineState.anyHeader]

theorem passChar_inName (letter : c ∈ nameChars) :
    passChar (inName before) c rest = .ok (inName (c :: before)) := by
  obtain ⟨noBreak, noBlank, noPoint, known⟩ := nameChars_pass c letter
  simp [passChar, inName, LineState.start, passName, LineState.pass, noBreak, noBlank, noPoint, known]

theorem passChar_endName : passChar (inName before) ' ' rest = .ok (behindName (' ' :: before)) := by
  have blank : isBlank ' ' = true := by decide +kernel
  simp [passChar, inName, behindName, LineState.start, passName, LineState.pass, blank]

theorem passChar_equals : passChar (behindName before) '=' rest = .ok (inLine ('=' :: before)) := by
  have noBlank : isBlank '=' = false := by decide +kernel
  simp [passChar, behindName, inLine, LineState.start, passName, passMark, passBracket, passOther,
    LineState.pass, noBlank]

end

/-! ### Stretches of a line -/

section
variable {s : List Char} (before rest : List Char)

theorem passAll_common (common : ∀ c ∈ s, isCommon c = true) :
    passAll (inLine before) (s ++ rest) = passAll (inLine (s.reverse ++ before)) rest := by
  induction s generalizing before with
  | nil => rfl
  | cons c s ih =>
      rw [List.cons_append, passAll, passChar_common _ _ (common c List.mem_cons_self), ok_bind,
        ih _ fun d inside => common d (List.mem_cons_of_mem c inside), List.reverse_cons,
        List.append_assoc]
      rfl

theorem passAll_inHeader (tables : Bool) (common : ∀ c ∈ s, isCommon c = true) :
    passAll (inHeader tables before) (s ++ rest) =
      passAll (inHeader tables (s.reverse ++ before)) rest := by
  induction s generalizing before with
  | nil => rfl
  | cons c s ih =>
      rw [List.cons_append, passAll, passChar_inHeader _ _ _ (common c List.mem_cons_self), ok_bind,
        ih _ fun d inside => common d (List.mem_cons_of_mem c inside), List.reverse_cons,
        List.append_assoc]
      rfl

theorem passAll_inName (letters : ∀ c ∈ s, c ∈ nameChars) :
    passAll (inName before) (s ++ rest) = passAll (inName (s.reverse ++ before)) rest := by
  induction s generalizing before with
  | nil => rfl
  | cons c s ih =>
      rw [List.cons_append, passAll, passChar_inName _ _ (letters c List.mem_cons_self), ok_bind,
        ih _ fun d inside => letters d (List.mem_cons_of_mem c inside), List.reverse_cons,
        List.append_assoc]
      rfl

end

/-! ### Texts in quotation marks -/

/-- The characters in front do not end with two quotation marks. -/
def NoDoubled (before : List Char) : Prop :=
  ∀ more, before ≠ '\x22' :: '\x22' :: more

/-- No two quotation marks stand in a row inside a text. -/
theorem Body.noDoubled {s before : List Char} (body : Body s) (front : NoDoubled before) :
    NoDoubled (s.reverse ++ before) := by
  induction body generalizing before with
  | nil => exact front
  | @plain c s noMark _ _ _ ih =>
      rw [List.reverse_cons, List.append_assoc]
      exact ih fun more same => noMark (List.cons.inj same).1
  | @escape c s _ _ ih =>
      rw [List.reverse_cons, List.reverse_cons, List.append_assoc, List.append_assoc]
      exact ih fun more same => absurd (List.cons.inj (List.cons.inj same).2).1 (by decide)

/-- Behind a blank a quotation mark opens a text. -/
theorem passChar_openText {before : List Char} (long : 3 ≤ (' ' :: before).length) (rest : List Char) :
    passChar (inLine (' ' :: before)) '\x22' rest = .ok (inText ('\x22' :: ' ' :: before)) := by
  obtain ⟨b, c, more, rfl⟩ : ∃ b c more, before = b :: c :: more := by
    match before, long with
    | b :: c :: more, _ => exact ⟨b, c, more, rfl⟩
  have even : oddBackslashes (' ' :: b :: c :: more) = false := oddBackslashes_cons (by decide) _
  simp [passChar, inLine, inText, LineState.start, passMark, passDouble, LineState.lookBack, even,
    markWhen, passBracket, passOther, LineState.pass]

/-- A quotation mark that is not escaped closes a text. -/
theorem passChar_closeText {before : List Char} (long : 3 ≤ before.length)
    (even : oddBackslashes before = false) (single : NoDoubled before) (rest : List Char) :
    passChar (inText before) '\x22' rest = .ok (inLine ('\x22' :: before)) := by
  obtain ⟨a, b, c, more, rfl⟩ : ∃ a b c more, before = a :: b :: c :: more := by
    match before, long with
    | a :: b :: c :: more, _ => exact ⟨a, b, c, more, rfl⟩
  have marked : passMark (inText (a :: b :: c :: more)) '\x22' rest = inLine (a :: b :: c :: more) := by
    by_cases mark : a = '\x22'
    · have other : b ≠ '\x22' := by
        rintro rfl
        exact single (c :: more) (by rw [mark])
      simp [passMark, passDouble, LineState.lookBack, inText, inLine, LineState.start,
        mark, other, markWhen]
    · simp [passMark, passDouble, LineState.lookBack, inText, inLine, LineState.start,
        mark, even, markWhen]
  simp only [inText, inLine, LineState.start] at marked
  simp [passChar, inText, inLine, LineState.start, marked, passBracket, passOther, LineState.pass]

/-- A text in quotation marks is passed as it is. -/
theorem passAll_text {s : List Char} (body : Body s) {before : List Char} (long : 2 ≤ before.length)
    (rest : List Char) :
    passAll (inLine (' ' :: before)) ('\x22' :: (s ++ '\x22' :: rest)) =
      passAll (inLine ('\x22' :: (s.reverse ++ '\x22' :: ' ' :: before))) rest := by
  have even : oddBackslashes ('\x22' :: ' ' :: before) = false := oddBackslashes_cons (by decide) _
  have inside := @passAll_body s body ('\x22' :: ' ' :: before) (by simp; omega) even ('\x22' :: rest)
  have single : NoDoubled (s.reverse ++ '\x22' :: ' ' :: before) :=
    body.noDoubled fun more same => absurd (List.cons.inj (List.cons.inj same).2).1 (by decide)
  rw [passAll, passChar_openText (by simp; omega), ok_bind, inside.1, passAll,
    passChar_closeText (by simp; omega) inside.2 single, ok_bind]

/-! ### Lines -/

/-- A line that is taken as it is, wherever it stands behind the first characters of a text. -/
def Passes (line : List Char) : Prop :=
  ∀ before rest : List Char, 3 ≤ before.length →
    passAll (atLine before) (line ++ '\n' :: rest) =
      passAll (atLine ('\n' :: (line.reverse ++ before))) rest

theorem passes_nil : Passes [] := fun _ _ _ => rfl

/-- No line ends inside a text, in any convention. -/
def Unbroken (s : List Char) : Prop :=
  '\n' ∉ s ∧ '\r' ∉ s

instance (s : List Char) : Decidable (Unbroken s) :=
  inferInstanceAs (Decidable (_ ∧ _))

/-- Lines with a line end behind each. -/
def unlined (lines : List (List Char)) : List Char :=
  lines.flatMap fun line => line ++ ['\n']

theorem unlined_cons (line : List Char) (lines : List (List Char)) :
    unlined (line :: lines) = line ++ '\n' :: unlined lines := by
  rw [unlined, List.flatMap_cons, List.append_assoc]
  rfl

theorem unlined_append (lines more : List (List Char)) :
    unlined (lines ++ more) = unlined lines ++ unlined more :=
  List.flatMap_append

/-- Lines that are taken as they are, one after the other. -/
theorem passAll_unlined {lines : List (List Char)} (pass : ∀ line ∈ lines, Passes line)
    {before : List Char} (long : 3 ≤ before.length) :
    passAll (atLine before) (unlined lines) = .ok (atLine ((unlined lines).reverse ++ before)) := by
  induction lines generalizing before with
  | nil => rfl
  | cons line lines ih =>
      rw [unlined_cons, pass line List.mem_cons_self before _ long,
        ih (fun line inside => pass line (List.mem_cons_of_mem _ inside)) (by simp; omega),
        List.reverse_append,
        List.reverse_cons]
      simp only [List.append_assoc, List.cons_append, List.nil_append]

/-- The header of a record in the list of routines. -/
def recordsHeader : List Char :=
  "[[routines]]".toList

/-- The header of a record is taken as it is, also at the beginning of the text. -/
theorem passAll_recordsHeader (before rest : List Char) :
    passAll (atLine before) (recordsHeader ++ '\n' :: rest) =
      passAll (atLine ('\n' :: (recordsHeader.reverse ++ before))) rest := by
  have name : ∀ c ∈ "routines".toList, isCommon c = true := forall_mem_of_all (by decide)
  have opened : ∀ more, passAll (atLine before) ('[' :: '[' :: more) =
      passAll (inHeader true ('[' :: '[' :: before)) more := fun more => rfl
  have closed : ∀ more, passAll (inHeader true ('s' :: more)) (']' :: ']' :: '\n' :: rest) =
      passAll (atLine ('\n' :: ']' :: ']' :: 's' :: more)) rest := fun more => rfl
  show passAll _ ('[' :: '[' :: ("routines".toList ++ (']' :: ']' :: '\n' :: rest))) = _
  rw [opened, passAll_inHeader _ _ true name]
  exact closed _

/-- The header of a table is taken as it is. -/
theorem passes_header {first : Char} {path : List Char}
    (common : ∀ c ∈ first :: path, isCommon c = true) : Passes ('[' :: (first :: path ++ [']'])) := by
  intro before rest _
  have single : first ≠ '[' := by
    rintro rfl
    exact absurd (common '[' List.mem_cons_self) (by decide)
  have closed : ∀ more, passAll (inHeader false more) (']' :: '\n' :: rest) =
      passAll (atLine ('\n' :: ']' :: more)) rest := fun more => rfl
  rw [List.cons_append, List.append_assoc, passAll, passChar_openHeader _ _ (by simpa using single),
    ok_bind, passAll_inHeader _ _ false common, List.singleton_append, closed]
  simp

/-- An entry whose value is taken as it is is so itself. -/
theorem passes_entry {name : String} (bare : Bare name) {value : List Char}
    (passes : ∀ before rest : List Char, 2 ≤ before.length →
      passAll (inLine (' ' :: before)) (value ++ '\n' :: rest) =
        passAll (atLine ('\n' :: (value.reverse ++ ' ' :: before))) rest) :
    Passes (name.toList ++ " = ".toList ++ value) := by
  intro before rest long
  obtain ⟨filled, letters⟩ := bare
  obtain ⟨first, more, same⟩ := List.exists_cons_of_ne_nil filled
  rw [same] at letters ⊢
  have middle : ∀ front, passAll (inName front) (' ' :: '=' :: ' ' :: (value ++ '\n' :: rest)) =
      passAll (inLine (' ' :: '=' :: ' ' :: front)) (value ++ '\n' :: rest) := fun front => by
    rw [passAll, passChar_endName, ok_bind, passAll, passChar_equals, ok_bind, passAll,
      passChar_common _ _ (by decide), ok_bind]
  show passAll _ (first :: more ++ [' ', '=', ' '] ++ value ++ '\n' :: rest) = _
  rw [List.append_assoc, List.append_assoc, List.cons_append, passAll,
    passChar_beginName _ _ (letters first List.mem_cons_self), ok_bind,
    passAll_inName _ _ fun c inside => letters c (List.mem_cons_of_mem _ inside)]
  show passAll _ (' ' :: '=' :: ' ' :: (value ++ '\n' :: rest)) = _
  rw [middle, passes _ _ (by simp)]
  simp

/-- A value without marks is taken as it is. -/
theorem passAll_word {value : List Char} (common : ∀ c ∈ value, isCommon c = true)
    (before rest : List Char) : passAll (inLine before) (value ++ '\n' :: rest) =
      passAll (atLine ('\n' :: (value.reverse ++ before))) rest := by
  rw [passAll_common _ _ common]
  rfl

/-- Lines that are put together are told apart again. -/
theorem splitOn_unlined {lines : List (List Char)} (unbroken : ∀ line ∈ lines, Unbroken line) :
    splitOn '\n' (unlined lines) = lines ++ [[]] := by
  induction lines with
  | nil => rfl
  | cons line lines ih =>
      have later := ih fun line inside => unbroken line (List.mem_cons_of_mem _ inside)
      rw [unlined_cons, splitOn_append (unbroken line List.mem_cons_self).1, later]
      rfl

/-- Lines without carriage returns make up a text without them. -/
theorem not_mem_unlined {lines : List (List Char)} (unbroken : ∀ line ∈ lines, Unbroken line) :
    '\r' ∉ unlined lines := by
  intro inside
  obtain ⟨line, listed, own⟩ := List.mem_flatMap.mp inside
  exact (unbroken line listed).2 (by simpa using own)

/-- A document that begins with the header of a record is read as its lines. -/
theorem lines_unlined {more : List (List Char)} (pass : ∀ line ∈ more, Passes line)
    (unbroken : ∀ line ∈ more, Unbroken line) :
    lines (unlined (recordsHeader :: more)) = .ok (recordsHeader :: more ++ [[]]) := by
  have passed : passAll .start (unlined (recordsHeader :: more)) =
      .ok (atLine (unlined (recordsHeader :: more)).reverse) := by
    rw [unlined_cons]
    refine (passAll_recordsHeader [] _).trans ?_
    rw [passAll_unlined pass (by decide)]
    simp
  rw [lines, passed, ok_bind, if_neg (by simp [atLine, LineState.start])]
  show Except.ok (splitOn '\n' (unlined (recordsHeader :: more)).reverse.reverse) = _
  rw [List.reverse_reverse, splitOn_unlined]
  exact List.forall_mem_cons.mpr ⟨by decide, unbroken⟩

end Syscat.Toml
