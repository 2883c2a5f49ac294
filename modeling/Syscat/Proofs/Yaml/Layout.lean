/-
Module: Syscat.Proofs.Yaml.Layout
Purpose: The tokens of a document in block style. A value ends its line, and the next line tells by
  its indentation which blocks end: so every part of a text is read up to a line that is not indented
  deeper than its block.
Main exports: Yaml.Key, Yaml.valueTokens, Yaml.itemTokens, Yaml.ValueRead, Yaml.FieldsRead,
  Yaml.scan_items
-/
import Syscat.Proofs.Number.Numeral
import Syscat.Proofs.Yaml.Tokens

namespace Syscat.Yaml

/-! ### Names -/

/-- The characters of which names of fields consist. -/
def nameLetters : List Char := "abcdefghijklmnopqrstuvwxyz_".toList

/-- A word of letters and underscores. -/
structure Lettered (s : List Char) : Prop where
  any : s ≠ []
  letters : ∀ c ∈ s, c ∈ nameLetters

/-- A name of a field: a word of letters and underscores that has no other meaning. -/
structure Key (name : List Char) : Prop extends Lettered name where
  short : name.length ≤ 1024
  style : scalarStyle name = .plain

instance (s : List Char) : Decidable (Lettered s) :=
  have := List.decidableBAll (· ∈ nameLetters) s
  decidable_of_iff (s ≠ [] ∧ ∀ c ∈ s, c ∈ nameLetters) ⟨fun h => ⟨h.1, h.2⟩, fun h => ⟨h.1, h.2⟩⟩

instance (name : List Char) : Decidable (Key name) :=
  decidable_of_iff (Lettered name ∧ name.length ≤ 1024 ∧ scalarStyle name = .plain)
    ⟨fun h => ⟨h.1, h.2.1, h.2.2⟩, fun h => ⟨h.1, h.2, h.3⟩⟩

theorem letter_plain :
    ∀ c ∈ nameLetters, (isVisible c = true ∧ isSpace c = false ∧ isIndicator c = false) ∧
      (c ≠ ':' ∧ c ≠ '-' ∧ c ≠ '.' ∧ c ≠ '?' ∧ c ≠ '#') :=
  forall_mem_of_all (by decide)

namespace Lettered

variable {s : List Char} (lettered : Lettered s)
include lettered

theorem word : Word s where
  any := lettered.any
  visible c inside := (letter_plain c (lettered.letters c inside)).1.1
  solid c inside := (isSpace_eq_false.mp (letter_plain c (lettered.letters c inside)).1.2.1).1
  noComment c front := (letter_plain c (lettered.letters c (List.mem_of_head? front))).2.2.2.2.2
  noColon last := (letter_plain ':' (lettered.letters ':' (List.mem_of_getLast? last))).2.1 rfl

theorem opens : Opens s := by
  have plain := fun c inside => letter_plain c (lettered.letters c inside)
  obtain ⟨c, rest, rfl⟩ := List.exists_cons_of_ne_nil lettered.any
  obtain ⟨⟨visible, space, noIndicator⟩, noColon, noHyphen, _, noQuestion, _⟩ :=
    plain c List.mem_cons_self
  refine ⟨c, rest, rfl, visible, (isSpace_eq_false.mp space).1, noIndicator, ?_⟩
  rintro (rfl | rfl | rfl)
  · exact absurd rfl noHyphen
  · exact absurd rfl noColon
  · exact absurd rfl noQuestion

/-- A line may begin with such a word. -/
theorem resumes (rest : List Char) : Resumes (s ++ rest) := by
  have plain := fun c inside => letter_plain c (lettered.letters c inside)
  obtain ⟨c, tail, rfl⟩ := List.exists_cons_of_ne_nil lettered.any
  obtain ⟨⟨visible, space, _⟩, _, noHyphen, noPoint, _, noComment⟩ := plain c List.mem_cons_self
  exact ⟨ungapped_cons.mpr (solid_of_isVisible visible (isSpace_eq_false.mp space).1),
    by simpa using noComment, fun cursor here => Cursor.atSeparator_eq_false here noHyphen noPoint⟩

end Lettered

/-- A text without blanks and line ends is one run. -/
theorem runs_word {s : List Char} (any : s ≠ []) (solid : ∀ c ∈ s, isSpace c = false) :
    runs s = [.word s] := by
  induction s with
  | nil => exact absurd rfl any
  | cons c s ih =>
      obtain ⟨own, later⟩ := List.forall_mem_cons.mp solid
      obtain ⟨noBlank, noBreak⟩ := isSpace_eq_false.mp own
      rw [runs, List.foldr_cons]
      change Run.cons c (runs s) = _
      cases s with
      | nil => simp [runs, Run.cons, noBlank, noBreak]
      | cons d s =>
          rw [ih (List.cons_ne_nil d s) later]
          simp [Run.cons, noBlank, noBreak]

/-- A name is written as it is. -/
theorem Key.scalarText_eq {name : List Char} (key : Key name) (place : Place) (column : Nat) :
    scalarText place column name = name := by
  have solid : ∀ c ∈ name, isSpace c = false :=
      fun c inside => (letter_plain c (key.letters c inside)).1.2.1
  rw [scalarText, key.style]
  dsimp only
  rw [runs_word key.any solid, foldRuns, foldRuns, List.flatMap_singleton', List.append_nil]

/-! ### Tokens -/

/-- The text of a truth value. -/
def flagText (b : Bool) : List Char :=
  if b then "true".toList else "false".toList

/-- The digits of an integer with its sign. -/
def integerChars (n : Int) : List Char :=
  integerSign n ++ Nat.toDigits 10 n.natAbs

mutual

/-- The tokens of a value. -/
def valueTokens : Document → List Token
  | .null | .list _ => []
  | .flag b => [.scalar true (flagText b)]
  | .integer n => [.scalar true (integerChars n)]
  | .text s => [.scalar (scalarStyle s.toList == .plain) s.toList]
  | .record fields => .blockMappingStart :: (fieldTokens fields ++ [.blockEnd])

/-- The tokens of the fields of a record. -/
def fieldTokens : List (String × Document) → List Token
  | [] => []
  | (name, d) :: rest => .key :: .scalar true name.toList :: .value :: (valueTokens d ++ fieldTokens rest)

end

/-- The tokens of a list of documents. -/
def itemTokens (items : List Document) : List Token :=
  .blockSequenceStart :: (items.flatMap (fun d => .blockEntry :: valueTokens d) ++ [.blockEnd])

open Lexer

/-! ### Parts of a text -/

/-- How a key begins: it begins a block if it is indented deeper than the open one, or it belongs to
that. -/
inductive Begins (column : Nat) : Int → List Int → List Int → List Token → Prop where
  | first {indent : Int} {outer : List Int} (deeper : indent < column) :
      Begins column indent outer (indent :: outer) [.blockMappingStart]
  | next {outer : List Int} : Begins column column outer outer []

/-- What is written of the fields of a record, whose names begin at a column, is read as certain
tokens, up to a line that is not indented as deep. -/
structure FieldsRead (column : Nat) (text : List Char) (read : List Token) : Prop where
  legible : Legible text
  resumes : ∀ rest, Resumes (text ++ rest)
  scans : ∀ {indent : Int} {outer outer' : List Int} {marks : List Token} {depth : Nat} {rest : List Char}
    {tokens all : List Token}, Begins column indent outer outer' marks → depth < column → Resumes rest →
      Scans rest depth true column outer' (read.reverse ++ (marks ++ tokens)) all →
        Scans (text ++ (List.replicate depth ' ' ++ rest)) column true indent outer tokens all

/-- What is written behind a colon is read as certain tokens, up to a line that is not indented deeper
than the record. -/
structure ValueRead (indent : Nat) (text : List Char) (read : List Token) : Prop where
  legible : Legible text
  gap : ∀ rest, atGap (text ++ rest) = true
  scans : ∀ {column : Nat} {outer : List Int} {depth : Nat} {rest : List Char} {tokens all : List Token},
    indent < column → depth ≤ indent → Resumes rest →
      Scans rest depth true indent outer (read.reverse ++ tokens) all →
        Scans (text ++ (List.replicate depth ' ' ++ rest)) column false indent outer tokens all

theorem Resumes.settled {rest : List Char} (resumes : Resumes rest) : Settled rest :=
  ⟨resumes.ungapped, resumes.noComment⟩

/-- A scalar behind a blank is read as one token. -/
theorem ValueRead.scalar {indent : Nat} {w s : List Char} {isPlain : Bool}
    (written : Written (indent + 1) w isPlain s) :
    ValueRead indent (' ' :: (w ++ ['\n'])) [.scalar isPlain s] where
  legible := .cons rfl (.append written.legible (.newline nofun))
  gap _ := rfl
  scans {column _ depth rest _ _} inside shallow resumes scans := by
    have value := Scans.scalar written resumes shallow (Nat.lt_succ_of_lt inside) scans
    have behind := Scans.blanks 1 (settled_written written _) value
    simpa using behind

/-- Fields on lines of their own are read as a mapping. -/
theorem ValueRead.record {indent : Nat} {text : List Char} {read : List Token}
    (fields : FieldsRead (indent + 2) text read) :
    ValueRead indent (nextLine (indent + 2) ++ text) (.blockMappingStart :: (read ++ [.blockEnd])) where
  legible := .append (.newline (.of_visible (visible_blanks _))) fields.legible
  gap _ := rfl
  scans {column outer depth rest tokens all} inside shallow resumes scans := by
    have ends : Scans rest depth true (indent + 2 : Nat) (indent :: outer)
        (read.reverse ++ ([.blockMappingStart] ++ tokens)) all := by
      refine .close resumes.settled (by omega) ?_
      simpa using scans
    have block := fields.scans (.first (by omega)) (by omega) resumes ends
    rw [← Nat.zero_add (indent + 2)] at block
    have line := block.blanks (indent + 2) (fields.resumes _).settled
    have below := @Scans.newline _ column false _ _ _ _ line
    simpa only [nextLine, List.cons_append, List.append_assoc] using below

section
variable {column : Nat} {name text : List Char} {read : List Token} (key : Key name)
  (value : ValueRead column text read)
  (deep : 0 < column)
include key value

theorem legible_field : Legible (name ++ ':' :: text) :=
  .append (.of_visible key.word.visible) (.cons rfl value.legible)

include deep

/-- A field is read up to a line that is not indented deeper than the record. -/
theorem scans_field {indent : Int} {outer outer' : List Int} {marks : List Token} {depth : Nat}
    {rest : List Char} {tokens all : List Token} (begins : Begins column indent outer outer' marks)
    (shallow : depth ≤ column) (resumes : Resumes rest) (scans : Scans rest depth true column outer'
      (read.reverse ++ .value :: .scalar true name :: .key :: (marks ++ tokens)) all) :
    Scans (name ++ ':' :: (text ++ (List.replicate depth ' ' ++ rest))) column true indent
      outer tokens all := by
  have behind := value.scans (show column < column + name.length + 1 by omega) shallow resumes scans
  cases begins with
  | first deeper => exact .firstKey key.word key.opens key.short (value.gap _) deep deeper behind
  | next => exact .nextKey key.word key.opens key.short (value.gap _) deep behind

/-- The last field of a record. -/
theorem FieldsRead.last :
    FieldsRead column (name ++ ':' :: text) (.key :: .scalar true name :: .value :: read) where
  legible := legible_field key value
  resumes rest := by
    rw [List.append_assoc]
    exact key.resumes _
  scans begins shallow resumes scans := by
    rw [List.append_assoc, List.cons_append]
    exact scans_field key value deep begins (Nat.le_of_lt shallow) resumes (by simpa using scans)

/-- A field in front of others. -/
theorem FieldsRead.cons {more : List Char} {later : List Token} (fields : FieldsRead column more later) :
    FieldsRead column (name ++ ':' :: text ++ List.replicate column ' ' ++ more)
      (.key :: .scalar true name :: .value :: (read ++ later)) where
  legible := .append (.append (legible_field key value)
    (.of_visible (visible_blanks column))) fields.legible
  resumes rest := by
    simp only [List.append_assoc]
    exact key.resumes _
  scans {indent outer outer' marks depth rest tokens all} begins shallow resumes scans := by
    have others := fields.scans .next shallow resumes (by simpa using scans)
    have first := scans_field key value deep begins (Nat.le_refl column) (fields.resumes _) others
    simpa only [List.append_assoc, List.cons_append] using first

end

/-! ### Items -/

/-- What is written behind the hyphen of an item is read as certain tokens, up to the next item or the
end. -/
structure ItemRead (text : List Char) (read : List Token) : Prop where
  legible : Legible text
  scans : ∀ {rest : List Char} {tokens all : List Token}, Resumes rest →
    Scans rest 0 true 0 [-1] (read.reverse ++ tokens) all →
      Scans (' ' :: (text ++ rest)) 1 true 0 [-1] tokens all

/-- Fields of which the first stands behind the hyphen are read as a mapping. -/
theorem ItemRead.record {text : List Char} {read : List Token} (fields : FieldsRead 2 text read) :
    ItemRead text (.blockMappingStart :: (read ++ [.blockEnd])) where
  legible := fields.legible
  scans {rest tokens all} resumes scans := by
    have ends : Scans rest 0 true (2 : Nat) [0, -1]
        (read.reverse ++ ([.blockMappingStart] ++ tokens)) all := by
      refine .close resumes.settled (by decide) ?_
      simpa using scans
    have block := fields.scans (.first (by decide)) (by decide) resumes ends
    exact .blanks 1 (fields.resumes _).settled block

/-- What is written of some items is read as certain tokens, up to the end of the text. -/
structure ItemsRead (text : List Char) (read : List Token) : Prop where
  legible : Legible text
  resumes : Resumes text
  scans : ∀ tokens, Scans text 0 true 0 [-1] tokens (.blockEnd :: (read.reverse ++ tokens))

theorem ItemsRead.nil : ItemsRead [] [] where
  legible := nofun
  resumes := ⟨nofun, nofun, fun c here => by rw [Cursor.atSeparator, here]⟩
  scans _ := .finish

section
variable {text more : List Char} {read later : List Token} (item : ItemRead text read)
  (items : ItemsRead more later)
include item items

theorem legible_item : Legible ('-' :: ' ' :: (text ++ more)) :=
  .cons rfl (.cons rfl (.append item.legible items.legible))

/-- An item in front of others. -/
theorem ItemsRead.cons : ItemsRead ('-' :: ' ' :: (text ++ more)) (.blockEntry :: (read ++ later)) where
  legible := legible_item item items
  resumes := ⟨(Scans.settled_hyphen _).ungapped, (Scans.settled_hyphen _).noComment,
    fun _ => atSeparator_item⟩
  scans tokens := by
    have others := items.scans (read.reverse ++ (.blockEntry :: tokens))
    have own := item.scans items.resumes others
    simpa using Scans.nextItem own

/-- The first item begins the list. -/
theorem scan_items : Token.scan ('-' :: ' ' :: (text ++ more)) =
    .ok (.blockSequenceStart :: (.blockEntry :: (read ++ later) ++ [.blockEnd])) := by
  have others := items.scans (read.reverse ++ [.blockEntry, .blockSequenceStart])
  have whole := Scans.firstItem (item.scans items.resumes others)
  have begins : (Lexer.start ('-' :: ' ' :: (text ++ more))).skipOrderMark =
      outside (Cursor.start ('-' :: ' ' :: (text ++ more))) true (-1) [] [] := rfl
  have read := whole (Cursor.start _) _ rfl rfl (Nat.lt_succ_self _)
  rw [Token.scan, begins]
  obtain ⟨s, done, tokens⟩ := exists_of_map_eq_ok read
  rw [done, ok_bind, tokens]
  simp

end

end Syscat.Yaml
