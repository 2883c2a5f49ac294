/-
Module: Syscat.Proofs.Json.Tree
Purpose: Trees of records in JSON are read back as the values that they stand for. A part is read alike
  whatever stands behind it, as long as that goes on with no number.
Main exports: Json.readValue_render, Json.readItems_renderItems, Json.read_write_list
-/
import Syscat.Proofs.Document.Tree
import Syscat.Proofs.Json.Text
import Syscat.Proofs.Number.Numeral
import Syscat.Proofs.Results
import Syscat.Proofs.Spelling
import Syscat.Proofs.Text.Span

namespace Syscat.Json

open Document

/-! ### Blanks -/

theorem skipGap_lineStart (depth : Nat) (s : List Char) : skipGap (lineStart depth ++ s) = skipGap s := by
  refine List.dropWhile_append_of_pos fun c inside => ?_
  rcases List.mem_cons.mp inside with rfl | blank
  · rfl
  · rw [List.eq_of_mem_replicate blank]; rfl

theorem skipGap_cons {c : Char} (solid : isGap c = false) (s : List Char) :
    skipGap (c :: s) = c :: s := by
  rw [skipGap, List.dropWhile_cons, solid]
  rfl

/-! ### Numbers -/

/-- What may stand behind a value: nothing, a comma or a line end. -/
def Closes (rest : List Char) : Prop :=
  ∀ c ∈ rest.head?, c = ',' ∨ c = '\n'

theorem Closes.nil : Closes [] := nofun

theorem Closes.comma (s : List Char) : Closes (',' :: s) := by
  rintro c ⟨⟩
  exact .inl rfl

theorem Closes.lineStart (depth : Nat) (s : List Char) : Closes (lineStart depth ++ s) := by
  rintro c ⟨⟩
  exact .inr rfl

variable {rest : List Char}

theorem Closes.splitDigits (closes : Closes rest) {digits : List Char}
    (all : ∀ c ∈ digits, c.isDigit = true) : splitDigits (digits ++ rest) = (digits, rest) := by
  have stop : ∀ c ∈ rest.head?, c.isDigit = false := by
    intro c first
    rcases closes c first with rfl | rfl
    · rfl
    · rfl
  rw [Json.splitDigits, takeWhile_run all stop, dropWhile_run all stop]

theorem Closes.fractionPart (closes : Closes rest) : fractionPart rest = ([], rest) := by
  cases rest with
  | nil => rfl
  | cons c s =>
      rcases closes c rfl with rfl | rfl
      · rfl
      · rfl

theorem Closes.exponentPart (closes : Closes rest) : exponentPart rest = ([], rest) := by
  cases rest with
  | nil => rfl
  | cons c s =>
      rcases closes c rfl with rfl | rfl
      · rfl
      · rfl

/-- The digits of a number are its whole part. -/
theorem wholePart?_toDigits (closes : Closes rest) (n : Nat) :
    wholePart? (Nat.toDigits 10 n ++ rest) = some (Nat.toDigits 10 n, rest) := by
  cases n with
  | zero => rfl
  | succ n =>
      obtain ⟨c, tail, digits, nonzero⟩ := toDigits_eq_cons (Nat.succ_pos n)
      have split := closes.splitDigits fun c inside => isDigit_of_mem_digits (n := n + 1) inside
      rw [digits] at split ⊢
      rw [List.cons_append] at split ⊢
      rw [wholePart?.eq_2 _ (fun _ same => nonzero (List.cons.inj same).1), split]

/-- A number is read from its digits. -/
theorem readMagnitude_toDigits (closes : Closes rest) {n : Nat} (short : n < Nat.pow 10 digitLimit)
    (negative : Bool) : readMagnitude negative (Nat.toDigits 10 n ++ rest) =
      .ok (.integer (if negative then -(n : Int) else n), rest) := by
  have number := Numeral.readNat_toDigits short
  rw [readMagnitude, wholePart?_toDigits closes]
  simp only [closes.fractionPart, closes.exponentPart, List.isEmpty_nil, Bool.and_self, if_true, number]

/-- What begins with a digit begins with no word. -/
theorem readSimple_digit {c : Char} (digit : c.isDigit = true) (s : List Char) :
    readSimple (c :: s) = readMagnitude false (c :: s) := by
  have apart := fun d noDigit => (ne_of_isDigit digit d noDigit).symm
  have noWord : ∀ entry ∈ words, behind? entry.1 (c :: s) = none := by
    simp [words, behind?, apart 'n' rfl, apart 't' rfl, apart 'f' rfl, apart 'N' rfl, apart 'I' rfl,
      apart '-' rfl]
  rw [readSimple, List.findSome?_eq_none_iff.mpr fun entry inside =>
    congrArg (Option.map _) (noWord entry inside)]
  rintro _ ⟨⟩
  exact apart '-' rfl rfl

/-- What begins with a sign and a digit begins with no word. -/
theorem readSimple_minus {c : Char} (digit : c.isDigit = true) (s : List Char) :
    readSimple ('-' :: c :: s) = readMagnitude true (c :: s) := by
  have apart : 'I' ≠ c := (ne_of_isDigit digit 'I' rfl).symm
  have noWord : ∀ entry ∈ words, behind? entry.1 ('-' :: c :: s) = none := by
    simp [words, behind?, apart]
  rw [readSimple, List.findSome?_eq_none_iff.mpr fun entry inside =>
    congrArg (Option.map _) (noWord entry inside)]

/-- An integer is read from its sign and its digits. -/
theorem readSimple_integer (closes : Closes rest) {n : Int} (short : n.natAbs < Nat.pow 10 digitLimit) :
    readSimple (integerSign n ++ Nat.toDigits 10 n.natAbs ++ rest) = .ok (.integer n, rest) := by
  obtain ⟨c, tail, digits⟩ := List.exists_cons_of_ne_nil (Nat.toDigits_ne_nil (b := 10) (n := n.natAbs))
  have digit : c.isDigit = true := isDigit_of_mem_digits (n := n.natAbs) (digits ▸ List.mem_cons_self)
  have number := readMagnitude_toDigits closes short
  clear short
  rw [digits] at number ⊢
  rw [integerSign]
  by_cases negative : n < 0
  · have value : -((n.natAbs : Nat) : Int) = n := by omega
    have read := number true
    rw [if_pos rfl, value] at read
    rw [if_pos negative]
    exact (readSimple_minus digit _).trans read
  · have value : ((n.natAbs : Nat) : Int) = n := by omega
    have read := number false
    rw [if_neg Bool.false_ne_true, value] at read
    rw [if_neg negative]
    exact (readSimple_digit digit _).trans read

/-! ### Parts in brackets -/

/-- The parts behind an opening bracket and the first line end, the closing bracket and what follows. -/
def chained (depth : Nat) (closing : Char) (rest : List Char) : List (List Char) → List Char
  | [] => closing :: rest
  | [part] => part ++ (lineStart depth ++ closing :: rest)
  | part :: next :: parts =>
      part ++ (',' :: (lineStart (depth + 1) ++ chained depth closing rest (next :: parts)))

theorem bracketed_append (opening closing : Char) (depth : Nat) (part : List Char)
    (parts : List (List Char)) (rest : List Char) :
    bracketed opening closing depth (part :: parts) ++ rest =
      opening :: (lineStart (depth + 1) ++ chained depth closing rest (part :: parts)) := by
  have lines : ∀ part, [','].intercalate ((part :: parts).map fun part => lineStart (depth + 1) ++ part)
      ++ lineStart depth ++ [closing] ++ rest =
        lineStart (depth + 1) ++ chained depth closing rest (part :: parts) := by
    induction parts with
    | nil => intro part; simp [chained, List.intercalate]
    | cons next parts ih =>
        intro part
        have later := ih next
        rw [List.map_cons] at later
        rw [List.map_cons, List.map_cons, List.intercalate_cons_cons, chained, ← later]
        simp only [List.append_assoc, List.cons_append, List.nil_append]
  exact congrArg (opening :: ·) (lines part)

section
variable {part tail : List Char} {c : Char}

/-- The first of some parts begins right behind the blanks of its line. -/
theorem skipGap_chained (front : part = c :: tail) (solid : isGap c = false) (depth : Nat)
    (closing : Char) (parts : List (List Char)) (rest : List Char) :
    skipGap (lineStart (depth + 1) ++ chained depth closing rest (part :: parts)) =
      chained depth closing rest (part :: parts) := by
  rw [skipGap_lineStart, front]
  cases parts with
  | nil => exact skipGap_cons solid _
  | cons next parts => exact skipGap_cons solid _

/-- No bracket closes in front of the first of some parts. -/
theorem chained_ne_cons (front : part = c :: tail) {d : Char} (apart : c ≠ d) (depth : Nat)
    (closing : Char) (parts : List (List Char)) (rest s : List Char) :
    chained depth closing rest (part :: parts) ≠ d :: s := by
  rw [front]
  cases parts with
  | nil => exact fun same => apart (List.cons.inj same).1
  | cons next parts => exact fun same => apart (List.cons.inj same).1

end

/-- Behind the last part the line ends and the bracket closes. -/
theorem skipGap_closing (depth : Nat) {closing : Char} (solid : isGap closing = false)
    (rest : List Char) : skipGap (lineStart depth ++ closing :: rest) = closing :: rest := by
  rw [skipGap_lineStart]
  exact skipGap_cons solid rest

/-! ### Values -/

section
variable {depth fuel : Nat} {part : List Char}

/-- A text in quotation marks is read back. -/
theorem readText_quote (s rest : List Char) :
    readText ((s.flatMap quotedChar ++ '\x22' :: rest).length + 1)
      (s.flatMap quotedChar ++ '\x22' :: rest) =
      .ok (s, rest) := by
  have short := length_le_quoted s
  exact readText_quoted s rest (by rw [List.length_append]; omega)

theorem quote_append (s rest : List Char) :
    quote s ++ rest = '\x22' :: (s.flatMap quotedChar ++ '\x22' :: rest) := by
  simp [quote]

/-- A value that begins with neither a bracket nor a quotation mark is a simple one. -/
theorem readValue_simple {c : Char} (noList : c ≠ '[') (noRecord : c ≠ '\x7b') (noText : c ≠ '\x22')
    (fuel : Nat) (rest : List Char) : readValue (fuel + 1) (c :: rest) = readSimple (c :: rest) := by
  rw [readValue.eq_3 _ _ _ noList, if_neg (by simpa using noRecord), if_neg (by simpa using noText)]

/-- The first character of an integer. -/
theorem integer_eq_cons (n : Int) : ∃ c tail,
    integerSign n ++ Nat.toDigits 10 n.natAbs = c :: tail ∧ (c = '-' ∨ c.isDigit = true) := by
  rw [integerSign]
  split
  case isTrue => exact ⟨'-', _, rfl, .inl rfl⟩
  case isFalse =>
    obtain ⟨c, tail, digits⟩ := List.exists_cons_of_ne_nil (Nat.toDigits_ne_nil (b := 10) (n := n.natAbs))
    exact ⟨c, tail, digits, .inr (isDigit_of_mem_digits (n := n.natAbs) (digits ▸ List.mem_cons_self))⟩

/-- A tree that is written begins with a character that no gap and no end of a list begins with. -/
theorem render_eq_cons {d : Document} {sort : List (String × Document) → Prop} (tree : d.Tree sort)
    (written : render depth d = .ok part) :
    ∃ c tail, part = c :: tail ∧ isGap c = false ∧ c ≠ ']' := by
  cases d with
  | null => cases written; exact ⟨'n', _, rfl, rfl, by decide⟩
  | flag b =>
      cases written
      cases b
      · exact ⟨'f', _, rfl, rfl, by decide⟩
      · exact ⟨'t', _, rfl, rfl, by decide⟩
  | integer n =>
      rw [render] at written
      obtain ⟨-, rfl⟩ := integerDigits_eq_ok written
      obtain ⟨c, tail, same, rfl | digit⟩ := integer_eq_cons n
      · exact ⟨'-', tail, same, rfl, by decide⟩
      · have apart := ne_of_isDigit digit
        exact ⟨c, tail, same,
          by simp [isGap, apart ' ' rfl, apart '\t' rfl, apart '\n' rfl, apart '\r' rfl],
          apart ']' rfl⟩
  | text s => cases written; exact ⟨_, _, rfl, rfl, by decide⟩
  | list items => exact tree.elim
  | record fields =>
      rw [render] at written
      obtain ⟨lines, _, rfl⟩ := exists_of_map_eq_ok written
      cases lines with
      | nil => exact ⟨_, _, rfl, rfl, by decide⟩
      | cons line lines => exact ⟨_, _, rfl, rfl, by decide⟩

/-- Records whose fields have distinct names. -/
def Distinct (fields : List (String × Document)) : Prop :=
  (names fields).Nodup

/-- The parts of fields that are written. -/
theorem renderFields_cons_eq_ok {name : String} {d : Document} {fields : List (String × Document)}
    {parts : List (List Char)} (written : renderFields depth ((name, d) :: fields) = .ok parts) :
    ∃ part lines, render depth d = .ok part ∧ renderFields depth fields = .ok lines ∧
      parts = (quote name.toList ++ ':' :: ' ' :: part) :: lines := by
  rw [renderFields] at written
  obtain ⟨part, first, written⟩ := exists_of_bind_eq_ok written
  obtain ⟨lines, later, written⟩ := exists_of_bind_eq_ok written
  exact ⟨part, lines, first, later, (Except.ok.inj written).symm⟩

/-- The parts of items that are written. -/
theorem renderItems_cons_eq_ok {d : Document} {items : List Document} {parts : List (List Char)}
    (written : renderItems depth (d :: items) = .ok parts) :
    ∃ part lines, render depth d = .ok part ∧ renderItems depth items = .ok lines ∧
      parts = part :: lines := by
  rw [renderItems] at written
  obtain ⟨part, first, written⟩ := exists_of_bind_eq_ok written
  obtain ⟨lines, later, written⟩ := exists_of_bind_eq_ok written
  exact ⟨part, lines, first, later, (Except.ok.inj written).symm⟩

section
variable {name : String} {v : Value} {behind : List Char}

/-- The value of a member is shorter than the member. -/
theorem length_member (name : String) (part behind : List Char) :
    (part ++ behind).length < (quote name.toList ++ ':' :: ' ' :: part ++ behind).length := by
  simp only [List.length_append, List.length_cons]
  omega

/-- Behind a brace and a gap the members of a record are read. -/
theorem readValue_members {more : List Char} {members : List (Value × Value)}
    (start : skipGap more = part) (any : ∀ s, part ≠ '\x7d' :: s)
    (read : readMembers fuel part = .ok (members, rest)) :
    readValue (fuel + 1) ('\x7b' :: more) = .ok (.table (Value.collectEntries members), rest) := by
  rw [readValue.eq_3 _ _ _ (by decide), if_pos (by decide), start]
  split
  case h_1 s => exact absurd rfl (any s)
  case h_2 => rw [read]; rfl

/-- Behind its name and a colon a member is read. A brace behind it ends the record. -/
theorem readMembers_last (solid : skipGap (part ++ behind) = part ++ behind)
    (read : readValue fuel (part ++ behind) = .ok (v, behind)) (next : skipGap behind = '\x7d' :: rest) :
    readMembers (fuel + 1) (quote name.toList ++ ':' :: ' ' :: part ++ behind) =
      .ok ([(.text name, v)], rest) := by
  have blank : skipGap (' ' :: (part ++ behind)) = part ++ behind := solid
  have colon : skipGap (':' :: ' ' :: (part ++ behind)) = ':' :: ' ' :: (part ++ behind) := rfl
  rw [List.append_assoc, quote_append, readMembers, if_pos (by decide), List.cons_append,
    List.cons_append, readText_quote]
  simp only [ok_bind, colon, blank, read, next, String.ofList_toList, pure_eq_ok]

/-- A comma behind a member goes on to the next one. -/
theorem readMembers_next (solid : skipGap (part ++ behind) = part ++ behind)
    (read : readValue fuel (part ++ behind) = .ok (v, behind)) (next : skipGap behind = ',' :: rest)
    {members : List (Value × Value)} {more : List Char}
    (later : readMembers fuel (skipGap rest) = .ok (members, more)) :
    readMembers (fuel + 1) (quote name.toList ++ ':' :: ' ' :: part ++ behind) =
      .ok ((.text name, v) :: members, more) := by
  have blank : skipGap (' ' :: (part ++ behind)) = part ++ behind := solid
  have colon : skipGap (':' :: ' ' :: (part ++ behind)) = ':' :: ' ' :: (part ++ behind) := rfl
  rw [List.append_assoc, quote_append, readMembers, if_pos (by decide), List.cons_append,
    List.cons_append, readText_quote]
  simp only [ok_bind, colon, blank, read, next, later, String.ofList_toList, pure_eq_ok]

/-- Nothing is skipped in front of a tree that is written. -/
theorem skipGap_render {d : Document} {sort : List (String × Document) → Prop} (tree : d.Tree sort)
    (written : render depth d = .ok part) (rest : List Char) :
    skipGap (part ++ rest) = part ++ rest := by
  obtain ⟨c, tail, rfl, solid, _⟩ := render_eq_cons tree written
  exact skipGap_cons solid _

end

end

mutual

/-- A tree that is written is read back, whatever closes it. The length of the text is fuel enough. -/
theorem readValue_render : (d : Document) → d.Tree Distinct → ∀ (depth fuel : Nat)
    (part rest : List Char), render depth d = .ok part → Closes rest → (part ++ rest).length < fuel →
      readValue fuel (part ++ rest) = .ok (d.toValue, rest)
  | .null, _ => by
      intro depth fuel part rest written _ enough
      cases written
      obtain ⟨fuel, rfl⟩ : ∃ k, fuel = k + 1 := ⟨fuel - 1, by omega⟩
      rfl
  | .flag b, _ => by
      intro depth fuel part rest written _ enough
      cases written
      obtain ⟨fuel, rfl⟩ : ∃ k, fuel = k + 1 := ⟨fuel - 1, by omega⟩
      cases b <;> rfl
  | .integer n, _ => by
      intro depth fuel part rest written closes enough
      rw [render] at written
      obtain ⟨short, rfl⟩ := integerDigits_eq_ok written
      have read := readSimple_integer closes short
      clear short written
      obtain ⟨fuel, rfl⟩ : ∃ k, fuel = k + 1 := ⟨fuel - 1, by omega⟩
      obtain ⟨c, tail, digits, start⟩ := integer_eq_cons n
      have apart : ∀ d : Char, d ≠ '-' → d.isDigit = false → c ≠ d := by
        intro d noSign noDigit
        rcases start with rfl | digit
        · exact noSign.symm
        · exact ne_of_isDigit digit d noDigit
      rw [digits, List.cons_append] at read ⊢
      rw [readValue_simple (apart '[' (by decide) rfl) (apart '\x7b' (by decide) rfl)
        (apart '\x22' (by decide) rfl), read, toValue]
  | .text s, _ => by
      intro depth fuel part rest written _ enough
      cases written
      obtain ⟨fuel, rfl⟩ : ∃ k, fuel = k + 1 := ⟨fuel - 1, by omega⟩
      rw [quote_append, readValue.eq_3 _ _ _ (by decide), if_neg (by decide), if_pos (by decide),
        readText_quote, toValue]
      simp only [ok_bind, String.ofList_toList, pure_eq_ok]
  | .list _, tree => tree.elim
  | .record [], _ => by
      intro depth fuel part rest written _ enough
      cases written
      obtain ⟨fuel, rfl⟩ : ∃ k, fuel = k + 1 := ⟨fuel - 1, by omega⟩
      rfl
  | .record ((name, d) :: fields), ⟨distinct, below⟩ => by
      intro depth fuel part rest written _ enough
      rw [render] at written
      obtain ⟨parts, lines, rfl⟩ := exists_of_map_eq_ok written
      obtain ⟨fuel, rfl⟩ : ∃ k, fuel = k + 1 := ⟨fuel - 1, by omega⟩
      obtain ⟨part, parts, _, _, rfl⟩ := renderFields_cons_eq_ok lines
      rw [bracketed_append] at enough ⊢
      rw [List.length_cons, List.length_append] at enough
      have read := readMembers_renderFields
        ((name, d) :: fields) below nofun depth fuel _ rest lines (by omega)
      have entries := collectEntries_fieldEntries distinct
      rw [readValue_members (skipGap_chained (quote_append ..) rfl depth '\x7d' parts rest)
        (chained_ne_cons (quote_append ..) (by decide) depth '\x7d' parts rest) read, entries, toValue]

/-- The fields of a record that are written are read back up to the brace. -/
theorem readMembers_renderFields : (fields : List (String × Document)) → FieldsTree Distinct fields →
    fields ≠ [] → ∀ (depth fuel : Nat) (parts : List (List Char)) (rest : List Char),
      renderFields (depth + 1) fields = .ok parts → (chained depth '\x7d' rest parts).length < fuel →
      readMembers fuel (chained depth '\x7d' rest parts) = .ok (fieldEntries fields, rest)
  | [], _ => fun any => absurd rfl any
  | [(name, d)], ⟨first, _⟩ => by
      intro _ depth fuel parts rest written enough
      obtain ⟨part, lines, one, none, rfl⟩ := renderFields_cons_eq_ok written
      cases none
      obtain ⟨fuel, rfl⟩ : ∃ k, fuel = k + 1 := ⟨fuel - 1, by omega⟩
      rw [chained] at enough ⊢
      have shorter := length_member name part (lineStart depth ++ '\x7d' :: rest)
      have read := readValue_render d first (depth + 1) fuel part (lineStart depth ++ '\x7d' :: rest) one
        (Closes.lineStart depth _) (by omega)
      exact readMembers_last (skipGap_render first one _) read (skipGap_closing depth rfl rest)
  | (name, d) :: next :: fields, ⟨first, later⟩ => by
      intro _ depth fuel parts rest written enough
      obtain ⟨part, lines, one, more, rfl⟩ := renderFields_cons_eq_ok written
      obtain ⟨part', lines', _, _, rfl⟩ := renderFields_cons_eq_ok more
      obtain ⟨fuel, rfl⟩ : ∃ k, fuel = k + 1 := ⟨fuel - 1, by omega⟩
      rw [chained] at enough ⊢
      have shorter := length_member name part (',' :: (lineStart (depth + 1) ++
        chained depth '\x7d' rest ((quote next.1.toList ++ ':' :: ' ' :: part') :: lines')))
      have read := readValue_render d first (depth + 1) fuel part _ one (Closes.comma _)
        (Nat.lt_of_lt_of_le shorter (Nat.le_of_lt_succ enough))
      refine readMembers_next (skipGap_render first one _) read (skipGap_cons rfl _) ?_
      rw [skipGap_chained (quote_append ..) rfl]
      refine readMembers_renderFields (next :: fields) later nofun depth fuel _ rest more ?_
      simp only [List.length_append, List.length_cons] at shorter enough
      omega

end

mutual

/-- A tree can be written if its integers are short enough. -/
theorem exists_render {sort : List (String × Document) → Prop} : (d : Document) → d.Tree sort →
    d.toValue.Spellable → ∀ depth, ∃ part, render depth d = .ok part
  | .null, _, _, _ | .flag _, _, _, _ | .text _, _, _, _ => ⟨_, rfl⟩
  | .integer n, _, short, _ => by
      rw [toValue, Value.Spellable] at short
      rw [render]
      exact ⟨_, integerDigits_eq short⟩
  | .list _, tree, _, _ => tree.elim
  | .record fields, ⟨_, below⟩, short, depth => by
      obtain ⟨parts, written⟩ := exists_renderFields fields below short (depth + 1)
      rw [render, written]
      exact ⟨_, rfl⟩

theorem exists_renderFields {sort : List (String × Document) → Prop} :
    (fields : List (String × Document)) → FieldsTree sort fields →
    Value.EntriesSpellable (fieldEntries fields) → ∀ depth, ∃ parts, renderFields depth fields = .ok parts
  | [], _, _, _ => ⟨[], rfl⟩
  | (name, d) :: fields, ⟨first, later⟩, ⟨_, short, shorts⟩, depth => by
      obtain ⟨part, one⟩ := exists_render d first short depth
      obtain ⟨parts, more⟩ := exists_renderFields fields later shorts depth
      rw [renderFields, one, more]
      exact ⟨_, rfl⟩

end

end Syscat.Json
