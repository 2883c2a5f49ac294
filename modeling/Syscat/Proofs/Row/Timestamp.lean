/-
Module: Syscat.Proofs.Row.Timestamp
Purpose: The timestamp in a column is read back from itself and from every text that is made of it,
  blanks around the text or not. Only an offset of less than a second is lost.
Main exports: Timestamp.WrittenAs, Timestamp.asRead_eq_iff, Row.timestamp?_written
-/
import Syscat.Proofs.Logged
import Syscat.Proofs.Number.Based
import Syscat.Proofs.Time.Catalog
import Syscat.Row

namespace Syscat

/-! ### What stands around a text -/

theorem Iso.TimeChar.visible {c : Char} (inTime : TimeChar c) : isBlank c = false := by
  obtain digit | rfl | rfl := inTime
  · exact isBlank_of_isDigit digit
  all_goals decide +kernel

/-- An offset holds no blank. -/
theorem Offset.visible_chars {o : Offset} {c : Char} (inside : c ∈ o.chars) : isBlank c = false := by
  rw [o.chars_eq] at inside
  obtain rfl | behind := List.mem_cons.mp inside
  · obtain minus | plus := o.sign_cases
    · rw [minus]
      decide +kernel
    · rw [plus]
      decide +kernel
  · exact (o.timeChar_of_mem_unsigned behind).visible

theorem Offset.visible_exported {o : Offset} (minutes : (60000000 : Int) ∣ o.micros) {c : Char}
    (inside : c ∈ o.exported) : isBlank c = false := by
  rw [Offset.exported_of_minutes minutes] at inside
  split at inside
  · rw [List.mem_singleton.mp inside]
    decide +kernel
  · exact Offset.visible_chars inside

/-- A time of day holds no blank, whatever is written for an offset behind it. -/
theorem visible_clock (clock : Clock) {offset : Option Offset} {write : Offset → List Char}
    (visible : ∀ o ∈ offset, ∀ c ∈ write o, isBlank c = false) :
    clock.chars ++ (offset.map write).getD [] ≠ [] ∧
      ∀ c ∈ clock.chars ++ (offset.map write).getD [], isBlank c = false := by
  refine ⟨by simp [Clock.chars], fun c inside => ?_⟩
  obtain time | behind := List.mem_append.mp inside
  · exact (Iso.TimeChar.of_mem_clock time).visible
  · cases offset with
    | none => cases behind
    | some o => exact visible o rfl c behind

/-- Blanks around a text that begins with a date are dropped. -/
theorem strip_dated (d : Date) (separator : Char) {before rest after : List Char} (any : rest ≠ [])
    (visible : ∀ c ∈ rest, isBlank c = false) (blankBefore : ∀ c ∈ before, isBlank c = true)
    (blankAfter : ∀ c ∈ after, isBlank c = true) :
    strip (before ++ ((d.chars ++ separator :: rest) ++ after)) = d.chars ++ separator :: rest := by
  refine strip_surrounded blankBefore blankAfter (by simp) ?_ ?_
  · obtain ⟨a, b, c, e, year⟩ := exists_padded_four d.bounds.1
    rw [Date.chars, year]
    rintro x ⟨⟩
    exact isBlank_of_isDigit (isDigit_of_mem_padded (year ▸ List.mem_cons_self))
  · intro c last
    rw [List.getLast?_append, List.getLast?_cons_of_ne_nil any, List.getLast?_eq_some_getLast any] at last
    cases last
    exact visible _ (List.getLast_mem any)

namespace Timestamp

variable {t : Timestamp}

/-! ### The texts of a timestamp -/

/-- The texts that are made of a timestamp: with a blank or the letter `T` between date and time, in
the catalog's form if it is local, where a fraction of zero may be left off, and in an exported
document if an offset, where it has one, is of whole minutes. -/
inductive WrittenAs (t : Timestamp) : List Char → Prop where
  | text : WrittenAs t t.text.toList
  | isoText : WrittenAs t t.isoText.toList
  | catalog {fraction : Bool} (noOffset : t.offset = none) (kept : fraction = true ∨ t.clock.micro = 0) :
      WrittenAs t (t.catalogChars fraction)
  | exported (minutes : ∀ o ∈ t.offset, (60000000 : Int) ∣ o.micros) : WrittenAs t t.exported.toList

namespace WrittenAs

variable {s : List Char}

/-- A text of a timestamp is read as that timestamp. -/
theorem read (written : t.WrittenAs s) : readTimestamp? s = some t.asRead := by
  cases written with
  | text => rw [Timestamp.text, String.toList_ofList, readTimestamp?_chars]
  | isoText => rw [Timestamp.isoText, String.toList_ofList, readTimestamp?_chars]
  | catalog noOffset kept =>
      rw [readTimestamp?_catalogChars noOffset kept, asRead_eq_iff.mpr (noOffset ▸ nofun)]
  | exported minutes => exact readTimestamp?_exported minutes

/-- A text of a timestamp begins with its date, and nothing behind the character that follows is blank. -/
theorem exists_dated (written : t.WrittenAs s) : ∃ separator rest, s = t.date.chars ++ separator :: rest ∧
    rest ≠ [] ∧ ∀ c ∈ rest, isBlank c = false := by
  cases written with
  | text =>
      rw [Timestamp.text, String.toList_ofList, chars, List.append_assoc]
      exact ⟨_, _, rfl, visible_clock t.clock fun _ _ _ => Offset.visible_chars⟩
  | isoText =>
      rw [Timestamp.isoText, String.toList_ofList, chars, List.append_assoc]
      exact ⟨_, _, rfl, visible_clock t.clock fun _ _ _ => Offset.visible_chars⟩
  | catalog noOffset kept =>
      simp only [catalogChars, List.append_assoc, List.cons_append]
      refine ⟨_, _, rfl, by simp [padded_ne_nil], fun c inside => ?_⟩
      exact (Iso.TimeChar.of_mem_points inside).visible
  | exported minutes =>
      rw [Timestamp.exported, String.toList_ofList, List.append_assoc]
      exact ⟨_, _, rfl, visible_clock t.clock fun o here _ => Offset.visible_exported (minutes o here)⟩

/-- Blanks around a text of a timestamp do not count. -/
theorem strip_surrounded (written : t.WrittenAs s) {before after : List Char}
    (blank : ∀ c ∈ before ++ after, isBlank c = true) : strip (before ++ (s ++ after)) = s := by
  obtain ⟨separator, rest, rfl, any, visible⟩ := written.exists_dated
  exact strip_dated t.date separator any visible (fun c inside => blank c (List.mem_append_left _ inside))
    fun c inside => blank c (List.mem_append_right _ inside)

theorem read_strip (written : t.WrittenAs s) : readTimestamp? (strip s) = some t.asRead := by
  have alone := @strip_surrounded t s written [] [] nofun
  rw [List.nil_append, List.append_nil] at alone
  rw [alone, written.read]

end WrittenAs

end Timestamp

/-! ### Columns -/

namespace Row

variable {row : Row} {column : String} {t : Timestamp}

/-- A timestamp in a column is given as it is. -/
theorem timestamp?_moment (here : row.get column = .moment t) :
    row.timestamp? column = pure (some t) := by
  rw [timestamp?, here]

/-- A text from which a timestamp is read gives that timestamp, and no notice. -/
theorem timestamp?_text {s : List Char} (here : row.get column = .text (String.ofList s))
    (read : readTimestamp? (strip s) = some t) : row.timestamp? column = pure (some t) := by
  rw [timestamp?, here]
  simp only [Value.text?, Failure.printed, String.toList_ofList, Logged.ofExcept_ok_bind, read]

/-- Each text of a timestamp in a column gives that timestamp, as far as it is read back. -/
theorem timestamp?_of_writtenAs {before s after : List Char} (written : t.WrittenAs s)
    (blank : ∀ c ∈ before ++ after, isBlank c = true)
    (here : row.get column = .text (String.ofList (before ++ (s ++ after)))) :
    row.timestamp? column = pure (some t.asRead) := by
  refine timestamp?_text here ?_
  rw [written.strip_surrounded blank, written.read]

/-- Timestamps are read back. A timestamp in a column is given as it is, and so it is from each of its
texts, blanks around the text or not, as far as it is read back; no notice is left. It is read back as
it is exactly if its offset, where it has one, is zero or at least a second. And the catalog's form,
with a fraction or without, is never taken for ISO 8601. -/
theorem timestamp?_readBack (row : Row) (column : String) (t : Timestamp) :
    (row.get column = .moment t → row.timestamp? column = pure (some t)) ∧
      (∀ before s after, t.WrittenAs s → (∀ c ∈ before ++ after, isBlank c = true) →
        row.get column = .text (String.ofList (before ++ (s ++ after))) →
        row.timestamp? column = pure (some t.asRead)) ∧
      (t.asRead = t ↔ ∀ o ∈ t.offset, o = Offset.zero ∨ 1000000 ≤ o.micros.natAbs) ∧
      ∀ fraction, Iso.readIso? (t.catalogChars fraction) = none :=
  ⟨timestamp?_moment, fun _ _ _ => timestamp?_of_writtenAs, Timestamp.asRead_eq_iff,
    fun fraction => Iso.readIso?_catalogChars fraction t⟩

/-- A quarter past ten on the ninth of June 2023, with the given offset from universal time. -/
def quarterPastTen (offset : Offset) : Timestamp :=
  ⟨⟨2023, 6, 9, by decide⟩, ⟨10, 15, 30, 250000, by decide⟩, some offset⟩

theorem timestamp?_readBack_halfHour :
    (⟨[("CREATE_TIME", .text " 2023-06-09 10:15:30.250000+05:30\t")]⟩ : Row).timestamp? "CREATE_TIME" =
      pure (some (quarterPastTen ⟨19800000000, by decide⟩)) := by
  have back := timestamp?_readBack
    ⟨[("CREATE_TIME", .text " 2023-06-09 10:15:30.250000+05:30\t")]⟩ "CREATE_TIME"
    (quarterPastTen ⟨19800000000, by decide⟩)
  have kept := back.2.2.1.mpr (by decide)
  have given := back.2.1 [' '] _ ['\t'] .text (forall_mem_of_all (by decide +kernel))
    (congrArg Value.text (by decide +kernel))
  rwa [kept] at given

/-- A text does not always give the timestamp that it was made of: an offset of a microsecond is lost. -/
theorem not_forall_readBack :
    ¬ ∀ (row : Row) (column : String) (t : Timestamp) (s : List Char), t.WrittenAs s →
      row.get column = .text (String.ofList s) → row.timestamp? column = pure (some t) := by
  intro readBack
  have lost : (quarterPastTen ⟨1, by decide⟩).asRead ≠ quarterPastTen ⟨1, by decide⟩ := by decide
  have here (s : List Char) : Row.get ⟨[("T", .text (String.ofList s))]⟩ "T" =
      .text (String.ofList s) := rfl
  have written : (quarterPastTen ⟨1, by decide⟩).WrittenAs _ := .isoText
  have given := readBack _ "T" _ _ written (here _)
  have read := timestamp?_text (here _) written.read_strip
  exact lost (Option.some.inj (Except.ok.inj (congrArg Logged.result (read.symm.trans given))))

end Row

end Syscat
