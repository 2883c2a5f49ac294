/-
Module: Syscat.Proofs.Row.Access
Purpose: What reading a column can come to. A reading depends on the value of its column only, and nothing
  but an integer with too many digits makes it fail; notices tell of values that could not be read as an
  integer or a timestamp.
Main exports: Row.textAt, Row.text?_eq, Row.Spellable, Row.Spellable.text?, Row.Reads, Row.reads_text?,
  RowSource.Spellable, Row.spellable_ofEntries
-/
import Syscat.Proofs.Logged
import Syscat.Proofs.Row.Relation
import Syscat.Proofs.Spelling

namespace Syscat

/-- The notices that reading a row can leave. -/
def Notice.OfReading : Notice → Prop
  | nonInteger _ _ => True
  | unparsableTimestamp _ _ => True
  | downgraded _ _ _ _ => True
  | _ => False

/-- What has a text is printed. -/
theorem Failure.printed_of_isSome {text? : Option String} (isSome : text?.isSome) :
    ∃ text, text? = some text ∧ Failure.printed text? = .ok text := by
  obtain ⟨text, rfl⟩ := Option.isSome_iff_exists.mp isSome
  exact ⟨text, rfl, rfl⟩

namespace Row

section
variable {row row' : Row} {column : String}

/-! ### Texts -/

/-- The text that a column reads as, none for a column that is absent or null. -/
def textAt (row : Row) (column : String) : Option String :=
  match row.get column with
  | .null => none
  | v => textOf? v

theorem textAt_of_null (null : row.get column = .null) : row.textAt column = none := by
  simp only [textAt, null]

theorem textAt_of_ne_null (filled : row.get column ≠ .null) :
    row.textAt column = textOf? (row.get column) := by
  unfold textAt
  split
  case h_1 null => exact absurd null filled
  case h_2 => rfl

theorem text?_of_ne_null (filled : row.get column ≠ .null) :
    row.text? column = (Failure.printed (textOf? (row.get column))).map some := by
  unfold text?
  split
  case h_1 null => exact absurd null filled
  case h_2 => rfl

/-- Reading a text gives the text of the column, unless that cannot be printed. -/
theorem text?_eq (row : Row) (column : String) :
    row.text? column = .ok (row.textAt column) ∨
      row.text? column = .error .longInteger ∧ row.textAt column = none := by
  by_cases null : row.get column = .null
  · refine .inl ?_
    rw [textAt_of_null null]
    simp only [text?, null]
  · rw [text?_of_ne_null null, textAt_of_ne_null null]
    cases textOf? (row.get column) with
    | none => exact .inr ⟨rfl, rfl⟩
    | some text => exact .inl rfl

theorem text?_congr (same : row'.get column = row.get column) : row'.text? column = row.text? column := by
  simp only [text?, same]

theorem trimmedText?_congr (same : row'.get column = row.get column) :
    row'.trimmedText? column = row.trimmedText? column := by
  simp only [trimmedText?, text?_congr same]

theorem integer?_congr (same : row'.get column = row.get column) :
    row'.integer? column = row.integer? column := by
  simp only [integer?, same]

theorem flag?_congr (trueText : Value) (same : row'.get column = row.get column) :
    row'.flag? column trueText = row.flag? column trueText := by
  simp only [flag?, same]

theorem timestamp?_congr (same : row'.get column = row.get column) :
    row'.timestamp? column = row.timestamp? column := by
  simp only [timestamp?, same]

/-! ### Rows that can be spelled out -/

/-- Every integer in a row has at most `digitLimit` digits. -/
def Spellable (row : Row) : Prop :=
  ∀ cell ∈ row.cells, cell.2.Spellable

theorem Spellable.get (spellable : row.Spellable) (column : String) : (row.get column).Spellable := by
  have related : row.Related (fun _ v _ => v.Spellable) row :=
    List.forall₂_same.mpr fun cell inside => ⟨rfl, spellable cell inside⟩
  rcases related.get column with ⟨null, _⟩ | found
  · rw [null]
    trivial
  · exact found

theorem textOf?_isSome {v : Value} (spellable : v.Spellable) : (textOf? v).isSome := by
  unfold textOf?
  split
  · rfl
  · exact (Value.text?_isSome_iff v).mpr spellable

/-- A column that can be spelled out is read. -/
theorem Spellable.text? (spellable : row.Spellable) (column : String) :
    row.text? column = .ok (row.textAt column) := by
  rcases text?_eq row column with ok | ⟨long, _⟩
  · exact ok
  · obtain ⟨text, _, printed⟩ := Failure.printed_of_isSome (textOf?_isSome (spellable.get column))
    unfold Row.text? at long
    split at long
    case h_1 => cases long
    case h_2 =>
      rw [printed] at long
      cases long

theorem Spellable.trimmedText? (spellable : row.Spellable) (column : String) :
    row.trimmedText? column = .ok ((row.textAt column).map stripped) := by
  rw [Row.trimmedText?, spellable.text? column]
  rfl

end

/-! ### Failures and notices -/

/-- A reading leaves only notices of reading. It fails only for an integer with too many digits, and
gives a result if the integers at hand are `short`. -/
abbrev Reads {α : Type} (short : Prop) (x : Logged α) : Prop :=
  Logged.Confined Notice.OfReading (fun f => f = .longInteger ∧ ¬ short) x

section
variable {short : Prop}

theorem Reads.ok {α : Type} {x : Logged α} (reads : Reads short x) (h : short) :
    ∃ a, x.result = .ok a := by
  cases ended : x.result with
  | ok a => exact ⟨a, rfl⟩
  | error f => exact absurd h (reads.failure f ended).2

/-- Printing fails for an integer with too many digits only. -/
theorem reads_printed {text? : Option String} (shown : short → text?.isSome) :
    Reads short (.ofExcept (Failure.printed text?)) := by
  refine .ofExcept fun f failed => ?_
  cases text? with
  | none => exact ⟨(Except.error.inj failed).symm, fun h => nomatch shown h⟩
  | some text => cases failed

variable {row : Row} (spellable : short → row.Spellable) (column : String)
include spellable

theorem reads_text? : Reads short (.ofExcept (row.text? column)) := by
  rcases text?_eq row column with ok | ⟨long, _⟩
  · rw [ok]
    exact .pure _
  · refine .ofExcept fun f failed => ⟨Except.error.inj (failed.symm.trans long), fun h => ?_⟩
    rw [(spellable h).text? column] at failed
    cases failed

theorem reads_trimmedText? : Reads short (.ofExcept (row.trimmedText? column)) := by
  simp only [trimmedText?, Logged.ofExcept_bind]
  exact (reads_text? spellable column).bind fun _ => .pure _

theorem reads_literal? : Reads short (.ofExcept (Failure.printed (row.get column).literal?)) :=
  reads_printed fun h => (Value.literal?_isSome_iff _).mpr ((spellable h).get column)

theorem reads_shownText? : Reads short (.ofExcept (Failure.printed (row.get column).text?)) :=
  reads_printed fun h => (Value.text?_isSome_iff _).mpr ((spellable h).get column)

theorem reads_integer? : Reads short (row.integer? column) := by
  unfold integer?
  split
  case h_1 => exact .pure _
  case h_2 => exact .pure _
  case h_3 => exact .pure _
  case h_4 =>
    split
    case h_1 => exact .pure _
    case h_2 =>
      refine (reads_literal? spellable column).bind fun literal => ?_
      exact (Logged.Confined.note trivial).bind fun _ => .pure _

theorem reads_flag? (trueText : Value) : Reads short (.ofExcept (row.flag? column trueText)) := by
  unfold flag?
  split
  case h_1 => exact .pure _
  case h_2 => exact .pure _
  case h_3 =>
    rw [Logged.ofExcept_bind]
    exact (reads_shownText? spellable column).bind fun text => .pure _

theorem reads_timestamp? : Reads short (row.timestamp? column) := by
  unfold timestamp?
  split
  case h_1 => exact .pure _
  case h_2 => exact .pure _
  case h_3 =>
    refine (reads_shownText? spellable column).bind fun text => ?_
    split
    case h_1 => exact .pure _
    case h_2 =>
      refine (reads_literal? spellable column).bind fun literal => ?_
      exact (Logged.Confined.note trivial).bind fun _ => .pure _

end

end Row

namespace RowSource

/-- Every integer in what a caller passes as a row has at most `digitLimit` digits. -/
def Spellable : RowSource → Prop
  | carried _ entries => Value.EntriesSpellable entries
  | read row => row.Spellable
  | value v => v.Spellable

end RowSource

/-- Columns whose names can be spelled out are named. -/
theorem Row.exists_named {entries : List (Value × Value)}
    (spellable : ∀ e ∈ entries, e.1.Spellable) : ∃ cells, named entries = .ok cells := by
  induction entries with
  | nil => exact ⟨_, rfl⟩
  | cons entry rest ih =>
      obtain ⟨name, text⟩ := (spellable entry List.mem_cons_self).text?
      obtain ⟨cells, others⟩ := ih fun e inside => spellable e (List.mem_cons_of_mem _ inside)
      rw [Row.named, text, others]
      exact ⟨_, rfl⟩

/-- Entries that can be spelled out make up a row that can. -/
theorem Row.spellable_ofEntries {entries : List (Value × Value)}
    (spellable : Value.EntriesSpellable entries) :
    ∃ row, ofEntries entries = .ok row ∧ row.Spellable := by
  rw [Value.entriesSpellable_iff] at spellable
  obtain ⟨cells, named⟩ := Row.exists_named fun e inside => (spellable e inside).1
  -- a row that is related to itself inherits what the relation says about the entries
  have related : List.Forall₂ (EntriesRelated fun _ v _ => v.Spellable) entries entries :=
    List.forall₂_same.mpr fun e inside => ⟨rfl, fun _ _ => (spellable e inside).2⟩
  have agree := Row.agree_ofEntries related
  rw [ofEntries, named] at agree ⊢
  refine ⟨_, rfl, fun cell inside => ?_⟩
  cases agree with
  | ok rows => exact (List.forall₂_same.mp rows cell inside).2

end Syscat
