/-
Module: Syscat.Proofs.Mapping.Source
Purpose: Reading what a caller passes as a row. A value that is no row is a mapping problem; any other
  source is read, unless the name of a column cannot be printed.
Main exports: RowSource.unsupported?, RowSource.cells, readRow_of_unsupported, readRow_of_supported,
  readRow_eq_ok, readRow_failure, RowSource.Spellable.readRow
-/
import Syscat.Mapping
import Syscat.Proofs.Row.Access

namespace Syscat

/-- The value that is passed as a row and is none. -/
def RowSource.unsupported? : RowSource → Option Value
  | value (.table _) => none
  | value v => some v
  | _ => none

/-- The row that is passed, without columns if none can be read. -/
def RowSource.cells (source : RowSource) : Row :=
  source.row.toOption.getD ⟨[]⟩

/-- A source that is not unsupported is a row read before, or has entries. -/
theorem RowSource.supported_cases {source : RowSource} (supported : source.unsupported? = none) :
    (∃ row, source = .read row) ∨
      ∃ entries, source.row = Row.ofEntries entries ∧
        (source.Spellable → Value.EntriesSpellable entries) := by
  cases source with
  | read row => exact .inl ⟨row, rfl⟩
  | carried _ entries => exact .inr ⟨entries, rfl, id⟩
  | value v =>
      cases v with
      | table entries =>
          refine .inr ⟨entries, rfl, fun spellable => ?_⟩
          rwa [RowSource.Spellable, Value.Spellable] at spellable
      | _ => cases supported

/-- Columns are named unless the name of one cannot be printed. -/
theorem Row.named_failure {entries : List (Value × Value)} {f : Failure}
    (failed : named entries = .error f) : f = .longInteger := by
  induction entries with
  | nil => cases failed
  | cons entry rest ih =>
      rcases bind_eq_error_iff.mp failed with printed | ⟨name, _, failed⟩
      · have reads : Reads False (.ofExcept (Failure.printed entry.1.text?)) := reads_printed nofun
        exact (reads.failure f printed).1
      · rcases bind_eq_error_iff.mp failed with others | ⟨cells, _, ok⟩
        · exact ih others
        · cases ok

/-- Entries make up a row unless the name of a column cannot be printed. -/
theorem Row.ofEntries_failure {entries : List (Value × Value)} {f : Failure}
    (failed : ofEntries entries = .error f) : f = .longInteger := by
  rcases bind_eq_error_iff.mp failed with named | ⟨cells, _, ok⟩
  · exact named_failure named
  · cases ok

/-- A value that is no row is a mapping problem. -/
theorem readRow_of_unsupported {source : RowSource} {v : Value} (none : source.unsupported? = some v) :
    readRow source = .error (.mapping ⟨.unsupportedRow v, .none⟩) := by
  unfold RowSource.unsupported? at none
  split at none
  case h_1 => cases none
  case h_2 w noTable =>
    obtain rfl := Option.some.inj none
    cases w with
    | table entries => exact absurd rfl (noTable entries)
    | _ => rfl
  case h_3 => cases none

/-- Any other source is read. -/
theorem readRow_of_supported {source : RowSource} (some : source.unsupported? = none) :
    readRow source = source.row := by
  unfold readRow
  split
  case h_1 v failed =>
    cases v with
    | table entries => cases Row.ofEntries_failure failed
    | _ => cases some
  case h_2 => rfl

/-- Whoever has read a row has found it supported. -/
theorem readRow_eq_ok {source : RowSource} {row : Row} (read : readRow source = .ok row) :
    source.unsupported? = none ∧ source.row = .ok row := by
  cases unsupported : source.unsupported? with
  | some v =>
      rw [readRow_of_unsupported unsupported] at read
      cases read
  | none => exact ⟨rfl, readRow_of_supported unsupported ▸ read⟩

theorem cells_of_readRow {source : RowSource} {row : Row}
    (read : readRow source = .ok row) : source.cells = row := by
  rw [RowSource.cells, (readRow_eq_ok read).2]
  rfl

/-- Reading a source fails for a value that is no row, or for an integer with too many digits. -/
theorem readRow_failure {source : RowSource} {f : Failure} (failed : readRow source = .error f) :
    f = .longInteger ∨
      ∃ v, source.unsupported? = some v ∧ f = .mapping ⟨.unsupportedRow v, none⟩ := by
  cases unsupported : source.unsupported? with
  | some v =>
      rw [readRow_of_unsupported unsupported] at failed
      exact .inr ⟨v, rfl, (Except.error.inj failed).symm⟩
  | none =>
      rw [readRow_of_supported unsupported] at failed
      rcases RowSource.supported_cases unsupported with ⟨row, rfl⟩ | ⟨entries, same, _⟩
      · cases failed
      · exact .inl (Row.ofEntries_failure (same ▸ failed))

/-- A row whose integers are short enough can be read. -/
theorem RowSource.Spellable.readRow {source : RowSource} (spellable : source.Spellable)
    (supported : source.unsupported? = none) :
    ∃ row, Syscat.readRow source = .ok row ∧ row.Spellable := by
  rw [readRow_of_supported supported]
  rcases RowSource.supported_cases supported with ⟨row, rfl⟩ | ⟨entries, same, entriesSpellable⟩
  · exact ⟨row, rfl, spellable⟩
  · exact same ▸ Row.spellable_ofEntries (entriesSpellable spellable)

theorem RowSource.Spellable.row_spellable {source : RowSource} {row : Row}
    (spellable : source.Spellable) (read : Syscat.readRow source = .ok row) : row.Spellable := by
  obtain ⟨found, same, short⟩ := spellable.readRow (readRow_eq_ok read).1
  rw [read] at same
  cases same
  exact short

end Syscat
