/-
Module: Syscat.Proofs.Mapping.Octets
Purpose: Texts that a driver delivers as their octets in UTF-8. They read like the texts in every column
  but flags and timestamps, whose readings take the literal form of the octets for the text: a flag is
  then false and a timestamp null.
Main exports: Value.Redelivered, RowSource.Redelivered, misreadFlag, misreadTimestamp,
  mapRoutine_redelivered, not_forall_redelivered
-/
import Syscat.Proofs.Mapping.TwoRuns
import Syscat.Proofs.Text.Utf8
import Syscat.Proofs.Time.Unreadable

namespace Syscat

/-! ### Redelivered texts -/

/-- Whether a value is a text or octets. -/
def Value.isTextual : Value → Bool
  | text _ | octets _ | buffer _ => true
  | _ => false

theorem Value.spellable_of_isTextual {v : Value} (textual : v.isTextual) : v.Spellable := by
  cases v with
  | text _ | octets _ | buffer _ => exact trivial
  | _ => cases textual

theorem Value.ne_null_of_isTextual {v : Value} (textual : v.isTextual) : v ≠ null := by
  rintro rfl
  cases textual

/-- A value is delivered again as it is, or a text as its octets in UTF-8. -/
inductive Value.Redelivered : Value → Value → Prop where
  | same (v : Value) : Redelivered v v
  | octets (s : String) : Redelivered (text s) (octets (utf8Encode s.toList))
  | buffer (s : String) : Redelivered (text s) (buffer (utf8Encode s.toList))

/-- A row is delivered again with some of its texts as octets. -/
abbrev RowSource.Redelivered : RowSource → RowSource → Prop :=
  RowSource.Related fun _ => Value.Redelivered

/-- What is made of a flag whose column was redelivered in another form: it is false. -/
def misreadFlag (row row' : Row) : ReadingRelation Bool := fun column b b' =>
  (row'.get column = row.get column → b' = b) ∧
    (row'.get column ≠ row.get column → b' = some false)

/-- What is made of a timestamp whose column was redelivered in another form: it is null. -/
def misreadTimestamp (row row' : Row) : ReadingRelation Timestamp := fun column t t' =>
  (row'.get column = row.get column → t' = t) ∧ (row'.get column ≠ row.get column → t' = none)

namespace Value.Redelivered

variable {v v' : Value}

/-- Octets and texts are read as the same text. -/
theorem textOf?_eq (redelivered : v.Redelivered v') : Row.textOf? v' = Row.textOf? v := by
  cases redelivered with
  | same => rfl
  | octets s => simp [Row.textOf?, bytes?, Value.text?, utf8DecodeLossy_utf8Encode]
  | buffer s => simp [Row.textOf?, bytes?, Value.text?, utf8DecodeLossy_utf8Encode]

/-- A value that is not the same any more was a text, and is now shown as octets. -/
theorem cases_ne (redelivered : v.Redelivered v') (other : v' ≠ v) :
    v.isTextual ∧ v'.isTextual ∧
      ∃ shown rest, v'.text? = some shown ∧ shown.toList = 'b' :: rest := by
  cases redelivered with
  | same => exact absurd rfl other
  | octets s => exact ⟨rfl, rfl, _, _, rfl, by simp; rfl⟩
  | buffer s => exact ⟨rfl, rfl, _, _, rfl, by simp; rfl⟩

end Value.Redelivered

/-! ### Reading redelivered texts -/

section
variable {row row' : Row} {column : String}

theorem Row.Related.get_redelivered (related : row.Related (fun _ => Value.Redelivered) row')
    (column : String) : (row.get column).Redelivered (row'.get column) := by
  rcases related.get column with ⟨null, null'⟩ | redelivered
  · rw [null, null']
    exact .same .null
  · exact redelivered

/-- The integer that a text stands for, if it is a numeral. -/
def numeralOf? (text? : Option String) : Option Int :=
  match text?.map fun s => Numeral.read s.toList with
  | some (.ok n) => some n
  | _ => none

/-- A text and octets are read as a numeral. -/
theorem result_integer?_of_isTextual (textual : (row.get column).isTextual) :
    (row.integer? column).result = .ok (numeralOf? (Row.textOf? (row.get column))) := by
  obtain ⟨literal, shown⟩ := (Value.spellable_of_isTextual textual).literal?
  unfold Row.integer?
  split
  case h_1 null => simp [null, Value.isTextual] at textual
  case h_2 b flag => simp [flag, Value.isTextual] at textual
  case h_3 n integer => simp [integer, Value.isTextual] at textual
  case h_4 =>
    rw [shown, numeralOf?]
    cases (Row.textOf? (row.get column)).map fun s => Numeral.read s.toList with
    | none => rfl
    | some read => cases read <;> rfl

/-- A text and octets are compared with the text that stands for true. -/
theorem flag?_of_isTextual (textual : (row.get column).isTextual) {shown : String}
    (text : (row.get column).text? = some shown) (trueText : Value) :
    row.flag? column trueText = .ok (some ((Value.text (stripped shown)).equal trueText)) := by
  unfold Row.flag?
  split
  case h_1 null => simp [null, Value.isTextual] at textual
  case h_2 b flag => simp [flag, Value.isTextual] at textual
  case h_3 =>
    rw [text]
    rfl

/-- A text and octets are read as a timestamp. -/
theorem result_timestamp?_of_isTextual (textual : (row.get column).isTextual) {shown : String}
    (text : (row.get column).text? = some shown) :
    (row.timestamp? column).result = .ok (readTimestamp? (strip shown.toList)) := by
  obtain ⟨literal, found⟩ := (Value.spellable_of_isTextual textual).literal?
  unfold Row.timestamp?
  split
  case h_1 null => simp [null, Value.isTextual] at textual
  case h_2 t moment => simp [moment, Value.isTextual] at textual
  case h_3 =>
    rw [text, found, Logged.result_bind_of_ok _ rfl]
    cases readTimestamp? (strip shown.toList) <;> rfl

variable (redelivered : (row.get column).Redelivered (row'.get column))
include redelivered

/-- Texts and their octets read as the same text. -/
theorem text?_redelivered : row.text? column = row'.text? column := by
  by_cases same : row'.get column = row.get column
  · exact (Row.text?_congr same).symm
  · obtain ⟨textual, textual', _⟩ := redelivered.cases_ne same
    rw [Row.text?_of_ne_null (Value.ne_null_of_isTextual textual),
      Row.text?_of_ne_null (Value.ne_null_of_isTextual textual'), redelivered.textOf?_eq]

/-- Texts and their octets read as the same integer. -/
theorem integer?_redelivered : (row.integer? column).result = (row'.integer? column).result := by
  by_cases same : row'.get column = row.get column
  · rw [Row.integer?_congr same]
  · obtain ⟨textual, textual', _⟩ := redelivered.cases_ne same
    rw [result_integer?_of_isTextual textual, result_integer?_of_isTextual textual',
      redelivered.textOf?_eq]

/-- A flag is false if it comes as octets. -/
theorem agree_flag?_redelivered : Agree (misreadFlag row row' column)
    (row.flag? column Row.catalogTrue) (row'.flag? column Row.catalogTrue) := by
  by_cases same : row'.get column = row.get column
  · rw [Row.flag?_congr _ same]
    exact (Agree.of_eq rfl).mono fun b b' equal => ⟨fun _ => equal.symm, fun other => absurd same other⟩
  · obtain ⟨textual, textual', shown, rest, text', begins⟩ := redelivered.cases_ne same
    obtain ⟨text, found⟩ := (Value.spellable_of_isTextual textual).text?
    rw [flag?_of_isTextual textual found, flag?_of_isTextual textual' text']
    refine .ok ⟨fun equal => absurd equal same, fun _ => congrArg some ?_⟩
    -- the literal form of octets begins with `b`, and so it is not the text that stands for true
    obtain ⟨rest', visible⟩ := strip_cons (by decide : isBlank 'b' = false) rest
    rw [stripped, begins, visible, Row.catalogTrue, Value.equal, beq_eq_false_iff_ne]
    intro equal
    have letters := congrArg String.toList equal
    rw [String.toList_ofList] at letters
    cases letters

/-- A timestamp is null if it comes as octets. -/
theorem agree_timestamp?_redelivered : Agree (misreadTimestamp row row' column)
    (row.timestamp? column).result (row'.timestamp? column).result := by
  by_cases same : row'.get column = row.get column
  · rw [Row.timestamp?_congr same]
    exact (Agree.of_eq rfl).mono fun b b' equal => ⟨fun _ => equal.symm, fun other => absurd same other⟩
  · obtain ⟨textual, textual', shown, rest, text', begins⟩ := redelivered.cases_ne same
    obtain ⟨text, found⟩ := (Value.spellable_of_isTextual textual).text?
    rw [result_timestamp?_of_isTextual textual found, result_timestamp?_of_isTextual textual' text']
    refine .ok ⟨fun equal => absurd equal same, fun _ => ?_⟩
    obtain ⟨rest', visible⟩ := strip_cons (by decide : isBlank 'b' = false) rest
    rw [begins, visible, readTimestamp?_b]

/-- Texts and their octets read as the same code. -/
theorem code?_redelivered {α : Type} [CatalogCode α] (codes : UnknownCodes) (padded : Bool)
    (fallback : Option α) :
    row.code? codes column padded fallback = row'.code? codes column padded fallback := by
  simp only [Row.code?, Row.trimmedText?, text?_redelivered redelivered]

end

/-! ### Mapping redelivered rows -/

section
variable {row row' : Row} {source source' : RowSource}

theorem readsAlike_redelivered (related : row.Related (fun _ => Value.Redelivered) row') :
    row.ReadsAlike (misreadFlag row row') (misreadTimestamp row row') row' where
  text column _ := text?_redelivered (related.get_redelivered column)
  integer column _ := integer?_redelivered (related.get_redelivered column)
  flag column _ := agree_flag?_redelivered (related.get_redelivered column)
  time column _ := agree_timestamp?_redelivered (related.get_redelivered column)

theorem codesAlike_redelivered (related : row.Related (fun _ => Value.Redelivered) row')
    (capabilities : Capabilities) (codes : UnknownCodes) :
    row.CodesAlike capabilities codes codes row' := by
  intro c _ α _ fallback _
  rw [code?_redelivered (related.get_redelivered c.name)]

/-- Mappings of a routine agree up to misread flags and timestamps. -/
theorem agree_mapRoutine_redelivered (redelivered : source.Redelivered source') (owner : Owner)
    (capabilities : Capabilities) {options : MappingOptions} (plain : options.overrides = []) :
    Agree
      (Routine.Alike (misreadFlag source.cells source'.cells)
        (misreadTimestamp source.cells source'.cells))
      (mapRoutine source owner capabilities options).result
      (mapRoutine source' owner capabilities options).result := by
  have rows : Agree
      (fun row row' =>
        row.ReadsAlike (misreadFlag source.cells source'.cells)
          (misreadTimestamp source.cells source'.cells) row' ∧
        row.CodesAlike capabilities options.unknownCodes options.unknownCodes row')
      (readRow source) (readRow source') := by
    refine redelivered.readRow.mono ?_
    rintro _ _ ⟨rfl, rfl, related⟩
    exact ⟨readsAlike_redelivered related, codesAlike_redelivered related _ _⟩
  refine agree_mapRoutine rfl rows fun r r' alike => ?_
  rw [plain]
  exact .ok alike

/-- Mappings of a parameter agree up to a misread flag. -/
theorem agree_mapParameter_redelivered (redelivered : source.Redelivered source')
    (codes : UnknownCodes) :
    Agree (Parameter.Alike (misreadFlag source.cells source'.cells)) (mapParameter source codes).result
      (mapParameter source' codes).result := by
  have rows : Agree
      (fun row row' =>
        row.ReadsAlike (misreadFlag source.cells source'.cells)
          (misreadTimestamp source.cells source'.cells) row' ∧
        (row.code? codes "ROWTYPE" false (none : Option ParameterMode)).result =
          (row'.code? codes "ROWTYPE" false none).result)
      (readRow source) (readRow source') := by
    refine redelivered.readRow.mono ?_
    rintro _ _ ⟨rfl, rfl, related⟩
    refine ⟨readsAlike_redelivered related, ?_⟩
    rw [code?_redelivered (related.get_redelivered "ROWTYPE")]
  exact agree_mapParameter rows

/-- The columns that are read as flags or timestamps. -/
def literalColumns : List String :=
  ["DETERMINISTIC", "LOCATOR", "CREATE_TIME", "ALTER_TIME", "LAST_REGEN_TIME"]

end

/-- Mapping a row whose texts are delivered as their octets gives the same failure, or a descriptor that
is the same but for flags and timestamps: a flag that came as a text is false, and a timestamp null. So
nothing changes if the columns of flags and timestamps are left alone. -/
theorem mapRoutine_redelivered (source source' : RowSource) (owner : Owner)
    (capabilities : Capabilities) (options : MappingOptions)
    (redelivered : source.Redelivered source') (plain : options.overrides = []) :
    Agree
        (Routine.Alike (misreadFlag source.cells source'.cells)
          (misreadTimestamp source.cells source'.cells))
        (mapRoutine source owner capabilities options).result
        (mapRoutine source' owner capabilities options).result ∧
      (∀ codes, Agree (Parameter.Alike (misreadFlag source.cells source'.cells))
        (mapParameter source codes).result (mapParameter source' codes).result) ∧
      ((∀ column ∈ literalColumns, source'.cells.get column = source.cells.get column) →
        (mapRoutine source owner capabilities options).result =
            (mapRoutine source' owner capabilities options).result ∧
          ∀ codes, (mapParameter source codes).result = (mapParameter source' codes).result) := by
  have routines := agree_mapRoutine_redelivered redelivered owner capabilities plain
  have parameters := agree_mapParameter_redelivered redelivered
  refine ⟨routines, parameters, fun kept => ⟨?_, fun codes => ?_⟩⟩
  · refine (routines.mono fun r r' alike => ?_).eq
    rw [alike.eq, alike.deterministic.1 (kept _ (by decide)), alike.createdAt.1 (kept _ (by decide)),
      alike.alteredAt.1 (kept _ (by decide)), alike.lastRegeneratedAt.1 (kept _ (by decide))]
  · refine ((parameters codes).mono fun p p' alike => ?_).eq
    rw [alike.eq, alike.isLocator.1 (kept _ (by decide))]

/-- The row of a deterministic routine. -/
def deterministicRow : RowSource :=
  .read ⟨[("ROUTINENAME", .text "PAY"), ("DETERMINISTIC", .text "Y")]⟩

/-- The same row, with the name and the flag as octets. -/
def deterministicRowOctets : RowSource :=
  .read ⟨[("ROUTINENAME", .octets [0x50, 0x41, 0x59]), ("DETERMINISTIC", .octets [0x59])]⟩

theorem deterministicRow_redelivered : deterministicRow.Redelivered deterministicRowOctets :=
  .read (.cons ⟨rfl, .octets "PAY"⟩ (.cons ⟨rfl, .octets "Y"⟩ .nil))

/-- Whether a row is mapped to a deterministic routine. -/
def mappedDeterministic? (source : RowSource) : Option (Option Bool) :=
  ((mapRoutine source .app default .standard).result.toOption).map (·.deterministic)

/-- A deterministic routine is not deterministic any more when its row comes as octets. Its descriptor is
the same otherwise. -/
theorem mapRoutine_redelivered_deterministicRow :
    deterministicRow.Redelivered deterministicRowOctets ∧ MappingOptions.standard.overrides = [] ∧
      ∃ routine, (mapRoutine deterministicRow .app default .standard).result = .ok routine ∧
        routine.deterministic = some true ∧
        (mapRoutine deterministicRowOctets .app default .standard).result =
          .ok { routine with deterministic := some false } := by
  have mapped := (mapRoutine_redelivered deterministicRow deterministicRowOctets .app default .standard
    deterministicRow_redelivered rfl).1
  have deterministic : mappedDeterministic? deterministicRow = some (some true) := by decide +kernel
  refine ⟨deterministicRow_redelivered, rfl, ?_⟩
  unfold mappedDeterministic? at deterministic
  generalize (mapRoutine deterministicRow .app default .standard).result = result at mapped deterministic
  generalize (mapRoutine deterministicRowOctets .app default .standard).result = result' at mapped
  cases mapped with
  | error e => cases deterministic
  | @ok routine routine' alike =>
      have octets : deterministicRowOctets.cells.get "DETERMINISTIC" = .octets [0x59] := rfl
      have text : deterministicRow.cells.get "DETERMINISTIC" = .text "Y" := rfl
      have misread := alike.deterministic.2 (by rw [octets, text]; nofun)
      refine ⟨routine, rfl, Option.some.inj deterministic, congrArg Except.ok ?_⟩
      rw [alike.eq, misread, alike.createdAt.1 rfl, alike.alteredAt.1 rfl, alike.lastRegeneratedAt.1 rfl]

/-- Octets are not read like the text they are the octets of. -/
theorem not_forall_redelivered : ¬ ∀ (source source' : RowSource) (owner : Owner)
    (capabilities : Capabilities) (options : MappingOptions), source.Redelivered source' →
      options.overrides = [] →
        (mapRoutine source owner capabilities options).result =
          (mapRoutine source' owner capabilities options).result := by
  intro unchanged
  have same := unchanged deterministicRow deterministicRowOctets .app default .standard
    deterministicRow_redelivered rfl
  have deterministic : mappedDeterministic? deterministicRow = some (some true) := by decide +kernel
  have not : mappedDeterministic? deterministicRowOctets = some (some false) := by decide +kernel
  rw [mappedDeterministic?, same, ← mappedDeterministic?, not] at deterministic
  cases deterministic

end Syscat
