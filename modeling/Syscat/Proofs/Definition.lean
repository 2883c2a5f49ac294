/-
Module: Syscat.Proofs.Definition
Purpose: What is shown as the definition of a routine that was mapped from a row, and which sources
  are passed to the formatter for it. The language and the text of the row, the formatter and the
  format that is asked for decide on both.
Main exports: AsksFor, asksFor_iff, Shown, Shown.exists, Shown.definition_eq, shown_iff,
  mapRoutine_definition
-/
import Syscat.Definition
import Syscat.Proofs.Mapping.Gating
import Syscat.Proofs.Mapping.Octets
import Syscat.Proofs.Results

namespace Syscat

/-! ### Codes and their members -/

namespace CatalogCode

variable {α : Type} [CatalogCode α]

/-- A code stands for the member that it is stored for, if the members are all in the table and no two
have the same code. -/
theorem ofLiteral?_eq_some_iff (complete : ∀ m : α, m ∈ (members : List α))
    (distinct : ∀ m m' : α, ∀ code, literal? m = some code → literal? m' = some code → m = m')
    {s : String} {m : α} : ofLiteral? s = some m ↔ literal? m = some s := by
  constructor
  · intro found
    simpa using List.find?_some found
  · intro stored
    cases found : (ofLiteral? s : Option α) with
    | none =>
        have missed := List.find?_eq_none.mp found m (complete m)
        simp [stored] at missed
    | some m' =>
        have stored' : literal? m' = some s := by simpa using List.find?_some found
        rw [distinct m' m s stored' stored]

end CatalogCode

/-- The codes of languages are distinct and none of them is missing. -/
theorem RoutineLanguage.ofLiteral?_eq_some_iff {s : String} {language : RoutineLanguage} :
    CatalogCode.ofLiteral? s = some language ↔ CatalogCode.literal? language = some s := by
  apply CatalogCode.ofLiteral?_eq_some_iff
  · intro m
    cases m <;> decide
  · intro m m' code stored stored'
    have same := stored.trans stored'.symm
    cases m <;> cases m' <;> first | rfl | (revert same; decide)

/-- A text stands for the language of routines that have a source only if it is that language's code. -/
theorem RoutineLanguage.known?_eq_sql_iff {raw : Option String} :
    CatalogCode.known? raw = some RoutineLanguage.sql ↔ raw = some "SQL" := by
  cases raw with
  | none =>
      constructor
      · intro found
        cases found
      · intro same
        cases same
  | some s =>
      rw [CatalogCode.known?]
      split
      case isTrue empty =>
        constructor
        · intro found
          cases found
        · rw [empty]
          intro same
          exact absurd same (by decide)
      case isFalse =>
        rw [RoutineLanguage.ofLiteral?_eq_some_iff, eq_comm (a := some s)]
        rfl

/-! ### The format that is asked for -/

/-- A caller's options say nothing about the format. -/
def NameNoFormat (options : Option Fields) : Prop :=
  ∀ fields, options = some fields → fields.value? "format" = none

/-- The format that a caller asks for: that of the options if they name one, or else that of the
settings if there are any, or else the source as it is. -/
inductive AsksFor (options : Option Fields) (settings : Option Settings) : Value → Prop where
  | option {fields : Fields} {format : Value} (given : options = some fields)
      (named : fields.value? "format" = some format) : AsksFor options settings format
  | setting {s : Settings} (unnamed : NameNoFormat options) (configured : settings = some s) :
      AsksFor options settings (.text s.definitionFormat.name)
  | neither (unnamed : NameNoFormat options) (unconfigured : settings = none) :
      AsksFor options settings (.text "as_is")

theorem requestedFormat_of_unnamed {options : Option Fields} (unnamed : NameNoFormat options)
    (settings : Option Settings) : requestedFormat options settings =
      .text ((settings.map Settings.definitionFormat).getD .asIs).name := by
  rw [requestedFormat]
  cases options with
  | none => rfl
  | some fields => rw [Option.getD_some, unnamed fields rfl]

/-- There is always one format that is asked for. -/
theorem asksFor_iff {options : Option Fields} {settings : Option Settings} {format : Value} :
    AsksFor options settings format ↔ format = requestedFormat options settings := by
  constructor
  · intro asked
    cases asked with
    | option given named => rw [requestedFormat, given, Option.getD_some, named]
    | setting unnamed configured =>
        rw [requestedFormat_of_unnamed unnamed, configured]
        rfl
    | neither unnamed unconfigured =>
        rw [requestedFormat_of_unnamed unnamed, unconfigured]
        rfl
  · rintro rfl
    cases named : (options.getD []).value? "format" with
    | some format =>
        cases options with
        | none => cases named
        | some fields =>
            rw [requestedFormat, named]
            exact .option rfl named
    | none =>
        have unnamed : NameNoFormat options := by
          rintro fields rfl
          exact named
        rw [requestedFormat_of_unnamed unnamed]
        cases settings with
        | none => exact .neither unnamed rfl
        | some s => exact .setting unnamed rfl

/-! ### What is shown -/

/-- The failure of a request for a format that there is not. It says which one, if that can be printed. -/
inductive Refused (format : Value) : Failure → Prop where
  | unsupported {literal : String} (shown : format.literal? = some literal) :
      Refused format (.definitionFormat format)
  | unprintable (long : format.literal? = none) : Refused format .longInteger

/-- What is shown of a routine with a language and a source, and the sources that are passed to the
formatter. -/
inductive Shown (language source : Option String) (formatter : Option Formatter) (format : Value) :
    Definition → Prop where
  | foreign (other : language ≠ some "SQL") :
      Shown language source formatter format ⟨.ok (.text noSourceText), []⟩
  | asIs (sql : language = some "SQL") (asked : format = .text "as_is") :
      Shown language source formatter format ⟨.ok (textValue source), []⟩
  | formatted (sql : language = some "SQL") (asked : format = .text "formatted") {apply : Formatter}
      (given : formatter = some apply) {text : String} (held : source = some text) (filled : text ≠ "") :
      Shown language source formatter format ⟨(apply text).mapError .signalled, [text]⟩
  | unformatted (sql : language = some "SQL") (asked : format = .text "formatted")
      (idle : formatter = none ∨ source = none ∨ source = some "") :
      Shown language source formatter format ⟨.ok (textValue source), []⟩
  | refused (sql : language = some "SQL") (notAsIs : format ≠ .text "as_is")
      (notFormatted : format ≠ .text "formatted") {failure : Failure} (cause : Refused format failure) :
      Shown language source formatter format ⟨.error failure, []⟩

/-- Something is shown in every case. -/
theorem Shown.exists (language source : Option String) (formatter : Option Formatter) (format : Value) :
    ∃ d, Shown language source formatter format d := by
  by_cases sql : language = some "SQL"
  case neg => exact ⟨_, .foreign sql⟩
  by_cases asIs : format = .text "as_is"
  · exact ⟨_, .asIs sql asIs⟩
  by_cases formatted : format = .text "formatted"
  · cases formatter with
    | none => exact ⟨_, .unformatted sql formatted (.inl rfl)⟩
    | some apply =>
        cases source with
        | none => exact ⟨_, .unformatted sql formatted (.inr (.inl rfl))⟩
        | some text =>
            by_cases empty : text = ""
            · exact ⟨_, .unformatted sql formatted (.inr (.inr (congrArg some empty)))⟩
            · exact ⟨_, .formatted sql formatted rfl rfl empty⟩
  · cases printed : format.literal? with
    | none => exact ⟨_, .refused sql asIs formatted (.unprintable printed)⟩
    | some literal => exact ⟨_, .refused sql asIs formatted (.unsupported printed)⟩

/-! ### The definition of a routine -/

/-- Only two values name a format. -/
theorem DefinitionFormat.ofValue?_eq_none {v : Value} (notAsIs : v ≠ .text "as_is")
    (notFormatted : v ≠ .text "formatted") : ofValue? v = none := by
  unfold ofValue?
  split
  case h_1 => exact absurd rfl notAsIs
  case h_2 => exact absurd rfl notFormatted
  case h_3 => rfl

/-- Without a formatter or without a source there is nothing to format. -/
theorem formatSource_of_idle {source : Option String} {formatter : Option Formatter}
    (idle : formatter = none ∨ source = none ∨ source = some "") (format : DefinitionFormat) :
    formatSource source format formatter = ⟨.ok (textValue source), []⟩ := by
  rcases idle with rfl | rfl | rfl
  · cases format <;> cases source <;> rfl
  · cases format <;> rfl
  · cases format <;> cases formatter <;> rfl

theorem formatSource_formatted {text : String} (filled : text ≠ "") (apply : Formatter) :
    formatSource (some text) .formatted (some apply) = ⟨(apply text).mapError .signalled, [text]⟩ := by
  rw [formatSource, if_neg filled]

section
variable {routine : Routine} {options : Option Fields} {settings : Option Settings} {format : Value}

theorem definition_of_foreign (other : routine.language ≠ some .sql) (formatter : Option Formatter) :
    definition routine options formatter settings = ⟨.ok (.text noSourceText), []⟩ :=
  if_neg other

variable (sql : routine.language = some .sql) (asked : AsksFor options settings format)
  (formatter : Option Formatter)
include sql asked

theorem definition_of_format {named : DefinitionFormat}
    (known : DefinitionFormat.ofValue? format = some named) :
    definition routine options formatter settings =
      formatSource routine.sourceText named formatter := by
  rw [definition, if_pos sql]
  dsimp only
  rw [← asksFor_iff.mp asked, known]

theorem definition_of_refused (unknown : DefinitionFormat.ofValue? format = none) {failure : Failure}
    (cause : Refused format failure) :
    definition routine options formatter settings = ⟨.error failure, []⟩ := by
  rw [definition, if_pos sql]
  dsimp only
  rw [← asksFor_iff.mp asked, unknown]
  cases cause with
  | unsupported shown => rw [shown]
  | unprintable long => rw [long]

end

section
variable {routine : Routine} {language : Option String} {options : Option Fields}
  {formatter : Option Formatter}
  {settings : Option Settings} {format : Value} {d : Definition}
  (read : routine.language = CatalogCode.known? language) (asked : AsksFor options settings format)
include read asked

/-- What is to be shown is what the definition of the routine gives. -/
theorem Shown.definition_eq (shown : Shown language routine.sourceText formatter format d) :
    definition routine options formatter settings = d := by
  have isSql : routine.language = some .sql ↔ language = some "SQL" := by
    rw [read, RoutineLanguage.known?_eq_sql_iff]
  cases shown with
  | foreign other => exact definition_of_foreign (mt isSql.mp other) formatter
  | asIs sql same =>
      have known : DefinitionFormat.ofValue? format = some .asIs := same ▸ rfl
      rw [definition_of_format (isSql.mpr sql) asked formatter known]
      rfl
  | formatted sql same given held filled =>
      have known : DefinitionFormat.ofValue? format = some .formatted := same ▸ rfl
      rw [definition_of_format (isSql.mpr sql) asked formatter known, given, held,
        formatSource_formatted filled]
  | unformatted sql same idle =>
      have known : DefinitionFormat.ofValue? format = some .formatted := same ▸ rfl
      rw [definition_of_format (isSql.mpr sql) asked formatter known, formatSource_of_idle idle]
  | refused sql notAsIs notFormatted cause =>
      exact definition_of_refused (isSql.mpr sql) asked formatter
        (DefinitionFormat.ofValue?_eq_none notAsIs notFormatted) cause

theorem shown_iff :
    Shown language routine.sourceText formatter format d ↔
      definition routine options formatter settings = d := by
  constructor
  · exact Shown.definition_eq read asked
  · rintro rfl
    obtain ⟨d, shown⟩ := Shown.exists language routine.sourceText formatter format
    exact (shown.definition_eq read asked).symm ▸ shown

end

/-! ### From the row to the definition -/

/-- A code that was read from a padded column is that of the column's text without blanks. -/
theorem Row.exists_known?_of_code? {α : Type} [CatalogCode α] {row : Row} {codes : UnknownCodes}
    {column : String} {found : Option α} (read : (row.code? codes column true none).result = .ok found) :
    ∃ raw, row.trimmedText? column = .ok raw ∧ found = CatalogCode.known? raw := by
  have known := Row.eq_known?_of_code? read
  rw [Option.or_none] at known
  rcases Row.codeText_eq row column true with ok | ⟨long, _⟩
  · exact ⟨_, ok, known⟩
  · rw [Row.result_code?_of_error long] at read
    cases read

/-- The language and the source of a routine are those of its row. -/
theorem source_readRoutine {row : Row} {name qualifiedName : FilledText} {container : Container}
    {schema : Schema} {capabilities : Capabilities} {codes : UnknownCodes} {routine : Routine}
    (read : (readRoutine row name qualifiedName container schema capabilities codes).result =
      .ok routine) :
    (∃ language, row.trimmedText? "LANGUAGE" = .ok language ∧
      routine.language = CatalogCode.known? language) ∧
    row.text? "TEXT" = .ok routine.sourceText := by
  obtain ⟨readFrom, _⟩ := readRoutine_eq_ok read
  have details := readFrom.details
  have provenance := readFrom.provenance
  simp only [Row.details, Row.provenance, Logged.result_bind, Logged.result_ofExcept, Logged.result_pure,
    bind_eq_ok_iff, Except.ok.injEq, Provenance.mk.injEq, RoutineDetails.mk.injEq] at details provenance
  obtain ⟨origin, _, language, readLanguage, validity, _, _, sameLanguage, _⟩ := provenance
  obtain ⟨text, readText, externalName, _, style, _, deterministic, _, resultSets, _, debugMode, _,
    remarks, _, createdAt, _, alteredAt, _, regeneratedAt, _, ownerName, _, sameText, _⟩ := details
  exact ⟨sameLanguage ▸ Row.exists_known?_of_code? readLanguage, sameText ▸ readText⟩

/-- A text that was delivered as it is or as its octets is read unchanged. -/
theorem Row.text?_of_redelivered {row : Row} {column s : String}
    (given : (Value.text s).Redelivered (row.get column)) : row.text? column = .ok (some s) := by
  have filled : row.get column ≠ .null := by
    intro null
    rw [null] at given
    cases given
  rw [Row.text?_of_ne_null filled, given.textOf?_eq]
  rfl

theorem Row.trimmedText?_of_redelivered {row : Row} {column s : String}
    (given : (Value.text s).Redelivered (row.get column)) :
    row.trimmedText? column = .ok (some (stripped s)) := by
  rw [Row.trimmedText?, Row.text?_of_redelivered given]
  rfl

/-- The definition of a routine that was mapped from a row depends on the row through the text of its
language without blanks and the text of its source only. -/
theorem mapRoutine_definition {source : RowSource} {owner : Owner} {capabilities : Capabilities}
    {options : MappingOptions} {routine : Routine} (plain : options.overrides = [])
    (mapped : (mapRoutine source owner capabilities options).result = .ok routine) :
    ∃ row language text, readRow source = .ok row ∧ row.trimmedText? "LANGUAGE" = .ok language ∧
      row.text? "TEXT" = .ok text ∧
      (∀ s, (Value.text s).Redelivered (row.get "TEXT") → text = some s) ∧
      ∀ (request : Option Fields) (formatter : Option Formatter) (settings : Option Settings)
        (format : Value), AsksFor request settings format →
        ∀ d, Shown language text formatter format d ↔
          definition routine request formatter settings = d := by
  simp only [mapRoutine_eq, NamedRow.describe, plain, overrideFields_nil, Logged.result_bind,
    Logged.result_ofExcept, Logged.result_mapFailure, mapError_eq_ok_iff, bind_eq_ok_iff] at mapped
  obtain ⟨subject, identified, qualifiedName, _, found, read, same⟩ := mapped
  cases same
  obtain ⟨rowRead, _, _⟩ := readNamedRow_eq_ok identified
  obtain ⟨⟨language, readLanguage, known⟩, readText⟩ := source_readRoutine read
  refine ⟨subject.row, language, routine.sourceText, rowRead, readLanguage, readText, ?_, ?_⟩
  · intro s given
    rw [Row.text?_of_redelivered given] at readText
    exact (Except.ok.inj readText).symm
  · intro request formatter settings format asked d
    exact shown_iff known asked

/-- A row of a procedure with a source, which comes as octets, in a language. -/
def procedureRow (language : String) : RowSource :=
  .read ⟨[("ROUTINENAME", .text "P1"), ("LANGUAGE", .text language),
    ("TEXT", .octets (utf8Encode "BEGIN\n  END ".toList))]⟩

/-- A formatter that puts a line in front. -/
def headed : Formatter := fun text =>
  .ok (.text ("-- source\n" ++ text))

/-- The source of a procedure in SQL is formatted once. An unknown language that is tolerated has no
source to show, even for a format that there is not. -/
theorem mapRoutine_definition_procedure :
    (∃ routine, (mapRoutine (procedureRow "SQL     ") .app default .standard).result = .ok routine ∧
      definition routine (some [("format", .text "formatted")]) (some headed) (some .standard) =
        ⟨.ok (.text "-- source\nBEGIN\n  END "), ["BEGIN\n  END "]⟩) ∧
    ∃ routine, (mapRoutine (procedureRow "FORTH") .app default
        { MappingOptions.standard with policy := some "lenient" }).result = .ok routine ∧
      definition routine (some [("format", .integer 1)]) (some headed) none =
        ⟨.ok (.text noSourceText), []⟩ := by
  constructor
  · have success : (mapRoutine (procedureRow "SQL     ") .app default
      .standard).result.toOption.isSome := by
      decide +kernel
    obtain ⟨routine, mapped⟩ := exists_eq_ok_of_isSome success
    obtain ⟨row, language, text, rowRead, readLanguage, _, unchanged, shown⟩ :=
      mapRoutine_definition rfl mapped
    cases rowRead
    have padded : stripped "SQL     " = "SQL" := by decide +kernel
    rw [Row.trimmedText?_of_redelivered (.same _), padded] at readLanguage
    have sql : language = some "SQL" := (Except.ok.inj readLanguage).symm
    have held : text = some "BEGIN\n  END " := unchanged _ (.octets _)
    refine ⟨routine, mapped, ?_⟩
    exact (shown _ _ _ _ (.option rfl rfl) _).mp (.formatted sql rfl rfl held (by decide))
  · have success : (mapRoutine (procedureRow "FORTH") .app default
        { MappingOptions.standard with policy := some "lenient" }).result.toOption.isSome := by
      decide +kernel
    obtain ⟨routine, mapped⟩ := exists_eq_ok_of_isSome success
    obtain ⟨row, language, text, rowRead, readLanguage, _, _, shown⟩ := mapRoutine_definition rfl mapped
    cases rowRead
    have unpadded : stripped "FORTH" = "FORTH" := by decide +kernel
    rw [Row.trimmedText?_of_redelivered (.same _), unpadded] at readLanguage
    have foreign : language ≠ some "SQL" := by
      cases readLanguage
      decide
    refine ⟨routine, mapped, ?_⟩
    exact (shown _ _ _ _ (.option rfl rfl) _).mp (.foreign foreign)

end Syscat
