/-
Module: Syscat.Proofs.Mapping.TwoRuns
Purpose: Two mappings side by side. Two rows may differ in the flags and the timestamps that are read from
  them, by given relations, and they may be mapped under different treatments of unknown codes, as long as
  the code columns that are consulted read alike. The descriptors then differ in these fields only.
Main exports: Row.ReadsAlike, Row.CodesAlike, Routine.Alike, Parameter.Alike, agree_readRoutine,
  agree_mapRoutine, agree_mapParameter
-/
import Syscat.Proofs.Mapping.Failures

namespace Syscat

/-- How what is read from a column of one row is related to what is read from that of another. -/
abbrev ReadingRelation (α : Type) := String → Option α → Option α → Prop

/-- The columns of both views that hold no codes. -/
def plainColumns : List String :=
  ["ROUTINENAME", "DIALECT", "JAR_ID", "JARSCHEMA", "JAR_SIGNATURE", "CLASS", "SPECIFICNAME", "ROUTINEID",
    "TEXT", "IMPLEMENTATION", "PARAMETER_STYLE", "DETERMINISTIC", "RESULT_SETS", "DEBUG_MODE", "REMARKS",
    "CREATE_TIME", "ALTER_TIME", "LAST_REGEN_TIME", "OWNER", "ORDINAL", "PARMNAME", "TYPESCHEMA",
    "TYPENAME", "LENGTH", "SCALE", "CODEPAGE", "LOCATOR", "DEFAULT"]

/-! ### What is related -/

/-- Two rows read alike in the columns without codes, flags and timestamps up to relations. -/
structure Row.ReadsAlike (flags : ReadingRelation Bool) (times : ReadingRelation Timestamp)
    (row row' : Row) : Prop where
  text : ∀ column ∈ plainColumns, row.text? column = row'.text? column
  integer : ∀ column ∈ plainColumns, (row.integer? column).result = (row'.integer? column).result
  flag : ∀ column ∈ plainColumns,
    Agree (flags column) (row.flag? column catalogTrue) (row'.flag? column catalogTrue)
  time : ∀ column ∈ plainColumns,
    Agree (times column) (row.timestamp? column).result (row'.timestamp? column).result

/-- Two rows read alike in the code columns of a routine that are consulted, each under its own treatment
of unknown codes. -/
def Row.CodesAlike (capabilities : Capabilities) (codes codes' : UnknownCodes) (row row' : Row) : Prop :=
  ∀ c : CodeColumn, row.consults capabilities c = true →
    ∀ (α : Type) [CatalogCode α] (fallback : Option α), c.codes = CatalogCode.codes α →
      (row.code? codes c.name c.padded fallback).result =
        (row'.code? codes' c.name c.padded fallback).result

/-- Two sets of details are the same up to flags and timestamps. -/
structure RoutineDetails.Alike (flags : ReadingRelation Bool) (times : ReadingRelation Timestamp)
    (d d' : RoutineDetails) : Prop where
  eq : d' = { d with
    deterministic := d'.deterministic, createdAt := d'.createdAt, alteredAt := d'.alteredAt,
    lastRegeneratedAt := d'.lastRegeneratedAt }
  deterministic : flags "DETERMINISTIC" d.deterministic d'.deterministic
  createdAt : times "CREATE_TIME" d.createdAt d'.createdAt
  alteredAt : times "ALTER_TIME" d.alteredAt d'.alteredAt
  lastRegeneratedAt : times "LAST_REGEN_TIME" d.lastRegeneratedAt d'.lastRegeneratedAt

/-- Two descriptors of a routine are the same up to flags and timestamps. -/
structure Routine.Alike (flags : ReadingRelation Bool) (times : ReadingRelation Timestamp)
    (r r' : Routine) : Prop where
  eq : r' = { r with
    deterministic := r'.deterministic, createdAt := r'.createdAt, alteredAt := r'.alteredAt,
    lastRegeneratedAt := r'.lastRegeneratedAt }
  deterministic : flags "DETERMINISTIC" r.deterministic r'.deterministic
  createdAt : times "CREATE_TIME" r.createdAt r'.createdAt
  alteredAt : times "ALTER_TIME" r.alteredAt r'.alteredAt
  lastRegeneratedAt : times "LAST_REGEN_TIME" r.lastRegeneratedAt r'.lastRegeneratedAt

/-- Two descriptors of a parameter are the same up to the flag. -/
structure Parameter.Alike (flags : ReadingRelation Bool) (p p' : Parameter) : Prop where
  eq : p' = { p with isLocator := p'.isLocator }
  isLocator : flags "LOCATOR" p.isLocator p'.isLocator

/-! ### Reading two rows -/

section
variable {flags : ReadingRelation Bool} {times : ReadingRelation Timestamp} {row row' : Row}

theorem Row.ReadsAlike.trimmedText (alike : row.ReadsAlike flags times row') {column : String}
    (plain : column ∈ plainColumns) : row.trimmedText? column = row'.trimmedText? column := by
  rw [Row.trimmedText?, Row.trimmedText?, alike.text column plain]

theorem agree_details (alike : row.ReadsAlike flags times row') :
    Agree (RoutineDetails.Alike flags times) row.details.result row'.details.result := by
  simp only [Row.details, Logged.result_bind, Logged.result_ofExcept, Logged.result_pure]
  refine .bind_eq (alike.text _ (by decide)) fun sourceText _ => ?_
  refine .bind_eq (alike.text _ (by decide)) fun externalName _ => ?_
  refine .bind_eq (alike.trimmedText (by decide)) fun parameterStyle _ => ?_
  refine .bind (alike.flag _ (by decide)) fun deterministic deterministic' isDeterministic => ?_
  refine .bind_eq (alike.integer _ (by decide)) fun resultSets _ => ?_
  refine .bind_eq (alike.text _ (by decide)) fun debugMode _ => ?_
  refine .bind_eq (alike.text _ (by decide)) fun remarks _ => ?_
  refine .bind (alike.time _ (by decide)) fun createdAt createdAt' created => ?_
  refine .bind (alike.time _ (by decide)) fun alteredAt alteredAt' altered => ?_
  refine .bind (alike.time _ (by decide)) fun lastRegeneratedAt lastRegeneratedAt' regenerated => ?_
  refine .bind_eq (alike.text _ (by decide)) fun ownerName _ => ?_
  exact .ok ⟨rfl, isDeterministic, created, altered, regenerated⟩

theorem readJavaBinding_alike (alike : row.ReadsAlike flags times row') :
    readJavaBinding row = readJavaBinding row' := by
  rw [readJavaBinding, readJavaBinding, alike.text "JAR_ID" (by decide),
    alike.text "JARSCHEMA" (by decide), alike.text "JAR_SIGNATURE" (by decide),
    alike.text "CLASS" (by decide)]

theorem routineName_alike (alike : row.ReadsAlike flags times row') :
    routineName row = routineName row' := by
  rw [routineName, routineName, alike.text "ROUTINENAME" (by decide)]

variable {capabilities : Capabilities} {codes codes' : UnknownCodes}

/-- A code column that is read on a condition reads alike if it is consulted then. -/
theorem Row.CodesAlike.onlyIf (alike : row.CodesAlike capabilities codes codes' row') {α : Type}
    [CatalogCode α] (c : CodeColumn) (fallback : Option α) (condition : Bool)
    (consulted : condition = row.consults capabilities c) (literals : c.codes = CatalogCode.codes α) :
    (Logged.onlyIf condition (row.code? codes c.name c.padded fallback)).result =
      (Logged.onlyIf condition (row'.code? codes' c.name c.padded fallback)).result := by
  cases condition with
  | false => rfl
  | true => exact alike c consulted.symm α fallback literals

theorem agree_classification (alike : row.ReadsAlike flags times row')
    (codesAlike : row.CodesAlike capabilities codes codes' row') :
    Agree Eq (row.classification capabilities codes).result
      (row'.classification capabilities codes').result := by
  simp only [Row.classification, Logged.result_bind, Logged.result_pure]
  refine .bind_eq (codesAlike.onlyIf .kind none true rfl rfl) fun kind read => ?_
  refine .bind_eq (codesAlike.onlyIf .ownerType none _ rfl rfl) fun ownerType _ => ?_
  refine .bind_eq ?_ fun dialect _ => ?_
  · simp only [Logged.result_onlyIf, Logged.result_ofExcept, alike.text "DIALECT" (by decide)]
  -- both runs have read the same kind, so they consult the subtype together
  have consulted := Row.consults_functionSubtype capabilities read
  refine .bind_eq (codesAlike.onlyIf .functionSubtype none _ consulted rfl) fun functionSubtype _ => ?_
  exact .ok rfl

theorem agree_provenance (codesAlike : row.CodesAlike capabilities codes codes' row') :
    Agree Eq (row.provenance codes).result (row'.provenance codes').result := by
  simp only [Row.provenance, Logged.result_bind, Logged.result_pure]
  refine .bind_eq (codesAlike.onlyIf .origin none true rfl rfl) fun origin _ => ?_
  refine .bind_eq (codesAlike.onlyIf .language none true rfl rfl) fun language _ => ?_
  refine .bind_eq (codesAlike.onlyIf .validity (some ValidityState.unknown) true rfl rfl)
    fun validity _ => ?_
  exact .ok rfl

theorem agree_readRoutine (alike : row.ReadsAlike flags times row')
    (codesAlike : row.CodesAlike capabilities codes codes' row') (name qualifiedName : FilledText)
    (container : Container) (schema : Schema) :
    Agree (Routine.Alike flags times)
      (readRoutine row name qualifiedName container schema capabilities codes).result
      (readRoutine row' name qualifiedName container schema capabilities codes').result := by
  simp only [readRoutine, Logged.result_bind, Logged.result_ofExcept, Logged.result_pure]
  refine .bind_eq (agree_classification alike codesAlike).eq fun classification _ => ?_
  refine .bind_eq (readJavaBinding_alike alike) fun javaBinding _ => ?_
  refine .bind_eq (alike.text _ (by decide)) fun specificName _ => ?_
  refine .bind_eq (alike.integer _ (by decide)) fun routineId _ => ?_
  refine .bind_eq (agree_provenance codesAlike).eq fun provenance _ => ?_
  refine .bind (agree_details alike) fun details details' related => ?_
  obtain ⟨eq, deterministic, created, altered, regenerated⟩ := related
  rw [eq]
  exact .ok ⟨rfl, deterministic, created, altered, regenerated⟩

end

/-! ### Mapping two rows -/

theorem RowSource.Related.unsupported? {R : ColumnRelation} {source source' : RowSource}
    (related : source.Related R source') : source.unsupported? = source'.unsupported? := by
  cases related with
  | carried carrier entries => rfl
  | read rows => rfl
  | table entries => rfl
  | value noRow => rfl

/-- Related sources are read into related rows, or both are no rows. -/
theorem RowSource.Related.readRow {R : ColumnRelation} {source source' : RowSource}
    (related : source.Related R source') :
    Agree (fun row row' => source.cells = row ∧ source'.cells = row' ∧ row.Related R row')
      (Syscat.readRow source) (Syscat.readRow source') := by
  cases unsupported : source.unsupported? with
  | some v =>
      rw [readRow_of_unsupported unsupported,
        readRow_of_unsupported (related.unsupported?.symm.trans unsupported)]
      exact .error _
  | none =>
      rw [readRow_of_supported unsupported,
        readRow_of_supported (related.unsupported?.symm.trans unsupported)]
      have rows := related.row
      unfold RowSource.cells
      generalize source.row = read at rows ⊢
      generalize source'.row = read' at rows ⊢
      cases rows with
      | ok rowsRelated => exact .ok ⟨rfl, rfl, rowsRelated⟩
      | error e => exact .error e

section
variable {flags : ReadingRelation Bool} {times : ReadingRelation Timestamp}
  {source source' : RowSource} {owner : Owner} {capabilities : Capabilities}

/-- Two rows that are asked for the same routine. -/
structure NamedRow.Alike (R : Row → Row → Prop) (subject subject' : NamedRow) : Prop where
  eq : subject' = { subject with row := subject'.row }
  row : R subject.row subject'.row

theorem agree_readNamedRow {R : Row → Row → Prop} (rows : Agree R (readRow source) (readRow source'))
    (alike : ∀ row row', R row row' → row.ReadsAlike flags times row') :
    Agree (NamedRow.Alike R) (readNamedRow source owner) (readNamedRow source' owner) := by
  refine rows.bind fun row row' related => ?_
  refine .bind_eq (routineName_alike (alike row row' related)) fun name _ => ?_
  refine .bind_eq rfl fun found _ => ?_
  exact .ok ⟨rfl, related⟩

/-- Two mappings with the same naming rule go the same way, and end alike if overriding fields of alike
descriptors does. -/
theorem agree_mapRoutine {options options' : MappingOptions} {S : Routine → Routine → Prop}
    (naming : options.naming = options'.naming)
    (rows : Agree
      (fun row row' => row.ReadsAlike flags times row' ∧
        row.CodesAlike capabilities options.unknownCodes options'.unknownCodes row')
      (readRow source) (readRow source'))
    (overridden : ∀ r r', r.Alike flags times r' →
      Agree S (overrideFields options.overrides r) (overrideFields options'.overrides r')) :
    Agree S (mapRoutine source owner capabilities options).result
      (mapRoutine source' owner capabilities options').result := by
  simp only [mapRoutine_eq, Logged.result_bind, Logged.result_ofExcept]
  refine (agree_readNamedRow rows fun _ _ related => related.1).bind fun subject subject' related => ?_
  obtain ⟨eq, alike, codesAlike⟩ := related
  rw [eq, ← naming]
  simp only [NamedRow.describe, Logged.result_mapFailure, Logged.result_bind, Logged.result_ofExcept]
  refine Agree.mapError ?_ _
  refine .bind_eq rfl fun qualifiedName _ => ?_
  refine .bind (agree_readRoutine alike codesAlike _ _ _ _) fun r r' routines => ?_
  exact overridden r r' routines

/-- Two mappings of a parameter go the same way. -/
theorem agree_mapParameter {codes codes' : UnknownCodes}
    (rows : Agree
      (fun row row' => row.ReadsAlike flags times row' ∧
        (row.code? codes "ROWTYPE" false (none : Option ParameterMode)).result =
          (row'.code? codes' "ROWTYPE" false none).result)
      (readRow source) (readRow source')) :
    Agree (Parameter.Alike flags) (mapParameter source codes).result
      (mapParameter source' codes').result := by
  simp only [mapParameter, Logged.result_bind, Logged.result_ofExcept]
  refine rows.bind fun row row' ⟨alike, modes⟩ => ?_
  refine .bind_eq (alike.integer _ (by decide)) fun ordinal _ => ?_
  cases ordinal with
  | none => exact .error _
  | some ordinal =>
      simp only [Logged.result_bind, Logged.result_ofExcept, Logged.result_pure]
      refine .bind_eq (alike.text _ (by decide)) fun name _ => ?_
      refine .bind_eq modes fun mode _ => ?_
      refine .bind_eq (alike.trimmedText (by decide)) fun typeSchema _ => ?_
      refine .bind_eq (alike.trimmedText (by decide)) fun typeName _ => ?_
      refine .bind_eq (alike.integer _ (by decide)) fun length _ => ?_
      refine .bind_eq (alike.integer _ (by decide)) fun scale _ => ?_
      refine .bind_eq (alike.integer _ (by decide)) fun codepage _ => ?_
      refine .bind (alike.flag _ (by decide)) fun isLocator isLocator' locators => ?_
      refine .bind_eq (alike.text _ (by decide)) fun defaultValue _ => ?_
      refine .bind_eq (alike.text _ (by decide)) fun remarks _ => ?_
      exact .ok ⟨rfl, locators⟩

end

end Syscat
