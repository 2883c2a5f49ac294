/-
Module: Syscat.Proofs.Mapping.Lenient
Purpose: The lenient treatment of unknown codes. Mapping a row leniently is mapping it strictly after its
  unknown codes have been replaced by null, in the columns that are consulted. So no unknown code makes a
  lenient mapping fail, and where the strict treatment gives a descriptor, the lenient one gives the same.
Main exports: RowSource.nulled, RowSource.withoutUnknownCodes, RowSource.withoutUnknownMode,
  mapRoutine_lenient
-/
import Syscat.Proofs.Mapping.TwoRuns

namespace Syscat

/-! ### Rows with null in some columns -/

/-- The value of a column after some columns were set to null. -/
def nulledIn (columns : List String) (column : String) (v : Value) : Value :=
  if column ∈ columns then .null else v

/-- The row with null in some columns, which are given by their names in upper case. -/
def Row.nulled (columns : List String) (row : Row) : Row :=
  ⟨row.cells.map fun cell => (cell.1, nulledIn columns cell.1 cell.2)⟩

/-- An entry that is null if its key names one of some columns. -/
def nulledEntry (columns : List String) (entry : Value × Value) : Value × Value :=
  match entry.1.text? with
  | some name => (entry.1, nulledIn columns (uppercased name) entry.2)
  | none => entry

/-- What a caller passes as a row, with null in some columns. -/
def RowSource.nulled (columns : List String) : RowSource → RowSource
  | carried carrier entries => carried carrier (entries.map (nulledEntry columns))
  | read row => read (row.nulled columns)
  | value (.table entries) => value (.table (entries.map (nulledEntry columns)))
  | value v => value v

/-- The columns of a routine that are consulted and hold unknown codes. -/
def Row.unknownColumns (row : Row) (capabilities : Capabilities) : List String :=
  (CodeColumn.inOrder.filter fun c => (row.fault? capabilities c).isSome).map CodeColumn.name

/-- The row of a routine with its unknown codes replaced by null. -/
def RowSource.withoutUnknownCodes (source : RowSource) (capabilities : Capabilities) : RowSource :=
  source.nulled (source.cells.unknownColumns capabilities)

/-- The unknown code that the row of a parameter holds for its mode, if it does. -/
def Row.unknownMode? (row : Row) : Option String :=
  CatalogCode.unknownText? (CatalogCode.codes ParameterMode) (row.codeText "ROWTYPE" false)

/-- The row of a parameter with an unknown code for its mode replaced by null. -/
def RowSource.withoutUnknownMode (source : RowSource) : RowSource :=
  source.nulled (if source.cells.unknownMode?.isSome then ["ROWTYPE"] else [])

section
variable {columns : List String}

/-- How the values of two rows are related of which one has null in some columns. -/
abbrev NulledIn (columns : List String) : ColumnRelation :=
  fun column v v' => v' = nulledIn columns column v

theorem entriesRelated_nulledEntry (entry : Value × Value) :
    EntriesRelated (NulledIn columns) entry (nulledEntry columns entry) := by
  unfold nulledEntry
  split
  case h_1 name text =>
    refine ⟨rfl, fun other same => ?_⟩
    rw [text] at same
    rw [← Option.some.inj same]
  case h_2 none => exact ⟨rfl, fun name text => by rw [none] at text; cases text⟩

theorem RowSource.related_nulled (columns : List String) (source : RowSource) :
    source.Related (NulledIn columns) (source.nulled columns) := by
  have entriesRelated : ∀ entries : List (Value × Value),
      List.Forall₂ (EntriesRelated (NulledIn columns)) entries (entries.map (nulledEntry columns)) :=
    fun entries => List.forall₂_map_right_iff.mpr
      (List.forall₂_same.mpr fun entry _ => entriesRelated_nulledEntry entry)
  unfold RowSource.nulled
  split
  case h_1 carrier entries => exact .carried carrier (entriesRelated entries)
  case h_2 row =>
    exact .read (List.forall₂_map_right_iff.mpr (List.forall₂_same.mpr fun cell _ => ⟨rfl, rfl⟩))
  case h_3 entries => exact .table (entriesRelated entries)
  case h_4 v noTable => exact .value noTable

/-- A column of a row with null in some columns is null or what it was. -/
theorem Row.Related.get_nulled {row row' : Row} (related : row.Related (NulledIn columns) row')
    (column : String) : row'.get column = nulledIn columns (uppercased column) (row.get column) := by
  rcases related.get column with ⟨null, null'⟩ | same
  · rw [null, null', nulledIn]
    split <;> rfl
  · exact same

end

/-! ### What such rows read as -/

section
variable {columns : List String} {row row' : Row}

/-- The columns that can hold unknown codes. -/
def codeColumns : List String := "ROWTYPE" :: CodeColumn.inOrder.map CodeColumn.name

theorem uppercased_of_plain : ∀ column ∈ plainColumns, uppercased column ∉ codeColumns := by
  decide +kernel

theorem uppercased_codeColumn : ∀ column ∈ codeColumns, uppercased column = column := by
  decide +kernel

/-- A row with null in code columns reads like before in the others. -/
theorem readsAlike_nulled (related : row.Related (NulledIn columns) row')
    (codeOnly : ∀ column ∈ columns, column ∈ codeColumns) :
    row.ReadsAlike (fun _ => Eq) (fun _ => Eq) row' := by
  have same : ∀ column ∈ plainColumns, row'.get column = row.get column := by
    intro column plain
    rw [related.get_nulled, nulledIn, if_neg]
    exact fun inside => uppercased_of_plain column plain (codeOnly _ inside)
  refine ⟨fun column plain => (Row.text?_congr (same column plain)).symm,
    fun column plain => ?_, fun column plain => ?_, fun column plain => ?_⟩
  · rw [Row.integer?_congr (same column plain)]
  · exact .of_eq (Row.flag?_congr _ (same column plain)).symm
  · exact .of_eq (by rw [Row.timestamp?_congr (same column plain)])

/-- A code column reads leniently what it reads strictly with null in the place of an unknown code. -/
theorem result_code?_nulled {α : Type} [CatalogCode α] (related : row.Related (NulledIn columns) row')
    {column : String} {padded : Bool} (fallback : Option α) (code : column ∈ codeColumns)
    (unknown : column ∈ columns ↔
      (CatalogCode.unknownText? (CatalogCode.codes α) (row.codeText column padded)).isSome) :
    (row.code? .lenient column padded fallback).result =
      (row'.code? .strict column padded fallback).result := by
  refine Row.result_code?_lenient fallback (fun text found => ?_) fun none => ?_
  · rw [related.get_nulled, uppercased_codeColumn column code, nulledIn, if_pos]
    exact unknown.mpr (found ▸ rfl)
  · rw [related.get_nulled, uppercased_codeColumn column code, nulledIn, if_neg]
    intro inside
    have found := unknown.mp inside
    rw [none] at found
    cases found

/-- The columns of a routine with unknown codes are those that are consulted and hold one. -/
theorem mem_unknownColumns {capabilities : Capabilities} (c : CodeColumn) :
    c.name ∈ row.unknownColumns capabilities ↔ (row.fault? capabilities c).isSome := by
  rw [Row.unknownColumns, List.mem_map_of_injective CodeColumn.name_injective, List.mem_filter]
  exact and_iff_right (CodeColumn.mem_inOrder c)

theorem codesAlike_nulled {capabilities : Capabilities}
    (related : row.Related (NulledIn (row.unknownColumns capabilities)) row') :
    row.CodesAlike capabilities .lenient .strict row' := by
  intro c consulted α _ fallback literals
  -- a column that is consulted was set to null exactly if it holds an unknown code
  refine result_code?_nulled related fallback ?_ ?_
  · cases c <;> decide
  · rw [mem_unknownColumns, Row.fault?, if_pos consulted, ← literals]
    rfl

theorem unknownColumns_codeColumns {capabilities : Capabilities} :
    ∀ column ∈ row.unknownColumns capabilities, column ∈ codeColumns := by
  intro column inside
  obtain ⟨c, _, rfl⟩ := List.mem_map.mp inside
  exact List.mem_cons_of_mem _ (List.mem_map_of_mem (CodeColumn.mem_inOrder c))

end

/-! ### Strict and lenient mappings of one row -/

/-- Whatever the first computation gives, the second gives too. -/
def Logged.Refines {α : Type} (x y : Logged α) : Prop :=
  ∀ a, x.result = .ok a → y.result = .ok a

section
variable {α β : Type}

theorem Logged.Refines.refl (x : Logged α) : x.Refines x := fun _ ok => ok

theorem Logged.Refines.bind {x y : Logged α} {f g : α → Logged β} (first : x.Refines y)
    (next : ∀ a, (f a).Refines (g a)) : (x >>= f).Refines (y >>= g) := by
  intro b ok
  rw [Logged.result_bind, bind_eq_ok_iff] at ok ⊢
  obtain ⟨a, given, ok⟩ := ok
  exact ⟨a, first a given, next a b ok⟩

theorem Logged.Refines.onlyIf {x y : Logged (Option α)} (condition : Bool) (refines : x.Refines y) :
    (Logged.onlyIf condition x).Refines (Logged.onlyIf condition y) := by
  cases condition
  · exact .refl _
  · exact refines

end

section
variable {α : Type} [CatalogCode α] {row : Row}

theorem refines_code? (column : String) (padded : Bool) (fallback : Option α) :
    (row.code? .strict column padded fallback).Refines (row.code? .lenient column padded fallback) := by
  refine .bind (.refl _) fun raw found ok => ?_
  rw [CatalogCode.result_readCode_strict] at ok
  rw [CatalogCode.result_readCode_lenient]
  split at ok
  case h_1 => cases ok
  case h_2 => exact ok

end

section
variable {row : Row} {source : RowSource} {owner : Owner} {capabilities : Capabilities}

theorem refines_classification :
    (row.classification capabilities .strict).Refines (row.classification capabilities .lenient) := by
  refine (refines_code? _ _ _).bind fun kind => ?_
  refine ((refines_code? _ _ _).onlyIf _).bind fun ownerType => ?_
  refine .bind (.refl _) fun dialect => ?_
  refine ((refines_code? _ _ _).onlyIf _).bind fun functionSubtype => ?_
  exact .refl _

theorem refines_provenance : (row.provenance .strict).Refines (row.provenance .lenient) := by
  refine (refines_code? _ _ _).bind fun origin => ?_
  refine (refines_code? _ _ _).bind fun language => ?_
  refine (refines_code? _ _ _).bind fun validity => ?_
  exact .refl _

theorem refines_readRoutine (name qualifiedName : FilledText) (container : Container)
    (schema : Schema) :
    (readRoutine row name qualifiedName container schema capabilities .strict).Refines
      (readRoutine row name qualifiedName container schema capabilities .lenient) := by
  refine refines_classification.bind fun classification => ?_
  refine .bind (.refl _) fun javaBinding => ?_
  refine .bind (.refl _) fun specificName => ?_
  refine .bind (.refl _) fun routineId => ?_
  refine refines_provenance.bind fun provenance => ?_
  exact .refl _

/-- Where the strict treatment gives a descriptor, the lenient one gives the same. -/
theorem refines_mapRoutine {options strict : MappingOptions} (lenient : options.unknownCodes = .lenient)
    (strictly : strict.unknownCodes = .strict) (naming : options.naming = strict.naming)
    (overrides : options.overrides = strict.overrides) :
    (mapRoutine source owner capabilities strict).Refines
      (mapRoutine source owner capabilities options) := by
  rw [mapRoutine_eq, mapRoutine_eq, lenient, strictly, naming, overrides]
  refine .bind (.refl _) fun subject routine ok => ?_
  rw [NamedRow.describe, Logged.result_mapFailure, mapError_eq_ok_iff] at ok ⊢
  refine Logged.Refines.bind (.refl _) (fun qualifiedName => ?_) routine ok
  exact (refines_readRoutine _ _ _ _).bind fun read => .refl _

theorem refines_mapParameter :
    (mapParameter source .strict).Refines (mapParameter source .lenient) := by
  refine .bind (.refl _) fun row => ?_
  refine .bind (.refl _) fun ordinal => ?_
  cases ordinal with
  | none => exact .refl _
  | some ordinal =>
      refine .bind (.refl _) fun name => ?_
      refine (refines_code? _ _ _).bind fun mode => ?_
      exact .refl _

end

/-! ### What a lenient mapping comes to -/

section
variable {source : RowSource} {owner : Owner} {capabilities : Capabilities}

/-- The two rows of a routine read alike. -/
theorem agree_readRow_withoutUnknownCodes (source : RowSource) (capabilities : Capabilities) :
    Agree
      (fun row row' => row.ReadsAlike (fun _ => Eq) (fun _ => Eq) row' ∧
        row.CodesAlike capabilities .lenient .strict row')
      (readRow source) (readRow (source.withoutUnknownCodes capabilities)) := by
  have rows := (source.related_nulled (source.cells.unknownColumns capabilities)).readRow
  refine rows.mono fun row row' ⟨same, _, related⟩ => ?_
  subst same
  exact ⟨readsAlike_nulled related unknownColumns_codeColumns, codesAlike_nulled related⟩

/-- The two rows of a parameter read alike. -/
theorem agree_readRow_withoutUnknownMode (source : RowSource) :
    Agree
      (fun row row' => row.ReadsAlike (fun _ => Eq) (fun _ => Eq) row' ∧
        (row.code? .lenient "ROWTYPE" false (none : Option ParameterMode)).result =
          (row'.code? .strict "ROWTYPE" false none).result)
      (readRow source) (readRow source.withoutUnknownMode) := by
  have rows := (source.related_nulled
    (if source.cells.unknownMode?.isSome then ["ROWTYPE"] else [])).readRow
  refine rows.mono fun row row' ⟨same, _, related⟩ => ?_
  subst same
  refine ⟨readsAlike_nulled related ?_, result_code?_nulled related none (by decide) ?_⟩
  · intro column inside
    split at inside
    case isTrue => exact List.mem_singleton.mp inside ▸ List.mem_cons_self
    case isFalse => cases inside
  · rw [← Row.unknownMode?]
    cases source.cells.unknownMode?.isSome <;> simp

/-- Mapping a routine leniently is mapping it strictly without its unknown codes. -/
theorem result_mapRoutine_lenient {options strict : MappingOptions}
    (lenient : options.unknownCodes = .lenient) (strictly : strict.unknownCodes = .strict)
    (naming : options.naming = strict.naming) (overrides : options.overrides = strict.overrides) :
    (mapRoutine source owner capabilities options).result =
      (mapRoutine (source.withoutUnknownCodes capabilities) owner capabilities strict).result := by
  have rows := agree_readRow_withoutUnknownCodes source capabilities
  rw [← lenient, ← strictly] at rows
  refine (agree_mapRoutine naming rows fun r r' alike => ?_).eq
  have same : r' = r := by
    rw [alike.eq, ← alike.deterministic, ← alike.createdAt, ← alike.alteredAt,
      ← alike.lastRegeneratedAt]
  rw [same, overrides]
  exact .of_eq rfl

/-- Mapping a parameter leniently is mapping it strictly without an unknown code for its mode. -/
theorem result_mapParameter_lenient : (mapParameter source .lenient).result =
    (mapParameter source.withoutUnknownMode .strict).result := by
  have related := agree_mapParameter (agree_readRow_withoutUnknownMode source)
  refine (related.mono fun p p' alike => ?_).eq
  rw [alike.eq, ← alike.isLocator]

/-- No unknown code makes a lenient mapping of a routine fail. -/
theorem code_ne_of_lenient {options : MappingOptions} (lenient : options.unknownCodes = .lenient)
    {e : MappingError}
    (failed : (mapRoutine source owner capabilities options).result = .error (.mapping e)) :
    e.problem.code ≠ "unknown_enum_literal" := by
  have maps : Maps options.unknownCodes False (fun _ => True)
      (mapRoutine source owner capabilities options) :=
    maps_mapRoutine nofun capabilities (fun _ _ _ _ => trivial) nofun nofun
  exact maps.failure _ failed lenient

end

/-- Mapping a row leniently gives the descriptor or the failure that mapping it strictly gives after its
unknown codes in consulted columns have been replaced by null. It never fails for an unknown code, and
gives every descriptor that the strict treatment gives. -/
theorem mapRoutine_lenient (source : RowSource) (owner : Owner) (capabilities : Capabilities)
    (options strict : MappingOptions) (lenient : options.unknownCodes = .lenient)
    (strictly : strict.unknownCodes = .strict) (naming : options.naming = strict.naming)
    (overrides : options.overrides = strict.overrides) :
    (mapRoutine source owner capabilities options).result =
        (mapRoutine (source.withoutUnknownCodes capabilities) owner capabilities strict).result ∧
      (∀ e, (mapRoutine source owner capabilities options).result = .error (.mapping e) →
        e.problem.code ≠ "unknown_enum_literal") ∧
      (∀ routine, (mapRoutine source owner capabilities strict).result = .ok routine →
        (mapRoutine source owner capabilities options).result = .ok routine) ∧
      (mapParameter source .lenient).result =
        (mapParameter source.withoutUnknownMode .strict).result ∧
      (∀ e, (mapParameter source .lenient).result = .error (.mapping e) →
        e.problem.code ≠ "unknown_enum_literal") ∧
      (∀ parameter, (mapParameter source .strict).result = .ok parameter →
        (mapParameter source .lenient).result = .ok parameter) := by
  refine ⟨result_mapRoutine_lenient lenient strictly naming overrides,
    fun e failed => code_ne_of_lenient lenient failed,
    refines_mapRoutine lenient strictly naming overrides, result_mapParameter_lenient, ?_,
    refines_mapParameter⟩
  intro e failed
  have maps : Maps .lenient False (fun _ => True) (mapParameter source .lenient) :=
    maps_mapParameter nofun .lenient
  exact maps.failure _ failed rfl

/-- The options of a caller that asks for the lenient treatment. -/
def MappingOptions.lenient : MappingOptions := { standard with policy := some "lenient" }

/-- Leniently a routine of an unknown kind and origin is one whose kind and origin are null. -/
theorem mapRoutine_lenient_strangeRow :
    MappingOptions.lenient.unknownCodes = .lenient ∧ MappingOptions.standard.unknownCodes = .strict ∧
      (mapRoutine strangeRow .app default .lenient).result =
        (mapRoutine (.read ⟨[("ROUTINENAME", .text "PAY"), ("ROUTINETYPE", .null), ("ORIGIN", .null)]⟩)
          .app default .standard).result := by
  have nulled : strangeRow.withoutUnknownCodes default =
      .read ⟨[("ROUTINENAME", .text "PAY"), ("ROUTINETYPE", .null), ("ORIGIN", .null)]⟩ := rfl
  have mapped := mapRoutine_lenient strangeRow .app default .lenient .standard rfl rfl rfl rfl
  exact ⟨rfl, rfl, nulled ▸ mapped.1⟩

end Syscat
