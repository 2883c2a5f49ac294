/-
Module: Syscat.Proofs.Catalog.Attribution
Purpose: Which rows of the view of parameters belong to a routine. The query for the parameters of a
  routine picks by schema and specific name. The view does not know of modules, so routines of one
  schema and specific name share their parameters, whatever their modules are, and no others do.
Main exports: Record.lookupName, Record.MapsTo, Record.Attributed, Query.Apart,
  selectParameters_attributed, not_forall_apart
-/
import Syscat.Proofs.Catalog.Partition
import Syscat.Proofs.Results

namespace Syscat

/-! ### The key of a routine's parameters -/

/-- The name that identifies a row's routine among those of its schema: the specific name, or the
routine's own name where that is null or empty. -/
def Record.lookupName (record : Record) : String :=
  let name := (record.get "ROUTINENAME").name?.getD ""
  match (record.get "SPECIFICNAME").name? with
  | some specific => if specific = "" then name else specific
  | none => name

/-- What the parameters of a row's routine are looked up by. -/
def Record.parameterKey (record : Record) : Option String × String :=
  ((record.get "ROUTINESCHEMA").name?, record.lookupName)

section
variable {record : Record} {container : Container} {routine : Routine}

/-- A descriptor looks its parameters up by the name in its row. -/
theorem Routine.Describes.lookupName (describes : routine.Describes record container) :
    routine.lookupName = record.lookupName := by
  unfold Record.lookupName Routine.lookupName
  rw [describes.name, describes.specificName]
  cases routine.specificName <;> rfl

/-- The query for a routine's parameters picks the rows with its schema and the name it is looked up
by. -/
theorem picks_selectParameters_iff (routine : Routine) (parameter : Record) :
    (selectParameters routine).picks parameter = true ↔
      parameter.get "ROUTINESCHEMA" = .text routine.effectiveSchema.name.val ∧
        parameter.get "SPECIFICNAME" = .text routine.lookupName := by
  simp [Query.picks, selectParameters, Condition.holds_equals_iff]

/-- Routines with the same schema and the same name to look up have the same query. -/
theorem selectParameters_congr {routine' : Routine}
    (schema : routine'.effectiveSchema = routine.effectiveSchema)
    (name : routine'.lookupName = routine.lookupName) :
    selectParameters routine' = selectParameters routine := by
  rw [selectParameters, selectParameters, schema, name]

end

/-! ### Routines mapped from rows -/

/-- A routine is mapped from a stored row with a container whose query selects the row. -/
def Record.MapsTo (capabilities : Capabilities) (record : Record) (routine : Routine) : Prop :=
  ∃ (c : Container) (options : MappingOptions), c.Selects capabilities record ∧ options.overrides = [] ∧
    (mapRoutine (record.cut (routineColumns capabilities)).source (.container c) capabilities
      options).result = .ok routine

/-- The parameters of a routine are attributed to a stored row: the answer of the query for them lists the
rows of the view of parameters with the row's schema and the name that identifies it there. -/
structure Record.Attributed (record : Record) (parameters : List Record) (routine : Routine) : Prop where
  answer : ((selectParameters routine).answer parameters).Perm
    ((parameters.filter (selectParameters routine).picks).map (Record.cut parameterView.columns))
  picks : ∀ parameter, (selectParameters routine).picks parameter = true ↔
    parameter.get "ROUTINESCHEMA" = record.get "ROUTINESCHEMA" ∧
      parameter.get "SPECIFICNAME" = .text record.lookupName

/-- An answer consists of the rows that a query picks, cut down to its columns. -/
theorem Query.answer_perm (q : Query) (records : List Record) :
    (q.answer records).Perm ((records.filter q.picks).map (Record.cut q.columns)) :=
  (List.mergeSort_perm _ _).map _

section
variable {capabilities : Capabilities} {record : Record} {routine : Routine}

/-- A routine that is mapped from a row has the schema of the row and is looked up by its name. -/
theorem Record.MapsTo.parameterKey (maps : record.MapsTo capabilities routine)
    (named : record.Named ["ROUTINENAME", "SPECIFICNAME"]) :
    record.get "ROUTINESCHEMA" = .text routine.effectiveSchema.name.val ∧
      routine.lookupName = record.lookupName := by
  obtain ⟨c, options, ⟨q, query, picked⟩, plain, mapped⟩ := maps
  obtain ⟨s, inSchema, rfl⟩ := schema?_of_selectRoutines query
  obtain ⟨describes, _⟩ := describes_mapRoutine named plain mapped
  have sameSchema := Option.some.inj (describes.schema.symm.trans inSchema)
  refine ⟨?_, describes.lookupName⟩
  rw [sameSchema]
  exact Record.get_schema_of_picks picked

theorem Record.MapsTo.attributed (maps : record.MapsTo capabilities routine)
    (named : record.Named ["ROUTINENAME", "SPECIFICNAME"]) (parameters : List Record) :
    record.Attributed parameters routine := by
  obtain ⟨schema, name⟩ := maps.parameterKey named
  refine ⟨Query.answer_perm _ _, fun parameter => ?_⟩
  rw [picks_selectParameters_iff, schema, name]

end

/-! ### Two routines -/

/-- No row of a table is picked by both of two queries. -/
def Query.Apart (q q' : Query) (table : List Record) : Prop :=
  ∀ record ∈ table, ¬ (q.picks record = true ∧ q'.picks record = true)

section
variable {capabilities : Capabilities} {record record' : Record} {routine routine' : Routine}
  (maps : record.MapsTo capabilities routine) (maps' : record'.MapsTo capabilities routine')
  (named : record.Named ["ROUTINENAME", "SPECIFICNAME"])
  (named' : record'.Named ["ROUTINENAME", "SPECIFICNAME"])
include maps maps' named named'

/-- Routines from rows with different keys share no row of parameters. -/
theorem Record.MapsTo.apart (distinct : record.parameterKey ≠ record'.parameterKey)
    (parameters : List Record) :
    (selectParameters routine).Apart (selectParameters routine') parameters := by
  rintro parameter - ⟨picked, picked'⟩
  obtain ⟨schema, name⟩ := ((maps.attributed named parameters).picks parameter).mp picked
  obtain ⟨schema', name'⟩ := ((maps'.attributed named' parameters).picks parameter).mp picked'
  apply distinct
  rw [Record.parameterKey, Record.parameterKey, ← schema, ← schema']
  exact congrArg (Prod.mk _) (Value.text.inj (name.symm.trans name'))

/-- Routines from rows with the same key have the same query for their parameters. -/
theorem Record.MapsTo.selectParameters_eq (same : record.parameterKey = record'.parameterKey) :
    selectParameters routine' = selectParameters routine := by
  obtain ⟨schema, name⟩ := maps.parameterKey named
  obtain ⟨schema', name'⟩ := maps'.parameterKey named'
  obtain ⟨schemas, names⟩ := Prod.mk.inj same
  refine selectParameters_congr ?_ ?_
  · rw [schema, schema'] at schemas
    have texts : routine.effectiveSchema.name.val = routine'.effectiveSchema.name.val :=
      Option.some.inj schemas
    exact congrArg Schema.mk (Subtype.ext texts.symm)
  · rw [name, name', names]

end

/-- The parameters of routines are attributed by schema and specific name, with the routine's own name
where the latter is missing. The query for the parameters of a routine that is mapped from a row
answers with the rows of that schema and name. If no two rows of the catalog share them, whatever
their modules are, no row of parameters is picked for two routines; rows that share them have one
query for both. -/
theorem selectParameters_attributed (catalog : Catalog) (capabilities : Capabilities)
    (placed : ∀ record ∈ catalog.routines, record.Placed) :
    (∀ record ∈ catalog.routines, ∀ routine, record.MapsTo capabilities routine →
      record.Attributed catalog.parameters routine) ∧
    ((catalog.routines.Pairwise fun a b => a.parameterKey ≠ b.parameterKey) →
      catalog.routines.Pairwise fun a b => ∀ routine routine', a.MapsTo capabilities routine →
        b.MapsTo capabilities routine' →
          (selectParameters routine).Apart (selectParameters routine') catalog.parameters) ∧
    ∀ a ∈ catalog.routines, ∀ b ∈ catalog.routines, a.parameterKey = b.parameterKey →
      ∀ routine routine', a.MapsTo capabilities routine → b.MapsTo capabilities routine' →
        selectParameters routine' = selectParameters routine := by
  refine ⟨fun record inside routine maps => ?_, fun distinct => ?_, ?_⟩
  · exact maps.attributed (placed record inside).named catalog.parameters
  · refine distinct.imp_of_mem fun {a b} insideA insideB keys routine routine' maps maps' => ?_
    exact maps.apart maps' (placed a insideA).named (placed b insideB).named keys catalog.parameters
  · intro a insideA b insideB same routine routine' maps maps'
    exact maps.selectParameters_eq maps' (placed a insideA).named (placed b insideB).named same

/-- A row in a module, with a specific name of its own. -/
def otherModuleRow : Record := payRow (some default) "S2"

/-- A row of a parameter. -/
def parameterRow : Record :=
  [("ROUTINESCHEMA", .text "APP"), ("SPECIFICNAME", .text "S1"), ("ORDINAL", .integer 1)]

/-- A row that can be mapped with its container has a routine. -/
theorem Record.Placed.exists_mapsTo {record : Record} (placed : record.Placed) (c : Container)
    (resolvable : c.schema?.isSome) (here : c.chain? = some record.chain)
    (mapped : (mapRoutine (record.cut (routineColumns default)).source (.container c) default
      .standard).result.toOption.isSome = true) : ∃ routine, record.MapsTo default routine := by
  obtain ⟨routine, result⟩ := exists_eq_ok_of_isSome mapped
  have selects : c.Selects default record := (placed.selects_iff c).mpr ⟨resolvable, here⟩
  exact ⟨routine, c, .standard, selects, rfl, result⟩

theorem exists_mapsTo_directRow : ∃ routine, directRow.MapsTo default routine :=
  (placed_payRow none "S1").exists_mapsTo (.app none) rfl rfl (by decide +kernel)

theorem exists_mapsTo_moduleRow : ∃ routine, moduleRow.MapsTo default routine :=
  (placed_payRow (some default) "S1").exists_mapsTo (.app (some default)) rfl rfl (by decide +kernel)

theorem exists_mapsTo_otherModuleRow : ∃ routine, otherModuleRow.MapsTo default routine :=
  (placed_payRow (some default) "S2").exists_mapsTo (.app (some default)) rfl rfl (by decide +kernel)

/-- The parameter of a routine of the schema is not taken for one of a routine of the module with another
specific name. -/
theorem selectParameters_attributed_twoNames :
    (∀ record ∈ [directRow, otherModuleRow], record.Placed) ∧
      [directRow, otherModuleRow].Pairwise (fun a b => a.parameterKey ≠ b.parameterKey) ∧
      ∃ routine routine', directRow.MapsTo default routine ∧ otherModuleRow.MapsTo default routine' ∧
        (selectParameters routine).picks parameterRow = true ∧
        (selectParameters routine').picks parameterRow = false := by
  have placed : ∀ record ∈ [directRow, otherModuleRow], record.Placed := by
    rintro record (_ | ⟨_, _ | ⟨_, ⟨⟩⟩⟩)
    · exact placed_payRow none "S1"
    · exact placed_payRow (some default) "S2"
  have distinct : [directRow, otherModuleRow].Pairwise fun a b => a.parameterKey ≠ b.parameterKey := by
    decide +kernel
  obtain ⟨routine, maps⟩ := exists_mapsTo_directRow
  obtain ⟨routine', maps'⟩ := exists_mapsTo_otherModuleRow
  obtain ⟨attributed, apart, _⟩ :=
    selectParameters_attributed ⟨[directRow, otherModuleRow], [parameterRow]⟩ default placed
  have picked : (selectParameters routine).picks parameterRow = true :=
    ((attributed directRow List.mem_cons_self routine maps).picks parameterRow).mpr ⟨rfl, rfl⟩
  have notBoth := List.rel_of_pairwise_cons (apart distinct) (List.mem_singleton.mpr rfl) routine routine'
    maps maps' parameterRow (List.mem_singleton.mpr rfl)
  exact ⟨placed, distinct, routine, routine', maps, maps', picked,
    Bool.eq_false_iff.mpr fun picked' => notBoth ⟨picked, picked'⟩⟩

/-- Modules do not keep parameters apart: the routine of a module and that of its schema share their
parameters if they share their specific name. -/
theorem not_forall_apart : ¬ ∀ (catalog : Catalog) (capabilities : Capabilities),
    (∀ record ∈ catalog.routines, record.Placed) →
      (∀ record ∈ catalog.routines, ∃ name : FilledText, record.get "SPECIFICNAME" = .text name.val) →
      (catalog.routines.Pairwise fun a b => a.chain ≠ b.chain ∨
        (a.get "SPECIFICNAME").name? ≠ (b.get "SPECIFICNAME").name?) →
      catalog.routines.Pairwise fun a b => ∀ routine routine', a.MapsTo capabilities routine →
        b.MapsTo capabilities routine' →
          (selectParameters routine).Apart (selectParameters routine') catalog.parameters := by
  intro apart
  have placed : ∀ record ∈ [directRow, moduleRow], record.Placed := by
    rintro record (_ | ⟨_, _ | ⟨_, ⟨⟩⟩⟩)
    · exact placed_payRow none "S1"
    · exact placed_payRow (some default) "S1"
  have filled : ∀ record ∈ [directRow, moduleRow],
      ∃ name : FilledText, record.get "SPECIFICNAME" = .text name.val := by
    rintro record (_ | ⟨_, _ | ⟨_, ⟨⟩⟩⟩) <;> exact ⟨⟨"S1", by decide⟩, rfl⟩
  have distinct : [directRow, moduleRow].Pairwise fun a b => a.chain ≠ b.chain ∨
      (a.get "SPECIFICNAME").name? ≠ (b.get "SPECIFICNAME").name? := by decide +kernel
  obtain ⟨routine, maps⟩ := exists_mapsTo_directRow
  obtain ⟨routine', maps'⟩ := exists_mapsTo_moduleRow
  have picked : (selectParameters routine).picks parameterRow = true :=
    ((maps.attributed (placed_payRow none "S1").named []).picks parameterRow).mpr ⟨rfl, rfl⟩
  have picked' : (selectParameters routine').picks parameterRow = true :=
    ((maps'.attributed (placed_payRow (some default) "S1").named []).picks parameterRow).mpr ⟨rfl, rfl⟩
  have notBoth := List.rel_of_pairwise_cons
    (apart ⟨[directRow, moduleRow], [parameterRow]⟩ default placed filled distinct)
    (List.mem_singleton.mpr rfl) routine routine' maps maps' parameterRow (List.mem_singleton.mpr rfl)
  exact notBoth ⟨picked, picked'⟩

end Syscat
