/-
Module: Syscat.Proofs.Catalog.Partition
Purpose: The containers part the routines of a catalog. Each row of the view of routines belongs to
  one container, and only that container's query selects it. What a container's query answers with is
  its rows, each once and sorted by name, and a scan describes them as routines of their own schema
  and module.
Main exports: Record.chain, Record.Placed, Container.Selects, Catalog.Answers, Record.Qualifies,
  Catalog.ScanDescribes, selectRoutines_partition
-/
import Syscat.Proofs.Catalog.Described
import Syscat.Proofs.Naming.Qualified

namespace Syscat

/-! ### Where a row belongs -/

/-- The text of a value that is one. -/
def Value.name? : Value → Option String
  | text s => some s
  | _ => none

namespace Record

/-- The names that a row's routine belongs under: its schema, and its module if it has one. -/
def chain (record : Record) : List String :=
  (record.get "ROUTINESCHEMA").name?.toList ++ (record.get "ROUTINEMODULENAME").name?.toList

/-- A row of the view of routines says where its routine belongs: the name of its schema is filled,
and so is that of its module unless it is null. What names the routine is a text or null. -/
structure Placed (record : Record) : Prop where
  schema : ∃ name : FilledText, record.get "ROUTINESCHEMA" = .text name.val
  module : record.get "ROUTINEMODULENAME" = .null ∨
    ∃ name : FilledText, record.get "ROUTINEMODULENAME" = .text name.val
  named : record.Named ["ROUTINENAME", "SPECIFICNAME"]

/-- A row belongs to a container. -/
theorem Placed.container {record : Record} (placed : record.Placed) :
    ∃ c : Container, c.schema?.isSome ∧ c.chain? = some record.chain := by
  obtain ⟨schema, inSchema⟩ := placed.schema
  rcases placed.module with noModule | ⟨name, inModule⟩
  · refine ⟨.schema ⟨schema⟩, rfl, ?_⟩
    rw [Record.chain, inSchema, noModule]
    rfl
  · refine ⟨.module ⟨name, some ⟨schema⟩⟩, rfl, ?_⟩
    rw [Record.chain, inSchema, inModule]
    rfl

end Record

namespace Condition

theorem holds_equals_iff {record : Record} {column value : String} :
    (equals column value).holds record = true ↔ record.get column = .text value := by
  rw [holds]
  split
  case h_1 s same => simp [same]
  case h_2 noText => exact ⟨nofun, fun same => absurd same (noText value)⟩

theorem holds_isNull_iff {record : Record} {column : String} :
    (isNull column).holds record = true ↔ record.get column = .null := by
  rw [holds]
  split
  case h_1 null => simp [null]
  case h_2 filled => exact ⟨nofun, fun null => absurd null filled⟩

end Condition

section
variable {record : Record} {capabilities : Capabilities}

/-- A row that meets a container's conditions has the schema that they name. -/
theorem Record.get_schema_of_picks {c : Container} {s : Schema}
    (picked : (routineQuery capabilities (c.conditions s)).picks record = true) :
    record.get "ROUTINESCHEMA" = .text s.name.val := by
  have holds : (Condition.equals "ROUTINESCHEMA" s.name.val).holds record = true := by
    refine List.all_eq_true.mp picked _ ?_
    cases c <;> exact List.mem_cons_self
  exact Condition.holds_equals_iff.mp holds

/-- A row meets a container's conditions exactly if it belongs there. -/
theorem Record.Placed.picks_iff (placed : record.Placed) {c : Container} {s : Schema}
    (inSchema : c.schema? = some s) :
    (routineQuery capabilities (c.conditions s)).picks record = true ↔
      c.chain? = some record.chain := by
  obtain ⟨schema, schemaName⟩ := placed.schema
  -- the name of a schema is compared by both kinds of containers, that of a module by each in its way
  cases c with
  | schema _ =>
      cases inSchema
      have picks : (routineQuery capabilities (Container.conditions (.schema s) s)).picks record = true ↔
          schema.val = s.name.val ∧ record.get "ROUTINEMODULENAME" = .null := by
        simp [Query.picks, routineQuery, Container.conditions, Condition.holds_equals_iff,
          Condition.holds_isNull_iff, schemaName]
      rw [picks]
      rcases placed.module with noModule | ⟨name, inModule⟩
      · simp [Container.chain?, Record.chain, Value.name?, schemaName, noModule, eq_comm]
      · simp [Container.chain?, Record.chain, Value.name?, schemaName, inModule]
  | module m =>
      rw [Container.schema?] at inSchema
      have picks : (routineQuery capabilities (Container.conditions (.module m) s)).picks record = true ↔
          schema.val = s.name.val ∧ record.get "ROUTINEMODULENAME" = .text m.name.val := by
        simp [Query.picks, routineQuery, Container.conditions, Condition.holds_equals_iff, schemaName]
      rw [picks]
      rcases placed.module with noModule | ⟨name, inModule⟩
      · simp [Container.chain?, Record.chain, Value.name?, schemaName, noModule, inSchema]
      · simp [Container.chain?, Record.chain, Value.name?, schemaName, inModule, inSchema, eq_comm]

/-! ### The queries of owners -/

theorem selectRoutines_container {c : Container} {s : Schema} (inSchema : c.schema? = some s) :
    selectRoutines capabilities (.container c) = .ok (routineQuery capabilities (c.conditions s)) := by
  have found : (Owner.container c).schema? = some s := inSchema
  unfold selectRoutines
  rw [found]

/-- A container has a query only if it belongs to a schema. -/
theorem schema?_of_selectRoutines {c : Container} {q : Query}
    (query : selectRoutines capabilities (.container c) = .ok q) :
    ∃ s, c.schema? = some s ∧ q = routineQuery capabilities (c.conditions s) := by
  cases found : c.schema? with
  | some s =>
      rw [selectRoutines_container found] at query
      exact ⟨s, rfl, (Except.ok.inj query).symm⟩
  | none =>
      have missing : (Owner.container c).schema? = none := found
      unfold selectRoutines at query
      rw [missing] at query
      cases query

/-- A container's query selects a row. -/
def Container.Selects (capabilities : Capabilities) (c : Container) (record : Record) : Prop :=
  ∃ q, selectRoutines capabilities (.container c) = .ok q ∧ q.picks record = true

/-- A container's query selects a row exactly if the row belongs there. -/
theorem Record.Placed.selects_iff (placed : record.Placed) (c : Container) :
    c.Selects capabilities record ↔ c.schema?.isSome ∧ c.chain? = some record.chain := by
  constructor
  · rintro ⟨q, query, picked⟩
    obtain ⟨s, inSchema, rfl⟩ := schema?_of_selectRoutines query
    exact ⟨Option.isSome_of_eq_some inSchema, (placed.picks_iff inSchema).mp picked⟩
  · rintro ⟨resolvable, here⟩
    obtain ⟨s, inSchema⟩ := Option.isSome_iff_exists.mp resolvable
    exact ⟨_, selectRoutines_container inSchema, (placed.picks_iff inSchema).mpr here⟩

/-- Exactly one container's query selects a row. -/
theorem Record.Placed.existsUnique_selects (placed : record.Placed) (capabilities : Capabilities) :
    ∃ c : Container, c.chain? = some record.chain ∧
      ∀ c' : Container, c'.Selects capabilities record ↔ c' = c := by
  obtain ⟨c, resolvable, here⟩ := placed.container
  refine ⟨c, here, fun c' => ?_⟩
  rw [placed.selects_iff]
  constructor
  · rintro ⟨_, there⟩
    exact Container.eq_of_chain there here
  · rintro rfl
    exact ⟨resolvable, here⟩

end

/-! ### The answers of a catalog -/

/-- The query of an owner answers with some stored rows, cut down to the columns that the server provides
and sorted by the name of the routine and then by its specific name. -/
structure Catalog.Answers (catalog : Catalog) (capabilities : Capabilities) (owner : Owner)
    (rows : List Record) : Prop where
  answer : ∃ q, selectRoutines capabilities owner = .ok q ∧
    q.answer catalog.routines = rows.map (Record.cut (routineColumns capabilities))
  sorted : rows.Pairwise fun a b =>
    a.key ["ROUTINENAME", "SPECIFICNAME"] ≤ b.key ["ROUTINENAME", "SPECIFICNAME"]

section
variable {catalog : Catalog} {capabilities : Capabilities} {owner : Owner}
  (placed : ∀ record ∈ catalog.routines, record.Placed)
include placed

/-- A query of routines answers with each row that it picks. -/
theorem Catalog.answers_of_selectRoutines {conditions : List Condition}
    (query : selectRoutines capabilities owner = .ok (routineQuery capabilities conditions)) :
    ∃ rows, catalog.Answers capabilities owner rows ∧
      rows.Perm (catalog.routines.filter (routineQuery capabilities conditions).picks) ∧
      (routineQuery capabilities conditions).Lists catalog.routines rows
        ((routineQuery capabilities conditions).answer catalog.routines) := by
  obtain ⟨rows, lists⟩ := (routineQuery capabilities conditions).lists_answer
    fun record inside => (placed record inside).named
  exact ⟨rows, ⟨⟨_, query, lists.cut⟩, lists.sorted⟩, lists.once, lists⟩

/-- The query for all routines answers with each row. -/
theorem Catalog.answers_all :
    ∃ rows, catalog.Answers capabilities (.other .null) rows ∧ rows.Perm catalog.routines := by
  have query : selectRoutines capabilities (.other .null) = .ok (routineQuery capabilities []) := rfl
  obtain ⟨rows, answers, once, _⟩ := Catalog.answers_of_selectRoutines placed query
  have all : catalog.routines.filter (routineQuery capabilities []).picks = catalog.routines :=
    List.filter_eq_self.mpr fun _ _ => rfl
  exact ⟨rows, answers, all ▸ once⟩

end

/-! ### The scan of a container -/

/-- A descriptor places its routine where a row does: in the schema of the row, and under the standard
naming rule with a qualified name that is made of the names in the row. -/
structure Record.Qualifies (record : Record) (naming : NamingRule) (routine : Routine) : Prop where
  schema : record.get "ROUTINESCHEMA" = .text routine.effectiveSchema.name.val
  qualified : naming = .standard → ∃ name, record.get "ROUTINENAME" = .text name ∧
    routine.qualifiedName.val = qualifiedName (record.chain ++ [name])

/-- The scan of a container describes rows: each descriptor stands for the row at its index. There is an
outcome for every row unless an integer in the way is too long to be printed. -/
structure Catalog.ScanDescribes (catalog : Catalog) (capabilities : Capabilities) (c : Container)
    (rows : List Record) (options : MappingOptions) : Prop where
  descriptors : ∀ outcomes,
    (catalog.scan (.container c) (.container c) capabilities options).result = .ok outcomes →
      ∀ outcome ∈ outcomes, ∀ routine, outcome.result = .ok routine →
        ∃ record, rows[outcome.index]? = some record ∧ record.Qualifies options.naming routine
  outcomes : options.naming.Ordinary →
    (∀ name, AnswerSpellable (options.naming (.container c) name)) →
    (∀ record ∈ rows, ∀ cell ∈ record, cell.2.Spellable) →
      ∃ outcomes,
        (catalog.scan (.container c) (.container c) capabilities options).result = .ok outcomes ∧
          outcomes.length = rows.length

/-- What holds of the cells of a stored row holds of its columns. -/
theorem Record.spellable_get {record : Record} (spellable : ∀ cell ∈ record, cell.2.Spellable)
    (column : String) : (record.get column).Spellable := by
  rw [get]
  cases found : record.find? fun cell => cell.1 == column with
  | none => exact trivial
  | some cell => exact spellable cell (List.mem_of_find?_eq_some found)

theorem Record.spellable_source_cut {record : Record} (spellable : ∀ cell ∈ record, cell.2.Spellable)
    (columns : List String) : (record.cut columns).source.Spellable := by
  refine Value.entriesSpellable_iff.mpr fun entry inside => ?_
  obtain ⟨cell, listed, rfl⟩ := List.mem_map.mp inside
  obtain ⟨column, _, rfl⟩ := List.mem_map.mp listed
  exact ⟨trivial, Record.spellable_get spellable column⟩

/-- A scan with a container goes through unless an integer in the way is too long to be printed, and gives
an outcome for each row of the answer. -/
theorem Catalog.scan_outcomes {catalog : Catalog} {capabilities : Capabilities} {c : Container}
    {q : Query} {rows : List Record} (query : selectRoutines capabilities (.container c) = .ok q)
    (cut : q.answer catalog.routines = rows.map (Record.cut (routineColumns capabilities)))
    {options : MappingOptions} (ordinary : options.naming.Ordinary)
    (answersShort : ∀ name, AnswerSpellable (options.naming (.container c) name))
    (short : ∀ record ∈ rows, ∀ cell ∈ record, cell.2.Spellable) :
    ∃ outcomes, (catalog.scan (.container c) (.container c) capabilities options).result = .ok outcomes ∧
      outcomes.length = rows.length := by
  have printed : ∀ source ∈ (rows.map (Record.cut (routineColumns capabilities))).map Record.source,
      (mapRoutine source (.container c) capabilities options).result ≠ .error .longInteger := by
    intro source inside long
    obtain ⟨cut, listed, rfl⟩ := List.mem_map.mp inside
    obtain ⟨record, stored, rfl⟩ := List.mem_map.mp listed
    have maps : Maps options.unknownCodes True (fun _ => False)
        (mapRoutine (record.cut (routineColumns capabilities)).source (.container c) capabilities
          options) :=
      maps_mapRoutine_of_ordinary (fun _ => Record.spellable_source_cut (short record stored) _)
        capabilities ordinary (fun _ => trivial) fun _ => answersShort
    exact maps.failure _ long trivial
  obtain ⟨outcomes, scan⟩ := isScan_mapRoutines ordinary printed
  have answered : catalog.routinesOf (.container c) capabilities =
      .ok ((rows.map (Record.cut (routineColumns capabilities))).map Record.source) := by
    rw [Catalog.routinesOf, query, ← cut]
    rfl
  refine ⟨outcomes, ?_, ?_⟩
  · rw [Catalog.scan, answered, Logged.result_bind_of_ok _ rfl]
    exact scan.result_eq
  · rw [scan.outcomes_of.count.2, List.length_map, List.length_map]

section
variable {catalog : Catalog} {capabilities : Capabilities} {c : Container}
  (placed : ∀ record ∈ catalog.routines, record.Placed)
include placed

/-- What is mapped from a row with the container that the row belongs to places the routine there. -/
theorem Record.Placed.qualifies {record : Record} {s : Schema} (inSchema : c.schema? = some s)
    {options : MappingOptions} (plain : options.overrides = []) {routine : Routine}
    (inside : record ∈ catalog.routines)
    (picked : (routineQuery capabilities (c.conditions s)).picks record = true)
    (mapped : (mapRoutine (record.cut (routineColumns capabilities)).source (.container c) capabilities
      options).result = .ok routine) : record.Qualifies options.naming routine := by
  obtain ⟨describes, named⟩ := describes_mapRoutine (placed record inside).named plain mapped
  refine ⟨?_, fun standard => ⟨routine.name.val, describes.name, ?_⟩⟩
  · have sameSchema := Option.some.inj (describes.schema.symm.trans inSchema)
    rw [sameSchema]
    exact Record.get_schema_of_picks picked
  · rw [standard] at named
    exact qualifiedName_of_standard (((placed record inside).picks_iff inSchema).mp picked) named

/-- The query of a container answers with the rows that belong there, and its scan describes them. -/
theorem Catalog.answers_container (resolvable : c.schema?.isSome) :
    ∃ rows, catalog.Answers capabilities (.container c) rows ∧
      rows.Perm (catalog.routines.filter fun record => c.chain? = some record.chain) ∧
      ∀ options : MappingOptions, options.overrides = [] →
        catalog.ScanDescribes capabilities c rows options := by
  obtain ⟨s, inSchema⟩ := Option.isSome_iff_exists.mp resolvable
  have query : selectRoutines capabilities (.container c) =
      .ok (routineQuery capabilities (c.conditions s)) := selectRoutines_container inSchema
  obtain ⟨rows, answers, once, lists⟩ := Catalog.answers_of_selectRoutines placed query
  have belong : catalog.routines.filter (routineQuery capabilities (c.conditions s)).picks =
      catalog.routines.filter fun record => c.chain? = some record.chain := by
    refine List.filter_congr fun record inside => ?_
    rw [Bool.eq_iff_iff, (placed record inside).picks_iff inSchema, decide_eq_true_iff]
  refine ⟨rows, answers, belong ▸ once, fun options plain => ⟨?_, ?_⟩⟩
  · intro outcomes scanned outcome inside routine mapped
    obtain ⟨record, here, described⟩ := Catalog.scan_outcome query lists scanned inside mapped
    obtain ⟨stored, picked⟩ := List.mem_filter.mp (once.mem_iff.mp (List.mem_of_getElem? here))
    exact ⟨record, here, Record.Placed.qualifies placed inSchema plain stored picked described⟩
  · intro ordinary answersShort short
    exact Catalog.scan_outcomes query lists.cut ordinary answersShort short

end

/-- The containers part the routines of a catalog. Each row is selected by the query of one container
and no other, the one that it belongs to. The query of a container that belongs to a schema answers
with the rows that belong to it, each once and sorted by name, and a scan places their routines where
the rows do. The query for all routines answers with every row once, sorted likewise. -/
theorem selectRoutines_partition (catalog : Catalog) (capabilities : Capabilities)
    (placed : ∀ record ∈ catalog.routines, record.Placed) :
    (∀ record ∈ catalog.routines, ∃ c : Container, c.chain? = some record.chain ∧
      ∀ c' : Container, c'.Selects capabilities record ↔ c' = c) ∧
    (∀ c : Container, c.schema?.isSome →
      ∃ rows, catalog.Answers capabilities (.container c) rows ∧
        rows.Perm (catalog.routines.filter fun record => c.chain? = some record.chain) ∧
        ∀ options : MappingOptions, options.overrides = [] →
          catalog.ScanDescribes capabilities c rows options) ∧
    ∃ rows, catalog.Answers capabilities (.other .null) rows ∧ rows.Perm catalog.routines := by
  refine ⟨fun record inside => ?_, fun c resolvable => ?_, ?_⟩
  · exact (placed record inside).existsUnique_selects capabilities
  · exact Catalog.answers_container placed resolvable
  · exact Catalog.answers_all placed

/-- The schema `APP`, or a module in it. -/
def Container.app : Option FilledText → Container
  | none => .schema ⟨⟨"APP", app_filled⟩⟩
  | some name => .module ⟨name, some ⟨⟨"APP", app_filled⟩⟩⟩

/-- A row of a routine `PAY` in the schema `APP`, in a module if there is the name of one. -/
def payRow (module : Option FilledText) (specific : String) : Record :=
  [("ROUTINESCHEMA", .text "APP"), ("ROUTINEMODULENAME", textValue (module.map (·.val))),
    ("ROUTINENAME", .text "PAY"), ("SPECIFICNAME", .text specific)]

theorem placed_payRow (module : Option FilledText) (specific : String) :
    (payRow module specific).Placed where
  schema := ⟨⟨"APP", app_filled⟩, rfl⟩
  module :=
    match module with
    | none => .inl rfl
    | some name => .inr ⟨name, rfl⟩
  named := by
    rintro column (_ | ⟨_, _ | ⟨_, ⟨⟩⟩⟩)
    · exact .text "PAY"
    · exact .text specific

/-- A row in the schema itself. -/
def directRow : Record := payRow none "S1"

/-- A row with the same names in a module. -/
def moduleRow : Record := payRow (some default) "S1"

/-- Of these two rows the schema's query answers with the one and the module's with the other. -/
theorem selectRoutines_partition_sameNames :
    (∀ record ∈ [directRow, moduleRow], record.Placed) ∧
      Catalog.Answers ⟨[directRow, moduleRow], []⟩ default (.container (.app none)) [directRow] ∧
      Catalog.Answers ⟨[directRow, moduleRow], []⟩ default (.container (.app (some default)))
        [moduleRow] := by
  have placed : ∀ record ∈ [directRow, moduleRow], record.Placed := by
    rintro record (_ | ⟨_, _ | ⟨_, ⟨⟩⟩⟩)
    · exact placed_payRow none "S1"
    · exact placed_payRow (some default) "S1"
  obtain ⟨_, each, _⟩ := selectRoutines_partition ⟨[directRow, moduleRow], []⟩ default placed
  refine ⟨placed, ?_, ?_⟩
  · obtain ⟨rows, answers, once, _⟩ := each (.app none) rfl
    have one : rows = [directRow] := List.perm_singleton.mp once
    exact one ▸ answers
  · obtain ⟨rows, answers, once, _⟩ := each (.app (some default)) rfl
    have one : rows = [moduleRow] := List.perm_singleton.mp once
    exact one ▸ answers

end Syscat
