/-
Module: Syscat.Proofs.Catalog.Described
Purpose: What a descriptor that is mapped from an answer of the catalog says of the stored row that it
  comes from: the names of the routine, its container and the schema of that. A scan's outcomes stand
  for the rows of the answer in order.
Main exports: Record.get_cut, Routine.Describes, describes_mapRoutine, Catalog.scan_outcome
-/
import Syscat.Proofs.Catalog.Order
import Syscat.Proofs.Mapping.Gating
import Syscat.Proofs.Mapping.Scan

namespace Syscat

/-! ### Columns of an answer -/

/-- Columns with texts as names make up a row. -/
theorem Row.named_texts (cells : List (String × Value)) :
    Row.named (cells.map fun cell => (.text cell.1, cell.2)) = .ok cells := by
  induction cells with
  | nil => rfl
  | cons cell rest ih =>
      rw [List.map_cons, Row.named, ih]
      rfl

theorem readRow_source (record : Record) :
    readRow record.source = .ok ⟨Row.collect record⟩ := by
  rw [readRow_of_supported rfl]
  change Row.ofEntries _ = _
  rw [Row.ofEntries, Row.named_texts]
  rfl

/-- The names of the columns of the view of routines are in upper case. -/
theorem uppercased_of_mem_routineView {column : String} (inside : column ∈ routineView.columns) :
    uppercased column = column := by
  have upper : ∀ c ∈ routineView.columns, uppercased c = c := by decide +kernel
  exact upper column inside

/-- A row that is cut down to some columns, with names in upper case, reads as before in each of them. -/
theorem Record.get_cut (record : Record) {columns : List String}
    (upper : ∀ c ∈ columns, uppercased c = c) {column : String} (inside : column ∈ columns) :
    (Row.mk (Row.collect (record.cut columns))).get column = record.get column := by
  rw [Row.get_collect, cut, ← List.map_reverse, List.find?_map]
  cases found : columns.reverse.find? ((fun cell => uppercased cell.1 == uppercased column) ∘
      fun c => (c, record.get c)) with
  | none =>
      have missed := List.find?_eq_none.mp found column (List.mem_reverse.mpr inside)
      simp at missed
  | some c =>
      have same : uppercased c = uppercased column := by simpa using List.find?_some found
      have listed := List.mem_reverse.mp (List.mem_of_find?_eq_some found)
      rw [upper c listed, upper column inside] at same
      rw [same]
      rfl

/-- An answer of the catalog holds in a column that every server provides what the stored row holds. -/
theorem Record.get_of_readRow {record : Record} {capabilities : Capabilities} {row : Row}
    (read : readRow (record.cut (routineColumns capabilities)).source = .ok row) {column : String}
    (inView : column ∈ routineView.columns) (everywhere : Feature.ofColumn? column = none) :
    row.get column = record.get column := by
  rw [readRow_source] at read
  cases read
  refine record.get_cut (fun c inside => ?_) (mem_routineColumns inView everywhere)
  exact uppercased_of_mem_routineView (List.mem_of_mem_filter inside)

/-! ### A descriptor and its row -/

/-- A descriptor has the names of a stored row and the container that the row is mapped with. -/
structure Routine.Describes (record : Record) (container : Container) (routine : Routine) : Prop where
  name : record.get "ROUTINENAME" = .text routine.name.val
  specificName : record.get "SPECIFICNAME" = textValue routine.specificName
  owner : routine.container = container
  schema : container.schema? = some routine.effectiveSchema

/-- A name reads as it stands. -/
theorem Row.text?_of_isName {row : Row} {column : String} (named : (row.get column).IsName)
    {text : Option String} (read : row.text? column = .ok text) : row.get column = textValue text := by
  rw [Row.text?] at read
  generalize row.get column = v at named read
  cases named with
  | null =>
      cases read
      rfl
  | text s =>
      cases read
      rfl

theorem Row.get_of_routineName {row : Row} {name : FilledText}
    (named : (row.get "ROUTINENAME").IsName) (found : routineName row = .ok name) :
    row.get "ROUTINENAME" = .text name.val := by
  obtain ⟨text, read, filled⟩ := bind_eq_ok_iff.mp found
  have stands := Row.text?_of_isName named read
  by_cases empty : text.getD "" = ""
  · simp [empty] at filled
  · simp only [empty, dif_neg, not_false_eq_true] at filled
    cases filled
    cases text with
    | none => exact absurd rfl empty
    | some s => exact stands

theorem resolveOwner_container {c c' : Container} {schema : Schema}
    (resolved : resolveOwner (.container c) = .ok (c', schema)) :
    c' = c ∧ c.schema? = some schema := by
  unfold resolveOwner at resolved
  split at resolved
  case h_1 found s same inSchema =>
    cases same
    cases resolved
    exact ⟨rfl, inSchema⟩
  case h_2 => cases resolved

section
variable {record : Record} {container : Container} {capabilities : Capabilities}
  {options : MappingOptions} {routine : Routine}

/-- A routine that is mapped from an answer without overrides describes the stored row, and the naming
rule gave its qualified name. -/
theorem describes_mapRoutine (named : record.Named ["ROUTINENAME", "SPECIFICNAME"])
    (plain : options.overrides = [])
    (mapped : (mapRoutine (record.cut (routineColumns capabilities)).source (.container container)
      capabilities options).result = .ok routine) :
    routine.Describes record container ∧
      namingAnswer routine.name.val (options.naming (.container container) routine.name.val) =
        .ok routine.qualifiedName := by
  obtain ⟨row, rowRead, readFrom, nameRead, resolved, answered⟩ := mapRoutine_eq_ok plain mapped
  have nameHeld : row.get "ROUTINENAME" = record.get "ROUTINENAME" :=
    Record.get_of_readRow rowRead (by decide) rfl
  have specificNameHeld : row.get "SPECIFICNAME" = record.get "SPECIFICNAME" :=
    Record.get_of_readRow rowRead (by decide) rfl
  obtain ⟨sameContainer, schemaFound⟩ := resolveOwner_container resolved
  refine ⟨⟨?_, ?_, sameContainer, schemaFound⟩, answered⟩
  · rw [← nameHeld]
    exact Row.get_of_routineName (nameHeld ▸ named _ (by simp)) nameRead
  · rw [← specificNameHeld]
    exact Row.text?_of_isName (specificNameHeld ▸ named _ (by simp)) readFrom.specificName

/-- Under the standard naming rule the qualified name is made of the container's chain of names and the
name of the routine. -/
theorem qualifiedName_of_standard {chain : List String} (found : container.chain? = some chain)
    {name : String} {qualified : FilledText}
    (answered : namingAnswer name (NamingRule.standard (.container container) name) = .ok qualified) :
    qualified.val = qualifiedName (chain ++ [name]) := by
  have answer : NamingRule.standard (.container container) name =
      .ok (.text (qualifiedName (chain ++ [name]))) := by
    rw [NamingRule.standard, Owner.qualifiedName?, Owner.chain?, found]
    rfl
  rw [answer, namingAnswer] at answered
  split at answered
  case isTrue => cases answered
  case isFalse =>
    cases answered
    rfl

end

/-! ### The outcomes of a scan -/

/-- An outcome tells what mapping the row came to. -/
theorem tells_outcomeOf {index : Nat} {mapped : Logged Routine} {outcome : RowOutcome}
    (ended : (outcomeOf index mapped).result = .ok outcome) : outcome.Tells index mapped := by
  unfold outcomeOf at ended
  split at ended
  case h_1 routine ok =>
    cases ended
    exact ⟨rfl, ok⟩
  case h_2 e failed =>
    cases ended
    exact ⟨rfl, failed⟩
  case h_3 => cases ended

section
variable {owner : Owner} {capabilities : Capabilities} {options : MappingOptions}

/-- A scan that goes through gives one outcome for each row. -/
theorem outcomesOf_outcomesFrom {rows : List RowSource} {index : Nat} {outcomes : List RowOutcome}
    (ended : (outcomesFrom owner capabilities options index rows).result = .ok outcomes) :
    OutcomesOf (mapRoutine · owner capabilities options) index rows outcomes := by
  induction rows generalizing index outcomes with
  | nil =>
      cases ended
      exact .nil index
  | cons source rows ih =>
      simp only [outcomesFrom_cons, Logged.result_bind, Logged.result_pure, bind_eq_ok_iff] at ended
      obtain ⟨outcome, first, others, rest, same⟩ := ended
      cases same
      exact .cons (tells_outcomeOf first) (ih rest)

/-- Each outcome stands for the row at its index. -/
theorem OutcomesOf.row_of_mem {mapRow : RowSource → Logged Routine} {index : Nat}
    {rows : List RowSource} {outcomes : List RowOutcome}
    (outcomesOf : OutcomesOf mapRow index rows outcomes) {outcome : RowOutcome}
    (inside : outcome ∈ outcomes) : ∃ k source, outcome.index = index + k ∧ rows[k]? = some source ∧
      outcome.Tells outcome.index (mapRow source) := by
  induction outcomesOf with
  | nil => cases inside
  | @cons index source rows first outcomes tells rest ih =>
      rcases List.mem_cons.mp inside with rfl | behind
      · exact ⟨0, source, tells.index_eq, rfl, rfl, tells.result_eq⟩
      · obtain ⟨k, source', place, found, tells'⟩ := ih behind
        exact ⟨k + 1, source', by omega, found, tells'⟩

/-- Each routine among the outcomes of a scan of the catalog was mapped from the row of the answer at the
outcome's index. -/
theorem Catalog.scan_outcome {catalog : Catalog} {selected : Owner} {q : Query} {table rows : List Record}
    (query : selectRoutines capabilities selected = .ok q)
    (lists : q.Lists table rows (q.answer catalog.routines)) {outcomes : List RowOutcome}
    (scanned : (catalog.scan selected owner capabilities options).result = .ok outcomes)
    {outcome : RowOutcome} (inside : outcome ∈ outcomes) {routine : Routine}
    (mapped : outcome.result = .ok routine) :
    ∃ record, rows[outcome.index]? = some record ∧
      (mapRoutine (record.cut q.columns).source owner capabilities options).result = .ok routine := by
  have answered : catalog.routinesOf selected capabilities =
      .ok ((q.answer catalog.routines).map Record.source) := by
    rw [Catalog.routinesOf, query]
    rfl
  rw [Catalog.scan, answered, Logged.result_bind_of_ok _ rfl, result_mapRoutines] at scanned
  obtain ⟨k, source, place, found, tells⟩ := (outcomesOf_outcomesFrom scanned).row_of_mem inside
  rw [Nat.zero_add] at place
  rw [lists.cut, List.map_map, List.getElem?_map, Option.map_eq_some_iff] at found
  obtain ⟨record, here, rfl⟩ := found
  refine ⟨record, place ▸ here, ?_⟩
  have result := tells.result_eq
  rw [mapped] at result
  exact result

end

end Syscat
