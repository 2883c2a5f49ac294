/-
Module: Syscat.Proofs.Toml.Levels
Purpose: The records inside a routine are read back level by level: behind the lines of a level every
  table of that level stands in the table around it, with its own simple entries.
Main exports: Toml.ripe, Toml.tablesAt, Toml.foldlM_level, Toml.foldlM_recordLines
-/
import Syscat.Proofs.Document.Order
import Syscat.Proofs.Toml.Opened

namespace Syscat.Toml

open Value

/-! ### Entries of tables that are read in part -/

/-- The entries of the simple fields of a record. -/
def simpleEntries : TableFields → List (Value × Value)
  | [] => []
  | (_, .record _) :: rest => simpleEntries rest
  | (name, d) :: rest => (.text name, d.toValue) :: simpleEntries rest

/-- The entries of a record once so many levels inside it have been read. -/
def ripe : Nat → TableFields → List (Value × Value)
  | 0, fields => simpleEntries fields
  | depth + 1, fields =>
      simpleEntries fields ++ (records fields).map fun r => (.text r.1, .table (ripe depth r.2))

/-- The entry of a record inside another, of which so many levels have been read. It is not there
before the first. -/
def ripeEntry : Nat → String × TableFields → List (Value × Value)
  | 0, _ => []
  | depth + 1, r => [(.text r.1, .table (ripe depth r.2))]

theorem ripe_eq (depth : Nat) (fields : TableFields) :
    ripe depth fields = simpleEntries fields ++ (records fields).flatMap (ripeEntry depth) := by
  cases depth with
  | zero => simp [ripe, ripeEntry]
  | succ depth => rw [ripe, List.map_eq_flatMap]; rfl

/-- The tables at a level inside a record, with their paths. -/
def tablesAt : Nat → List String → TableFields → List (List String × TableFields)
  | 0, path, fields => [(path, fields)]
  | depth + 1, path, fields => (records fields).flatMap fun r => tablesAt depth (path ++ [r.1]) r.2

theorem nextLevel_tablesAt (depth : Nat) (path : List String) (fields : TableFields) :
    nextLevel (tablesAt depth path fields) = tablesAt (depth + 1) path fields := by
  induction depth generalizing path fields with
  | zero => rw [tablesAt, nextLevel, List.flatMap_singleton, List.map_eq_flatMap]; rfl
  | succ depth ih =>
      rw [tablesAt, nextLevel, List.flatMap_assoc, tablesAt]
      exact congrArg (List.flatMap · (records fields)) (funext fun r => ih (path ++ [r.1]) r.2)

theorem levelLines_flatMap {α : Type} (items : List α) (f : α → List (List String × TableFields)) :
    levelLines (items.flatMap f) = items.flatMap fun a => levelLines (f a) := by
  rw [levelLines, List.flatMap_assoc]
  rfl

/-! ### Names in the way -/

/-- A name that no entry has. -/
theorem entry?_eq_none {name : String} {entries : List (Value × Value)}
    (apart : ∀ e ∈ entries, ∃ other, e.1 = .text other ∧ other ≠ name) : entry? name entries = none := by
  have none : entries.find? (fun e => equal e.1 (.text name)) = none := by
    refine List.find?_eq_none.mpr fun e inside => ?_
    obtain ⟨other, same, apart⟩ := apart e inside
    rw [same]
    simpa [equal] using apart
  rw [ entry?, none]
  rfl

theorem name_of_mem_simpleEntries {fields : TableFields} {e : Value × Value}
    (inside : e ∈ simpleEntries fields) :
    ∃ name d, e.1 = .text name ∧ (name, d) ∈ fields ∧ ∀ inner, d ≠ .record inner := by
  induction fields with
  | nil => cases inside
  | cons field rest ih =>
      obtain ⟨name, d⟩ := field
      by_cases record : ∃ inner, d = .record inner
      · obtain ⟨inner, rfl⟩ := record
        obtain ⟨name, d, same, listed, simple⟩ := ih inside
        exact ⟨name, d, same, List.mem_cons_of_mem _ listed, simple⟩
      · have simple : ∀ inner, d ≠ .record inner := fun inner same => record ⟨inner, same⟩
        rw [simpleEntries.eq_3 _ _ _ simple] at inside
        rcases List.mem_cons.mp inside with rfl | later
        · exact ⟨name, d, rfl, List.mem_cons_self, simple⟩
        · obtain ⟨name, d, same, listed, simple⟩ := ih later
          exact ⟨name, d, same, List.mem_cons_of_mem _ listed, simple⟩

/-- Fields with names of their own are told by them. -/
theorem eq_of_mem_of_distinct {fields : TableFields} (distinct : (Document.names fields).Nodup)
    {name : String} {d d' : Document} (listed : (name, d) ∈ fields) (listed' : (name, d') ∈ fields) :
    d = d' := by
  induction fields with
  | nil => cases listed
  | cons field rest ih =>
      obtain ⟨fresh, later⟩ := List.nodup_cons.mp distinct
      have inNames : ∀ d, (name, d) ∈ rest → name ∈ Document.names rest := fun d inside =>
        List.mem_map.mpr ⟨(name, d), inside, rfl⟩
      rcases List.mem_cons.mp listed with rfl | behind <;> rcases List.mem_cons.mp
        listed' with same | behind'
      · exact (Prod.mk.inj same).2.symm
      · exact absurd (inNames d' behind') fresh
      · rw [← same] at fresh
        exact absurd (inNames d behind) fresh
      · exact ih later behind behind'

/-- The records inside a record have names of their own. -/
theorem names_records (fields : TableFields) :
    ((records fields).map Prod.fst).Sublist (Document.names fields) := by
  induction fields with
  | nil => exact List.Sublist.refl _
  | cons field rest ih =>
      obtain ⟨name, d⟩ := field
      cases d with
      | record => exact ih.cons_cons _
      | _ => exact ih.cons _

section
variable {fields : TableFields} (table : Table fields)
include table

/-- A record among others is not named like a simple field, nor like a record in front of it. -/
theorem entry?_before {done rest : List (String × TableFields)} {r : String × TableFields}
    (shape : records fields = done ++ r :: rest) (depth : Nat) :
    entry? r.1 (simpleEntries fields ++ done.flatMap (ripeEntry depth)) = none := by
  have own : (r.1, Document.record r.2) ∈ fields :=
    mem_records.mp (by rw [shape]; exact List.mem_append_right _ List.mem_cons_self)
  have distinct : ((records fields).map Prod.fst).Nodup := table.distinct.sublist (names_records fields)
  rw [shape, List.map_append, List.map_cons] at distinct
  refine entry?_eq_none fun e inside => ?_
  rcases List.mem_append.mp inside with simple | before
  · obtain ⟨name, d, same, listed, simple⟩ := name_of_mem_simpleEntries simple
    refine ⟨name, same, fun equal => ?_⟩
    rw [equal] at listed
    exact simple _ (eq_of_mem_of_distinct table.distinct listed own)
  · obtain ⟨other, listed, entry⟩ := List.mem_flatMap.mp before
    cases depth with
    | zero => cases entry
    | succ depth =>
        rw [List.mem_singleton.mp entry]
        refine ⟨other.1, rfl, fun equal => ?_⟩
        exact (List.nodup_append.mp distinct).2.2 _ (List.mem_map.mpr ⟨other, listed, rfl⟩) _
          List.mem_cons_self equal

end

/-! ### Runs of lines -/

theorem simpleEntries_shown {name : String} {d : Document} {part : List Char} (shown : Shown d part)
    (rest : TableFields) :
    simpleEntries ((name, d) :: rest) = (.text name, d.toValue) :: simpleEntries rest := by
  cases shown <;> rfl

/-- The lines of the simple fields put their values behind the entries of the table that is open. -/
theorem foldlM_entryLines {path : List String} {place : List (Value × Value) → List (Value × Value)}
    (within : Within path place) (items : List Value) {fields : TableFields}
    (distinct : (Document.names fields).Nodup) (bare : ∀ name ∈ Document.names fields, Bare name)
    (each : ∀ field ∈ fields, (∃ inner, field.2 = .record inner) ∨ ∃ part, Shown field.2 part)
    {entries : List (Value × Value)}
    (fresh : ∀ name ∈ Document.names fields, entry? name entries = none) :
    (entryLines fields).foldlM Reading.readLine (openedAt items (place entries) path) =
      .ok (openedAt items (place (entries ++ simpleEntries fields)) path) := by
  induction fields generalizing entries with
  | nil => rw [simpleEntries, List.append_nil]; rfl
  | cons field rest ih =>
      obtain ⟨name, d⟩ := field
      obtain ⟨first, later⟩ := List.nodup_cons.mp distinct
      obtain ⟨own, bareLater⟩ := List.forall_mem_cons.mp bare
      obtain ⟨ownFresh, freshLater⟩ := List.forall_mem_cons.mp fresh
      obtain ⟨kind, eachLater⟩ := List.forall_mem_cons.mp each
      rcases kind with ⟨inner, same⟩ | ⟨part, shown⟩
      · obtain rfl : d = .record inner := same
        rw [entryLines, simpleText?]
        exact ih later bareLater eachLater freshLater
      · dsimp only at shown
        have still : ∀ other ∈ Document.names rest,
            entry? other (entries ++ [(.text name, d.toValue)]) = none := by
          intro other inside
          rw [entry?_append (freshLater other inside)]
          refine entry?_eq_none fun e single => ?_
          rw [List.mem_singleton.mp single]
          refine ⟨name, rfl, ?_⟩
          rintro rfl
          exact first inside
        rw [entryLines, shown.simpleText?]
        dsimp only
        rw [List.foldlM_cons, readLine_entry within items own ownFresh shown, ok_bind,
          ih later bareLater eachLater still, simpleEntries_shown shown, List.append_assoc,
          List.singleton_append]

/-- Records whose lines each bring them one level further are all brought one level further. -/
theorem foldlM_records (items : List Value) (depth : Nat) {fields : TableFields} {path : List String}
    {place : List (Value × Value) → List (Value × Value)}
    (step : ∀ done r rest, records fields = done ++ r :: rest → ∀ before, ∃ after,
      (levelLines (tablesAt depth ("routines" :: path ++ [r.1]) r.2)).foldlM Reading.readLine
          (openedAt items (place (simpleEntries fields ++ done.flatMap (ripeEntry (depth + 1)) ++
            (ripeEntry depth r ++ rest.flatMap (ripeEntry depth)))) before) =
        .ok (openedAt items (place (simpleEntries fields ++ done.flatMap (ripeEntry (depth + 1)) ++
            (ripeEntry (depth + 1) r ++ rest.flatMap (ripeEntry depth)))) after))
    (done rest : List (String × TableFields)) (shape : records fields = done ++ rest)
      (before : List String) :
    ∃ after, (rest.flatMap fun r => levelLines (tablesAt depth ("routines" :: path ++ [r.1]) r.2)).foldlM
        Reading.readLine (openedAt items
          (place (simpleEntries fields ++ done.flatMap (ripeEntry (depth + 1)) ++
          rest.flatMap (ripeEntry depth))) before) =
      .ok (openedAt items (place (ripe (depth + 1) fields)) after) := by
  induction rest generalizing done before with
  | nil =>
      refine ⟨before, ?_⟩
      rw [ripe_eq, shape, List.append_nil, List.flatMap_nil, List.flatMap_nil, List.append_nil]
      rfl
  | cons r rest ih =>
      obtain ⟨between, first⟩ := step done r rest shape before
      obtain ⟨after, later⟩ := ih (done ++ [r]) (by rw [shape, List.append_assoc]; rfl) between
      refine ⟨after, ?_⟩
      rw [List.flatMap_append, List.flatMap_singleton] at later
      rw [List.flatMap_cons, List.flatMap_cons, List.foldlM_append, first, ok_bind, ← later]
      simp only [List.append_assoc]

/-- A record inside a table has a name and is a table itself. -/
theorem tree_of_shape {fields : TableFields} (tree : (Document.record fields).Tree Table)
    {done rest : List (String × TableFields)} {r : String × TableFields}
    (shape : records fields = done ++ r :: rest) : Bare r.1 ∧ (Document.record r.2).Tree Table := by
  have field : (r.1, Document.record r.2) ∈ fields :=
    mem_records.mp (by rw [shape]; exact List.mem_append_right _ List.mem_cons_self)
  exact ⟨tree.1.bare _ (List.mem_map.mpr ⟨_, field, rfl⟩),
    (Document.fieldsTree_iff fields).mp tree.2 _ field⟩

/-- The lines of the tables at a level put each of them into the table around it. The induction is on the
level; a table further down is reached through the record that it stands in. -/
theorem foldlM_level (items : List Value) (depth : Nat) {fields : TableFields}
    (tree : (Document.record fields).Tree Table) {path : List String}
    {place : List (Value × Value) → List (Value × Value)} (within : Within path place)
    (named : ∀ n ∈ path, Bare n) (before : List String) : ∃ after,
    (levelLines (tablesAt (depth + 1) ("routines" :: path) fields)).foldlM Reading.readLine
        (openedAt items (place (ripe depth fields)) before) =
      .ok (openedAt items (place (ripe (depth + 1) fields)) after) := by
  induction depth generalizing fields path place before with
  | zero =>
      rw [tablesAt, levelLines_flatMap, ripe_eq]
      have all := @foldlM_records items 0 fields path place
        (fun done r rest shape before => ?_) [] (records fields) rfl before
      · simpa using all
      · obtain ⟨bare, table, _⟩ := tree_of_shape tree shape
        have fresh := entry?_before tree.1 shape 1
        have opened := readLine_header within items bare fresh named before
        have filled := @foldlM_entryLines _ _ (within.concat fresh []) items _ table.distinct table.bare
          table.each [] fun _ _ => rfl
        have none : rest.flatMap (ripeEntry 0) = [] := List.flatMap_eq_nil_iff.mpr fun _ _ => rfl
        refine ⟨path ++ [r.1], ?_⟩
        rw [none, ripeEntry, ripeEntry, List.append_nil, List.append_nil, tablesAt, levelLines,
          List.flatMap_singleton, List.foldlM_cons, List.cons_append, opened, ok_bind, ripe]
        exact filled
  | succ depth ih =>
      rw [tablesAt, levelLines_flatMap, ripe_eq]
      have all := @foldlM_records items (depth + 1) fields path place
        (fun done r rest shape before => ?_) [] (records fields) rfl before
      · simpa using all
      · obtain ⟨bare, inner⟩ := tree_of_shape tree shape
        have fresh := entry?_before tree.1 shape (depth + 2)
        have deeper : ∀ n ∈ path ++ [r.1], Bare n := fun n inside => by
          rcases List.mem_append.mp inside with front | last
          · exact named n front
          · rw [List.mem_singleton.mp last]
            exact bare
        exact ih inner (within.concat fresh (rest.flatMap (ripeEntry (depth + 1)))) deeper before

/-- The lines of so many levels put the tables on all of them into the last routine. -/
theorem foldlM_levels (items : List Value) {fields : TableFields}
    (tree : (Document.record fields).Tree Table) (depth done : Nat) (before : List String) :
    ∃ after, (levelsLines depth (tablesAt (done + 1) ["routines"] fields)).foldlM Reading.readLine
        (openedAt items (ripe done fields) before) =
      .ok (openedAt items (ripe (done + depth) fields) after) := by
  induction depth generalizing done before with
  | zero => exact ⟨before, rfl⟩
  | succ depth ih =>
      obtain ⟨between, first⟩ := foldlM_level items done tree .here nofun before
      obtain ⟨after, later⟩ := ih (done + 1) between
      refine ⟨after, ?_⟩
      rw [levelsLines, List.foldlM_append]
      refine (congrArg (· >>= _) first).trans ?_
      rw [ok_bind, nextLevel_tablesAt]
      exact later.trans (by rw [Nat.add_assoc, Nat.add_comm 1 depth])

/-- The lines of a routine behind its header put all of it behind the routines before. -/
theorem foldlM_recordLines (items : List Value) {fields : TableFields}
    (tree : (Document.record fields).Tree Table) {r : Reading}
    (opens : r.readLine recordsHeader = .ok (openedAt items [] [])) : ∃ after,
    (recordLines fields).foldlM Reading.readLine r =
      .ok (openedAt items (ripe (fieldLevels fields) fields) after) := by
  have own := @foldlM_entryLines _ _ .here items _ tree.1.distinct tree.1.bare tree.1.each
    [] fun _ _ => rfl
  obtain ⟨after, below⟩ := foldlM_levels items tree (fieldLevels fields) 0 []
  refine ⟨after, ?_⟩
  rw [← nextLevel_tablesAt, tablesAt, Nat.zero_add] at below
  rw [recordLines, List.foldlM_cons, opens, ok_bind, List.foldlM_append]
  refine (congrArg (· >>= _) own).trans ?_
  rw [ok_bind, List.foldlM_cons]
  exact below

/-- The routines of a document are read back in order. -/
theorem foldlM_routines {tables : List TableFields}
    (trees : ∀ fields ∈ tables, (Document.record fields).Tree Table) (items : List Value)
    (last : List (Value × Value)) (before : List String) : ∃ items' last' after,
    (tables.flatMap recordLines).foldlM Reading.readLine (openedAt items last before) =
        .ok (openedAt items' last' after) ∧
      items' ++ [.table last'] =
        items ++ .table last :: tables.map fun fields => .table (ripe (fieldLevels fields) fields) := by
  induction tables generalizing items last before with
  | nil => exact ⟨items, last, before, rfl, rfl⟩
  | cons fields rest ih =>
      obtain ⟨tree, later⟩ := List.forall_mem_cons.mp trees
      obtain ⟨between, first⟩ :=
        foldlM_recordLines (items ++ [.table last]) tree (readLine_recordsHeader items last before)
      obtain ⟨items', last', after, run, same⟩ :=
        ih later (items ++ [.table last]) (ripe (fieldLevels fields) fields) between
      refine ⟨items', last', after, ?_, ?_⟩
      · rw [List.flatMap_cons, List.foldlM_append, first, ok_bind, run]
      · rw [same, List.append_assoc]
        rfl

/-- Records in a list of routines are read back from their lines, each with the records inside it
behind its simple fields. -/
theorem read_routines {tables : List TableFields} (any : tables ≠ [])
    (trees : ∀ fields ∈ tables, (Document.record fields).Tree Table) :
    read (unlined (tables.flatMap recordLines)) =
      .ok (routinesTable (tables.map fun fields => .table (ripe (fieldLevels fields) fields))) := by
  obtain ⟨fields, rest, rfl⟩ := List.exists_cons_of_ne_nil any
  obtain ⟨tree, later⟩ := List.forall_mem_cons.mp trees
  obtain ⟨before, first⟩ := foldlM_recordLines [] tree readLine_first
  obtain ⟨items, last, after, run, same⟩ :=
    foldlM_routines later [] (ripe (fieldLevels fields) fields) before
  have pass : ∀ line ∈ (fields :: rest).flatMap recordLines, Passes line ∧ Unbroken line := by
    intro line inside
    obtain ⟨own, listed, within⟩ := List.mem_flatMap.mp inside
    exact passes_recordLines (trees own listed) line within
  obtain ⟨more, begins⟩ : ∃ more, (fields :: rest).flatMap recordLines = recordsHeader :: more := ⟨_, rfl⟩
  rw [begins] at pass
  have split := lines_unlined (fun line inside => (pass line (List.mem_cons_of_mem _ inside)).1)
    fun line inside => (pass line (List.mem_cons_of_mem _ inside)).2
  rw [← begins] at split
  rw [read, split, ok_bind, List.flatMap_cons, List.foldlM_append, List.foldlM_append, first,
    ok_bind, run, ok_bind]
  show Except.ok (routinesTable (items ++ [.table last])) = _
  rw [same]
  rfl

/-- Whether a value is the table of no routines. -/
def isNoRoutines : Value → Bool
  | .table [(.text name, .list [])] => name == "routines"
  | _ => false

theorem eq_of_isNoRoutines {v : Value} (same : isNoRoutines v = true) : v = routinesTable [] := by
  unfold isNoRoutines at same
  split at same
  case h_1 name => rw [eq_of_beq same]; rfl
  case h_2 => cases same

/-- An empty list of routines is written on one line and read back. -/
theorem read_noRoutines : writeTables "routines" [] = .ok "routines = []\n" ∧
    read "routines = []\n".toList = .ok (routinesTable []) := by
  refine ⟨rfl, ?_⟩
  have found : (read "routines = []\n".toList).toOption.any isNoRoutines = true := by decide +kernel
  cases result : read "routines = []\n".toList with
  | error e => rw [result] at found; cases found
  | ok v => rw [result] at found; exact congrArg Except.ok (eq_of_isNoRoutines found)

/-! ### The order of fields -/

section
variable {sort : TableFields → Prop}

/-- A simple document is the same in any order of fields. -/
theorem tablesLast_simple {d : Document} (tree : d.Tree sort) (simple : ∀ inner, d ≠ .record inner) :
    d.toValue.isTable = false ∧ d.toValue.tablesLast = d.toValue := by
  cases d with
  | record inner => exact absurd rfl (simple inner)
  | list => exact tree.elim
  | _ => exact ⟨rfl, rfl⟩

theorem simpleEntries_eq {fields : TableFields} (trees : Document.FieldsTree sort fields) :
    simpleEntries fields = entriesWhere false (Document.fieldEntries fields) := by
  induction fields with
  | nil => rfl
  | cons field rest ih =>
      obtain ⟨name, d⟩ := field
      obtain ⟨tree, later⟩ := trees
      by_cases record : ∃ inner, d = .record inner
      · obtain ⟨inner, rfl⟩ := record
        rw [simpleEntries, ih later]
        rfl
      · have simple : ∀ inner, d ≠ .record inner := fun inner same => record ⟨inner, same⟩
        obtain ⟨noTable, same⟩ := tablesLast_simple tree simple
        rw [simpleEntries.eq_3 _ _ _ simple, ih later, Document.fieldEntries, entriesWhere, noTable,
          if_pos rfl, same]

theorem entriesWhere_tables {fields : TableFields} (trees : Document.FieldsTree sort fields) :
    entriesWhere true (Document.fieldEntries fields) =
      (records fields).map fun r => (.text r.1, (Document.record r.2).toValue.tablesLast) := by
  induction fields with
  | nil => rfl
  | cons field rest ih =>
      obtain ⟨name, d⟩ := field
      obtain ⟨tree, later⟩ := trees
      rw [Document.fieldEntries, entriesWhere, ih later]
      cases d with
      | list => exact tree.elim
      | _ => rfl

/-- A record inside another has fewer levels inside it. -/
theorem levels_record_lt {fields : TableFields} {r : String × TableFields} (inside : r ∈ records fields) :
    fieldLevels r.2 < fieldLevels fields := by
  have field := mem_records.mp (show (r.1, r.2) ∈ records fields from inside)
  clear inside
  induction fields with
  | nil => cases field
  | cons first rest ih =>
      obtain ⟨name, d⟩ := first
      rw [fieldLevels]
      rcases List.mem_cons.mp field with same | later
      · obtain rfl : Document.record r.2 = d := (Prod.mk.inj same).2
        rw [levels]
        omega
      · have := ih later
        omega

/-- A record that has been read on all levels has its tables behind its other entries. -/
theorem ripe_eq_tablesLast {depth : Nat} {fields : TableFields}
    (tree : (Document.record fields).Tree sort) (deep : fieldLevels fields ≤ depth) :
    .table (ripe depth fields) = (Document.record fields).toValue.tablesLast := by
  induction depth generalizing fields with
  | zero =>
      have none : records fields = [] := by
        cases found : records fields with
        | nil => rfl
        | cons r rest =>
            have deeper : fieldLevels r.2 < fieldLevels fields :=
              levels_record_lt (by rw [found]; exact List.mem_cons_self)
            omega
      rw [Document.toValue, tablesLast, entriesWhere_tables tree.2, none, ← simpleEntries_eq tree.2, ripe,
        List.map_nil, List.append_nil]
  | succ depth ih =>
      have below : ∀ r ∈ records fields,
          Value.table (ripe depth r.2) = (Document.record r.2).toValue.tablesLast := by
        intro r inside
        have field := mem_records.mp (show (r.1, r.2) ∈ records fields from inside)
        have deeper := levels_record_lt inside
        exact ih ((Document.fieldsTree_iff fields).mp tree.2 _ field) (by omega)
      rw [Document.toValue, tablesLast, entriesWhere_tables tree.2, ← simpleEntries_eq tree.2, ripe]
      exact congrArg (fun tables => Value.table (simpleEntries fields ++ tables))
        (List.map_congr_left fun r inside => by rw [below r inside])

end

end Syscat.Toml
