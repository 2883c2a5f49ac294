/-
Module: Syscat.Proofs.Toml.Layout
Purpose: The lines that records are laid out in: the entries of a record behind its header, and then the
  records inside it, level by level. All of these lines are taken as they are.
Main exports: Toml.Table, Toml.recordLines, Toml.writeTables_eq, Toml.passes_recordLines
-/
import Syscat.Proofs.Toml.Entry

namespace Syscat.Toml

/-- A record that can be written as a table: each of its fields has a name of its own and holds a
record or a simple value that comes back, and some field holds a simple value. -/
structure Table (fields : TableFields) : Prop where
  distinct : (Document.names fields).Nodup
  bare : ∀ name ∈ Document.names fields, Bare name
  filled : ∃ field ∈ fields, field.2.isSimple = true
  each : ∀ field ∈ fields, (∃ inner, field.2 = .record inner) ∨ ∃ part, Shown field.2 part

/-- The records among the fields of a record. -/
def records : TableFields → List (String × TableFields)
  | [] => []
  | (name, .record fields) :: rest => (name, fields) :: records rest
  | _ :: rest => records rest

/-! ### Entries -/

/-- The lines of the simple fields of a record. -/
def entryLines : TableFields → List (List Char)
  | [] => []
  | (name, d) :: rest =>
      match simpleText? d with
      | some (.ok part) => (name.toList ++ " = ".toList ++ part) :: entryLines rest
      | _ => entryLines rest

theorem isBare_nameChars : ∀ c ∈ nameChars, isBare c = true :=
  forall_mem_of_all (by decide)

theorem nameText_bare {name : String} (bare : Bare name) : nameText name = .ok name.toList := by
  have filled : name.isEmpty = false := by
    simpa [String.isEmpty_iff] using fun none : name = "" => bare.1 (by rw [none]; rfl)
  have all : name.toList.all isBare = true :=
    List.all_eq_true.mpr fun c inside => isBare_nameChars c (bare.2 c inside)
  rw [nameText, filled, all]
  rfl

section
variable {fields : TableFields}

theorem simpleLines_eq (bare : ∀ name ∈ Document.names fields, Bare name)
    (each : ∀ field ∈ fields, (∃ inner, field.2 = .record inner) ∨ ∃ part, Shown field.2 part) :
    simpleLines fields = .ok (unlined (entryLines fields)) := by
  induction fields with
  | nil => rfl
  | cons field rest ih =>
      obtain ⟨name, d⟩ := field
      have later := ih (fun name inside => bare name (List.mem_cons_of_mem _ inside))
        fun field inside => each field (List.mem_cons_of_mem _ inside)
      have key := nameText_bare (bare name List.mem_cons_self)
      rcases each _ List.mem_cons_self with ⟨inner, same⟩ | ⟨part, shown⟩
      · obtain rfl : d = .record inner := same
        rw [simpleLines, entryLines, simpleText?]
        exact later
      · have text := shown.simpleText?
        dsimp only at text
        rw [simpleLines, entryLines, text]
        dsimp only
        rw [key, ok_bind, ok_bind, later, ok_bind, unlined_cons]
        rfl

theorem mem_records {name : String} {inner : TableFields} :
    (name, inner) ∈ records fields ↔ (name, Document.record inner) ∈ fields := by
  induction fields with
  | nil => simp [records]
  | cons field rest ih =>
      obtain ⟨other, d⟩ := field
      cases d <;> simp [records, ih]

/-- A line of an entry has a name and a value that comes back. -/
theorem mem_entryLines {line : List Char} (inside : line ∈ entryLines fields) : ∃ name d part,
    (name, d) ∈ fields ∧ simpleText? d = some (.ok part) ∧
      line = name.toList ++ " = ".toList ++ part := by
  induction fields with
  | nil => cases inside
  | cons field rest ih =>
      obtain ⟨name, d⟩ := field
      rw [entryLines] at inside
      split at inside
      case h_1 part text =>
        rcases List.mem_cons.mp inside with rfl | later
        · exact ⟨name, d, part, List.mem_cons_self, text, rfl⟩
        · obtain ⟨name, d, part, listed, rest⟩ := ih later
          exact ⟨name, d, part, List.mem_cons_of_mem _ listed, rest⟩
      case h_2 =>
        obtain ⟨name, d, part, listed, rest⟩ := ih inside
        exact ⟨name, d, part, List.mem_cons_of_mem _ listed, rest⟩

namespace Table

variable (table : Table fields)
include table

/-- The text of a simple value is one that it comes back from. -/
theorem shown {name : String} {d : Document} {part : List Char} (inside : (name, d) ∈ fields)
    (text : simpleText? d = some (.ok part)) : Shown d part := by
  rcases table.each _ inside with ⟨inner, same⟩ | ⟨own, shown⟩
  · obtain rfl : d = .record inner := same
    cases text
  · have same := shown.simpleText?
    dsimp only at same
    rw [same] at text
    cases text
    exact shown

theorem passes_entryLines {line : List Char} (inside : line ∈ entryLines fields) :
    Passes line ∧ Unbroken line := by
  obtain ⟨name, d, part, listed, text, rfl⟩ := mem_entryLines inside
  have shown := table.shown listed text
  have bare := table.bare name (List.mem_map.mpr ⟨_, listed, rfl⟩)
  refine ⟨passes_entry bare shown.passes, ?_⟩
  have noBreak := shown.unbroken
  simpa [Unbroken, noBreak.1, noBreak.2] using
    And.intro (bare.not_mem (c := '\n') (by decide)) (bare.not_mem (c := '\r') (by decide))

theorem entryLines_ne_nil : entryLines fields ≠ [] := by
  obtain ⟨⟨name, d⟩, listed, simple⟩ := table.filled
  rcases table.each _ listed with ⟨inner, same⟩ | ⟨part, shown⟩
  · rw [same] at simple
    cases simple
  · have text := shown.simpleText?
    dsimp only at text
    clear shown simple table
    induction fields with
    | nil => cases listed
    | cons field rest ih =>
        rw [entryLines]
        rcases List.mem_cons.mp listed with rfl | later
        · rw [text]
          exact List.cons_ne_nil _ _
        · split
          case h_1 => exact List.cons_ne_nil _ _
          case h_2 => exact ih later

end Table

end

/-! ### Levels -/

/-- Names with points between them. -/
def pathText (path : List String) : List Char :=
  ['.'].intercalate (path.map String.toList)

theorem pathText_concat {path : List String} (filled : path ≠ []) (name : String) :
    pathText (path ++ [name]) = pathText path ++ '.' :: name.toList := by
  induction path with
  | nil => exact absurd rfl filled
  | cons first rest ih =>
      cases rest with
      | nil => simp [pathText]
      | cons second rest =>
          have later := ih (List.cons_ne_nil _ _)
          simp only [pathText, List.cons_append, List.map_cons, List.intercalate_cons_cons] at later ⊢
          rw [later]
          simp

/-- The header of a table. -/
def header (path : List String) : List Char :=
  '[' :: (pathText path ++ [']'])

/-- Tables with their paths, as they are to be written. -/
def written (tables : List (List String × TableFields)) : List (List Char × TableFields) :=
  tables.map fun t => (pathText t.1, t.2)

/-- The lines of tables with their paths. -/
def levelLines (tables : List (List String × TableFields)) : List (List Char) :=
  tables.flatMap fun t => header t.1 :: entryLines t.2

/-- The tables inside some tables. -/
def nextLevel (tables : List (List String × TableFields)) : List (List String × TableFields) :=
  tables.flatMap fun t => (records t.2).map fun r => (t.1 ++ [r.1], r.2)

/-- The lines of tables and of so many levels inside them. -/
def levelsLines : Nat → List (List String × TableFields) → List (List Char)
  | 0, _ => []
  | depth + 1, tables => levelLines tables ++ levelsLines depth (nextLevel tables)

/-- Tables with their paths, each of which is the top of a tree of tables. -/
def Tables (tables : List (List String × TableFields)) : Prop :=
  ∀ t ∈ tables, (t.1 ≠ [] ∧ ∀ name ∈ t.1, Bare name) ∧ (Document.record t.2).Tree Table

theorem innerTables_eq {path : List String} (filled : path ≠ []) {fields : TableFields}
    (bare : ∀ name ∈ Document.names fields, Bare name) :
    innerTables (pathText path) fields =
      .ok (written ((records fields).map fun r => (path ++ [r.1], r.2))) := by
  induction fields with
  | nil => rfl
  | cons field rest ih =>
      obtain ⟨name, d⟩ := field
      have later := ih fun name inside => bare name (List.mem_cons_of_mem _ inside)
      have key := nameText_bare (bare name List.mem_cons_self)
      cases d with
      | record inner =>
          rw [innerTables, key, ok_bind, later, ok_bind, ← pathText_concat filled]
          rfl
      | _ => exact later

theorem levelText_eq {tables : List (List String × TableFields)} (sound : Tables tables) :
    levelText (written tables) = .ok (unlined (levelLines tables), written (nextLevel tables)) := by
  induction tables with
  | nil => rfl
  | cons t rest ih =>
      obtain ⟨path, fields⟩ := t
      obtain ⟨⟨⟨filled, _⟩, table, _⟩, later⟩ := List.forall_mem_cons.mp sound
      dsimp only at filled table
      have lines := simpleLines_eq table.bare table.each
      have next := innerTables_eq filled table.bare
      have some : (unlined (entryLines fields)).isEmpty = false := by
        obtain ⟨line, more, same⟩ := List.exists_cons_of_ne_nil table.entryLines_ne_nil
        rw [same, unlined_cons]
        simp
      show levelText ((pathText path, fields) :: written rest) = _
      rw [levelText, lines, ok_bind, next, ok_bind, ih later, ok_bind]
      dsimp only
      rw [some, if_neg Bool.false_ne_true]
      have shape : levelLines ((path, fields) :: rest) =
          header path :: (entryLines fields ++ levelLines rest) := by
        rw [levelLines, List.flatMap_cons]
        rfl
      have inner : nextLevel ((path, fields) :: rest) =
          (records fields).map (fun r => (path ++ [r.1], r.2)) ++ nextLevel rest := by
        rw [nextLevel, List.flatMap_cons]
        rfl
      rw [shape, inner, unlined_cons, unlined_append]
      simp [header, written]

/-- The records inside a table are tables behind its path. -/
theorem tables_records {path : List String} (bare : ∀ name ∈ path, Bare name) {fields : TableFields}
    (tree : (Document.record fields).Tree Table) :
    Tables ((records fields).map fun r => (path ++ [r.1], r.2)) := by
  intro t inside
  obtain ⟨⟨name, inner⟩, listed, rfl⟩ := List.mem_map.mp inside
  have field := mem_records.mp listed
  refine ⟨⟨by simp, fun other within => ?_⟩, (Document.fieldsTree_iff fields).mp tree.2 _ field⟩
  rcases List.mem_append.mp within with front | last
  · exact bare other front
  · rw [List.mem_singleton.mp last]
    exact tree.1.bare name (List.mem_map.mpr ⟨_, field, rfl⟩)

theorem tables_nextLevel {tables : List (List String × TableFields)} (sound : Tables tables) :
    Tables (nextLevel tables) := by
  intro t inside
  obtain ⟨outer, listed, inside⟩ := List.mem_flatMap.mp inside
  exact tables_records (sound outer listed).1.2 (sound outer listed).2 t inside

theorem levelsLines_nil (depth : Nat) : levelsLines depth [] = [] := by
  induction depth with
  | zero => rfl
  | succ depth ih => exact ih

theorem levelTexts_eq {depth : Nat} {tables : List (List String × TableFields)} (sound : Tables tables) :
    levelTexts depth (written tables) = .ok (unlined (levelsLines depth tables)) := by
  induction depth generalizing tables with
  | zero => rfl
  | succ depth ih =>
      rw [levelTexts]
      split
      case isTrue none =>
        obtain rfl : tables = [] := by simpa [written] using none
        rw [levelsLines_nil]
        rfl
      case isFalse =>
        rw [levelText_eq sound, ok_bind]
        dsimp only
        rw [ih (tables_nextLevel sound), ok_bind, levelsLines, unlined_append]
        rfl

/-- The lines of a record in the list of routines: its own entries, and behind a blank line the
records inside it, level by level. -/
def recordLines (fields : TableFields) : List (List Char) :=
  recordsHeader :: (entryLines fields ++
    [] :: levelsLines (fieldLevels fields) (nextLevel [(["routines"], fields)]))

theorem tables_routines {fields : TableFields} (tree : (Document.record fields).Tree Table) :
    Tables [(["routines"], fields)] :=
  List.forall_mem_singleton.mpr
    ⟨⟨List.cons_ne_nil _ _, show ∀ name ∈ ["routines"], Bare name by decide⟩, tree⟩

theorem arrayTable_eq {fields : TableFields} (tree : (Document.record fields).Tree Table) :
    arrayTable "routines".toList fields = .ok (unlined (recordLines fields)) := by
  have sound := tables_routines tree
  have inner : innerTables "routines".toList fields =
      .ok (written (nextLevel [(["routines"], fields)])) :=
    (@innerTables_eq ["routines"] (by simp) _ tree.1.bare).trans (by simp [nextLevel])
  rw [arrayTable, simpleLines_eq tree.1.bare tree.1.each, ok_bind, inner, ok_bind,
    levelTexts_eq (tables_nextLevel sound), ok_bind, recordLines, unlined_cons,
    unlined_append, unlined_cons]
  rfl

/-- Records that can be written as tables are written as their lines. -/
theorem writeTables_eq {tables : List TableFields} (any : tables ≠ [])
    (trees : ∀ fields ∈ tables, (Document.record fields).Tree Table) :
    writeTables "routines" tables = .ok (String.ofList (unlined (tables.flatMap recordLines))) := by
  have key : nameText "routines" = .ok "routines".toList := nameText_bare (by decide)
  have lines : arrayTables "routines".toList tables = .ok (unlined (tables.flatMap recordLines)) := by
    clear any
    induction tables with
    | nil => rfl
    | cons fields rest ih =>
        obtain ⟨first, later⟩ := List.forall_mem_cons.mp trees
        rw [arrayTables, arrayTable_eq first, ok_bind, ih later, ok_bind,
          List.flatMap_cons, unlined_append]
        rfl
  rw [writeTables, key, ok_bind, if_neg (by simpa using any), lines]
  rfl

/-! ### Reading of lines -/

theorem mem_pathText {path : List String} {c : Char} (inside : c ∈ pathText path) :
    c = '.' ∨ ∃ name ∈ path, c ∈ name.toList := by
  induction path with
  | nil => cases inside
  | cons first rest ih =>
      cases rest with
      | nil => exact .inr ⟨first, List.mem_cons_self, by simpa [pathText] using inside⟩
      | cons second rest =>
          simp only [pathText, List.map_cons, List.intercalate_cons_cons, List.append_assoc,
            List.mem_append, List.mem_singleton] at inside ih
          rcases inside with own | point | later
          · exact .inr ⟨first, List.mem_cons_self, own⟩
          · exact .inl point
          · rcases ih later with point | ⟨name, listed, own⟩
            · exact .inl point
            · exact .inr ⟨name, List.mem_cons_of_mem _ listed, own⟩

theorem isCommon_pathText {path : List String} (bare : ∀ name ∈ path, Bare name) :
    ∀ c ∈ pathText path, isCommon c = true := by
  intro c inside
  rcases mem_pathText inside with rfl | ⟨name, listed, own⟩
  · decide
  · exact isCommon_nameChars c ((bare name listed).2 c own)

theorem pathText_ne_nil {path : List String} (filled : path ≠ []) (bare : ∀ name ∈ path, Bare name) :
    pathText path ≠ [] := by
  obtain ⟨first, rest, rfl⟩ := List.exists_cons_of_ne_nil filled
  have own := (bare first List.mem_cons_self).1
  cases rest with
  | nil => simpa [pathText] using own
  | cons second rest =>
      rw [pathText, List.map_cons, List.map_cons, List.intercalate_cons_cons]
      simp

theorem passes_headerLine {path : List String} (filled : path ≠ []) (bare : ∀ name ∈ path, Bare name) :
    Passes (header path) ∧ Unbroken (header path) := by
  have common := isCommon_pathText bare
  have apart : ∀ c : Char, c ≠ '.' → c ∉ nameChars → c ∉ pathText path :=
      fun c noPoint noLetter inside => by
    rcases mem_pathText inside with point | ⟨name, listed, own⟩
    · exact noPoint point
    · exact noLetter ((bare name listed).2 c own)
  have unbroken : Unbroken (pathText path) :=
    ⟨apart '\n' (by decide) (by decide), apart '\r' (by decide) (by decide)⟩
  obtain ⟨first, more, same⟩ := List.exists_cons_of_ne_nil (pathText_ne_nil filled bare)
  rw [header, same]
  rw [same] at common unbroken
  exact ⟨passes_header common, by simpa [Unbroken] using unbroken⟩

/-- The lines of tables are taken as they are, on all levels. -/
theorem passes_levelsLines {depth : Nat} {tables : List (List String × TableFields)}
    (sound : Tables tables) : ∀ line ∈ levelsLines depth tables, Passes line ∧ Unbroken line := by
  induction depth generalizing tables with
  | zero => nofun
  | succ depth ih =>
      intro line inside
      rcases List.mem_append.mp inside with here | below
      · obtain ⟨t, listed, own⟩ := List.mem_flatMap.mp here
        obtain ⟨⟨filled, bare⟩, table, _⟩ := sound t listed
        rcases List.mem_cons.mp own with rfl | entry
        · exact passes_headerLine filled bare
        · exact table.passes_entryLines entry
      · exact ih (tables_nextLevel sound) line below

/-- The lines of a record in the list of routines are taken as they are. -/
theorem passes_recordLines {fields : TableFields} (tree : (Document.record fields).Tree Table) :
    ∀ line ∈ recordLines fields, Passes line ∧ Unbroken line := by
  intro line inside
  rcases List.mem_cons.mp inside with rfl | later
  · exact ⟨fun before rest _ => passAll_recordsHeader before rest, by decide⟩
  rcases List.mem_append.mp later with entry | below
  · exact tree.1.passes_entryLines entry
  rcases List.mem_cons.mp below with rfl | level
  · exact ⟨passes_nil, by decide⟩
  · exact passes_levelsLines (tables_nextLevel (tables_routines tree)) line level

end Syscat.Toml
