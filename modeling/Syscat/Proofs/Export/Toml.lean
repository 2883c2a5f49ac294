/-
Module: Syscat.Proofs.Export.Toml
Purpose: The export in TOML loses nothing as long as every text comes back from its quotation marks. Some
  texts do not, and some cannot be written at all.
Main exports: Value.EveryText, exportRoutines_toml_faithful, not_forall_exportRoutines_toml
-/
import Syscat.Proofs.Document.Stored
import Syscat.Proofs.Export.Mapped
import Syscat.Proofs.Toml.Levels

namespace Syscat

namespace Value

mutual

/-- Something holds of every text in a value. The names in tables do not count. -/
def EveryText (P : String → Prop) : Value → Prop
  | text s => P s
  | list items => EveryItemText P items
  | tuple items => EveryItemText P items
  | table entries => EveryEntryText P entries
  | _ => True

/-- Something holds of every text in the items of a sequence. -/
def EveryItemText (P : String → Prop) : List Value → Prop
  | [] => True
  | v :: rest => v.EveryText P ∧ EveryItemText P rest

/-- Something holds of every text in the values of a table. -/
def EveryEntryText (P : String → Prop) : List (Value × Value) → Prop
  | [] => True
  | (_, v) :: rest => v.EveryText P ∧ EveryEntryText P rest

end

section
variable {P : String → Prop} [DecidablePred P]

mutual

instance decidableEveryText : (v : Value) → Decidable (v.EveryText P)
  | text s => inferInstanceAs (Decidable (P s))
  | list items => decidableEveryItemText items
  | tuple items => decidableEveryItemText items
  | table entries => decidableEveryEntryText entries
  | null | flag _ | integer _ | double _ | decimal _ | octets _ | buffer _ | moment _ | day _ | clock _ =>
      isTrue trivial

instance decidableEveryItemText : (items : List Value) → Decidable (EveryItemText P items)
  | [] => isTrue trivial
  | v :: rest =>
      have := decidableEveryText v
      have := decidableEveryItemText rest
      inferInstanceAs (Decidable (_ ∧ _))

instance decidableEveryEntryText : (entries : List (Value × Value)) → Decidable (EveryEntryText P entries)
  | [] => isTrue trivial
  | (_, v) :: rest =>
      have := decidableEveryText v
      have := decidableEveryEntryText rest
      inferInstanceAs (Decidable (_ ∧ _))

end

end

end Value

namespace Routine

theorem bare_fieldNames : ∀ name ∈ fieldNames, Toml.Bare name := by decide +kernel

/-- A sort of records: the names are a routine's, some value is simple, and none is null. -/
def Whole (fields : List (String × Document)) : Prop :=
  (Named fields ∧ Filled fields) ∧ ∀ field ∈ fields, field.2.isNull = false

open Document in
/-- A document that is neither null nor a record is written so that it comes back. -/
theorem exists_shown {d : Document} (tree : d.Tree Whole) (present : d.isNull = false)
    (short : d.toValue.Spellable) (faithful : d.toValue.EveryText fun s => Toml.Faithful s.toList) :
    (∃ inner, d = .record inner) ∨ ∃ part, Toml.Shown d part := by
  cases d with
  | null => cases present
  | flag b => exact .inr ⟨_, .flag b⟩
  | integer n => exact .inr ⟨_, .integer (integerDigits_eq short)⟩
  | text s => exact .inr ⟨_, .text faithful⟩
  | list => exact tree.elim
  | record inner => exact .inl ⟨inner, rfl⟩

open Document in
mutual

/-- A tree of whole records whose integers are short and whose texts come back is one of tables. -/
theorem tree_table : (d : Document) → d.Tree Whole → d.toValue.Spellable →
    d.toValue.EveryText (fun s => Toml.Faithful s.toList) → d.Tree Toml.Table
  | .null, _, _, _ | .flag _, _, _, _ | .integer _, _, _, _ | .text _, _, _, _ => trivial
  | .list _, tree, _, _ => tree.elim
  | .record fields, ⟨⟨⟨named, filled⟩, present⟩, below⟩, short, faithful => by
      obtain ⟨inner, each⟩ := fieldsTree_table fields below short faithful
      exact ⟨⟨named.1, fun name listed => bare_fieldNames name (named.2 name listed), filled,
        each present⟩, inner⟩

theorem fieldsTree_table : (fields : List (String × Document)) → FieldsTree Whole fields →
    Value.EntriesSpellable (fieldEntries fields) →
    Value.EveryEntryText (fun s => Toml.Faithful s.toList) (fieldEntries fields) →
    FieldsTree Toml.Table fields ∧ ((∀ field ∈ fields, field.2.isNull = false) →
      ∀ field ∈ fields, (∃ inner, field.2 = .record inner) ∨ ∃ part, Toml.Shown field.2 part)
  | [], _, _, _ => ⟨trivial, fun _ => nofun⟩
  | (_, d) :: rest, ⟨tree, below⟩, ⟨_, short, shortLater⟩, ⟨faithful, faithfulLater⟩ => by
      obtain ⟨inner, each⟩ := fieldsTree_table rest below shortLater faithfulLater
      refine ⟨⟨tree_table d tree short faithful, inner⟩, fun present => ?_⟩
      obtain ⟨own, later⟩ := List.forall_mem_cons.mp present
      exact List.forall_mem_cons.mpr ⟨exists_shown tree own short faithful, each later⟩

end

/-- The records of a routine that a row is mapped to are tables if its texts come back. -/
theorem Mapped.tree_table {r : Routine} (mapped : r.Mapped) (short : r.dump.Spellable)
    (faithful : r.dump.EveryText fun s => Toml.Faithful s.toList) :
    (Document.record (routineFields r)).Tree Toml.Table := by
  rw [← r.toValue_routineFields] at short faithful
  exact Routine.tree_table _ mapped.tree_routineFields short faithful

/-- What is read back of a routine is what it says, with the tables behind the other entries. -/
theorem table_ripe {r : Routine} (tree : (Document.record (routineFields r)).Tree Toml.Table) :
    .table (Toml.ripe (Toml.fieldLevels (routineFields r)) (routineFields r)) = r.dump.tablesLast := by
  rw [Toml.ripe_eq_tablesLast tree (Nat.le_refl _), r.toValue_routineFields]

theorem equal_tablesLast_dump (r : Routine) : r.dump.tablesLast.equal r.dump = true := by
  rw [← r.toValue_routineFields]
  exact Document.equal_tablesLast _

end Routine

/-- Routines that rows are mapped to are exported in TOML if their integers can be written and their texts
come back from their quotation marks. The text, stored in a file that is named for TOML, is read back as a
table with the list of what the routines say, in order. Only the tables in a routine have moved behind its
other entries, which makes no difference. -/
theorem exportRoutines_toml_faithful (mapped : Logged (List Routine)) {routines : List Routine}
    (done : mapped.result = .ok routines) (rows : ∀ r ∈ routines, r.Mapped)
    (short : ∀ r ∈ routines, r.dump.Spellable)
    (faithful : ∀ r ∈ routines, r.dump.EveryText fun s => Toml.Faithful s.toList) {stem : String}
    (legal : '\x00' ∉ stem.toList) :
    ∃ text, exportRoutines (.text "toml") mapped = ⟨mapped.notices, .ok text⟩ ∧
      (File.stored stem .toml text).read =
        .ok (.table [(.text "routines", .list (routines.map fun r => r.dump.tablesLast))]) ∧
      ∀ r ∈ routines, r.dump.tablesLast.equal r.dump = true := by
  have equal : ∀ r ∈ routines, r.dump.tablesLast.equal r.dump = true := fun r _ => r.equal_tablesLast_dump
  have exported : ∀ text, writeRoutines .toml routines = .ok text →
      exportRoutines (.text "toml") mapped = ⟨mapped.notices, .ok text⟩ := fun text written => by
    rw [exportRoutines_of_ok rfl done, written]
    rfl
  by_cases any : routines = []
  · obtain ⟨written, read⟩ := Toml.read_noRoutines
    subst any
    refine ⟨"routines = []\n", exported _ written, ?_, equal⟩
    rw [File.read_stored legal .toml (by decide)]
    exact read
  · have trees : ∀ fields ∈ routines.map routineFields, (Document.record fields).Tree Toml.Table := by
      intro fields inside
      obtain ⟨r, listed, rfl⟩ := List.mem_map.mp inside
      exact (rows r listed).tree_table (short r listed) (faithful r listed)
    have some : routines.map routineFields ≠ [] := by simpa using any
    have unbroken : ∀ line ∈ (routines.map routineFields).flatMap Toml.recordLines,
        Toml.Unbroken line := by
      intro line inside
      obtain ⟨fields, listed, own⟩ := List.mem_flatMap.mp inside
      exact (Toml.passes_recordLines (trees fields listed) line own).2
    refine ⟨_, exported _ (Toml.writeTables_eq some trees), ?_, equal⟩
    rw [File.read_stored legal .toml (by rw [String.toList_ofList]; exact Toml.not_mem_unlined unbroken),
      String.toList_ofList]
    refine (Toml.read_routines some trees).trans ?_
    rw [Toml.routinesTable, List.map_map]
    have same :
        routines.map ((fun fields => .table (Toml.ripe (Toml.fieldLevels fields) fields)) ∘
          routineFields) = routines.map fun r => r.dump.tablesLast :=
      List.map_congr_left fun r listed =>
        Routine.table_ripe (trees _ (List.mem_map.mpr ⟨r, listed, rfl⟩))
    rw [same]

/-- A remark with a path, quotation marks, a line end and characters that do not show. -/
def pathRemark : String :=
  "C:\\users: \"é\"\n\t\u200b\\new 😀"

/-- Such a remark comes back from the file. -/
theorem exportRoutines_toml_pathRemark :
    (remarkRoutine 7 pathRemark).dump.Spellable ∧
      ∃ text, exportRoutines (.text "toml") (pure [remarkRoutine 7 pathRemark]) = ⟨[], .ok text⟩ ∧
        (File.stored "routines" .toml text).read =
          .ok (.table [(.text "routines", .list [(remarkRoutine 7 pathRemark).dump.tablesLast])]) ∧
        ∀ r ∈ [remarkRoutine 7 pathRemark], r.dump.tablesLast.equal r.dump = true :=
  have short : (remarkRoutine 7 pathRemark).dump.Spellable :=
    (Value.literal?_isSome_iff _).mp (by decide +kernel)
  ⟨short, exportRoutines_toml_faithful (pure [remarkRoutine 7 pathRemark]) rfl
    (List.forall_mem_singleton.mpr (mapped_remarkRoutine 7 pathRemark))
    (List.forall_mem_singleton.mpr short) (List.forall_mem_singleton.mpr (by decide +kernel)) (by decide)⟩

/-- A control character keeps a routine from being exported in TOML. -/
theorem not_forall_exportRoutines_toml :
    ¬ ∀ r : Routine, r.Mapped → r.dump.Spellable →
      ∃ text, exportRoutines (.text "toml") (pure [r]) = ⟨[], .ok text⟩ := by
  intro every
  have short : (remarkRoutine 7 "\x01").dump.Spellable :=
      (Value.literal?_isSome_iff _).mp (by decide +kernel)
  obtain ⟨text, exported⟩ := every _ (mapped_remarkRoutine 7 "\x01") short
  have failed : (exportRoutines (.text "toml")
      (pure [remarkRoutine 7 "\x01"])).result.toOption.isNone = true := by
    decide +kernel
  rw [exported] at failed
  cases failed

end Syscat
