/-
Module: Syscat.Proofs.Export.Yaml
Purpose: The export in YAML loses nothing: every text is written in a style and on lines that it is
  read back from, and no text is read back as something else. Only integers that are too long to be
  printed stand in the way.
Main exports: exportRoutines_yaml_lossless, not_forall_exportRoutines_yaml
-/
import Syscat.Proofs.Document.Stored
import Syscat.Proofs.Export.Mapped
import Syscat.Proofs.Yaml.Contents

namespace Syscat

namespace Routine

theorem key_fieldNames : ∀ name ∈ fieldNames, Yaml.Key name.toList := by decide +kernel

section
open Document

/-- A field that may be null is no deeper than it is if it is not. -/
theorem depth_optional_le {α : Type} {form : α → Document} {n : Nat} (field : Option α)
    (each : ∀ a, (form a).depth ≤ n) : (RecordTarget.document.optional form field).depth ≤ n := by
  cases field with
  | none => exact Nat.zero_le n
  | some a => exact each a

theorem depth_container_le (c : Container) : (c.record .document).depth ≤ 2 := by
  cases c with
  | schema s => exact Nat.succ_le_succ (Nat.zero_le 1)
  | module m =>
      refine Nat.succ_le_succ (fieldsDepth_le_iff.mpr ?_)
      simp only [List.forall_mem_cons]
      exact ⟨Nat.zero_le 1, depth_optional_le m.schema fun _ => Nat.le_refl 1, List.forall_mem_nil _⟩

theorem depth_javaBinding_le (b : JavaBinding) : (b.record .document).depth ≤ 1 := by
  have part (field : Option String) : (RecordTarget.document.optional Document.text field).depth ≤ 0 :=
    depth_optional_le field fun _ => Nat.le_refl 0
  refine Nat.succ_le_succ (fieldsDepth_le_iff.mpr ?_)
  simp only [List.forall_mem_cons]
  exact ⟨part _, part _, part _, part _, List.forall_mem_nil _⟩

/-- The schema of a module that holds a routine is three records deep. -/
theorem depth_document_le (r : Routine) : r.document.depth ≤ 3 := by
  refine Nat.succ_le_succ (fieldsDepth_le_iff.mpr ?_)
  simp only [List.forall_mem_cons]
  with_reducible repeat' apply And.intro
  -- all fields but three are simple values or null
  all_goals first
    | exact depth_optional_le _ fun b => (depth_javaBinding_le b).trans (by decide)
    | exact depth_container_le _
    | exact depth_container_le (.schema _)
    | exact depth_optional_le _ fun _ => Nat.zero_le 2
    | exact Nat.zero_le 2
    | exact List.forall_mem_nil _

/-- The records of a routine that a row is mapped to are blocks. -/
theorem Mapped.tree_block {r : Routine} (mapped : r.Mapped) :
    (Document.record (routineFields r)).Tree Yaml.Block := by
  refine Tree.mono (fun fields whole => ?_) _ mapped.tree_routineFields
  obtain ⟨⟨named, filled⟩, present⟩ := whole
  obtain ⟨field, inside, _⟩ := filled
  exact ⟨List.ne_nil_of_mem inside, fun name listed => key_fieldNames name (named.2 name listed),
    named.1, present⟩

/-- A routine that a row is mapped to can stand in a list if its integers can be written. -/
theorem Mapped.item {r : Routine} (mapped : r.Mapped) (short : r.dump.Spellable) :
    Yaml.Item (routineFields r) where
  tree := mapped.tree_block
  short := by rwa [r.toValue_routineFields]
  narrow := by
    have shallow := (depth_withoutNulls r.document).trans r.depth_document_le
    rw [← record_routineFields] at shallow
    rw [Yaml.lineWidth]
    omega

end

end Routine

/-- Routines that rows are mapped to are exported in YAML if their integers can be written. The text,
stored in a file that is named for YAML, is read back as the list of what the routines say, texts as
texts, integers as integers and truth values as truth values, and no null occurs in it at any depth.
-/
theorem exportRoutines_yaml_lossless (mapped : Logged (List Routine)) {routines : List Routine}
    (done : mapped.result = .ok routines) (rows : ∀ r ∈ routines, r.Mapped)
    (short : ∀ r ∈ routines, r.dump.Spellable) {stem : String} (legal : '\x00' ∉ stem.toList) :
    ∃ text, exportRoutines (.text "yaml") mapped = ⟨mapped.notices, .ok text⟩ ∧
      (File.stored stem .yaml text).read = .ok (.list (routines.map Routine.dump)) ∧
      (Value.list (routines.map Routine.dump)).NullFree := by
  have items : ∀ fields ∈ routines.map routineFields, Yaml.Item fields := by
    intro fields inside
    obtain ⟨r, listed, rfl⟩ := List.mem_map.mp inside
    exact (rows r listed).item (short r listed)
  obtain ⟨text, written, plain, read⟩ := Yaml.exists_read_writeItems items
  refine ⟨text, ?_, ?_, nullFree_dumps routines⟩
  · have output : writeRoutines .yaml routines = .ok text := written
    rw [exportRoutines_of_ok rfl done, output]
    rfl
  · rw [File.read_stored legal .yaml plain]
    refine Eq.trans read ?_
    rw [← toValue_routineRecords, routineRecords]

/-- A text with blanks around it, a colon, quotation marks and characters that do not show comes back
from the file, and so do one with a line end and an empty one. -/
theorem exportRoutines_yaml_oddRoutine :
    oddRoutine.Mapped ∧ oddRoutine.dump.Spellable ∧
      ∃ text, exportRoutines (.text "yaml") (pure [oddRoutine]) = ⟨[], .ok text⟩ ∧
        (File.stored "routines" .yaml text).read = .ok (.list [oddRoutine.dump]) ∧
        (Value.list [oddRoutine.dump]).NullFree :=
  ⟨mapped_oddRoutine, spellable_oddRoutine,
    exportRoutines_yaml_lossless (pure [oddRoutine]) rfl (List.forall_mem_singleton.mpr mapped_oddRoutine)
      (List.forall_mem_singleton.mpr spellable_oddRoutine) (by decide)⟩

/-- An integer that is too long to be printed keeps a routine from being exported in YAML. -/
theorem not_forall_exportRoutines_yaml :
    ¬ ∀ r : Routine, r.Mapped → ∃ text, exportRoutines (.text "yaml") (pure [r]) = ⟨[], .ok text⟩ := by
  intro every
  obtain ⟨text, exported⟩ := every _ (mapped_remarkRoutine Value.leastLong "")
  have failed : writeRoutines .yaml [remarkRoutine Value.leastLong ""] = .error .longInteger := by
    have long : integerDigits Value.leastLong = .error .longInteger :=
      integerDigits_of_long Value.not_spellable_leastLong
    obtain ⟨rest, fields⟩ : ∃ rest, routineFields (remarkRoutine Value.leastLong "") =
        ("name", .text "PAY") :: ("routine_id", .integer Value.leastLong) :: rest := ⟨_, rfl⟩
    show Yaml.writeItems [.record (routineFields _)] = _
    simp only [fields, Yaml.writeItems, Yaml.itemEntries, Yaml.flatText?, Yaml.entries,
      Yaml.fieldEntries, long]
    rfl
  rw [exportRoutines_of_ok rfl rfl, failed] at exported
  cases exported

end Syscat
