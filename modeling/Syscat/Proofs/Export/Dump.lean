/-
Module: Syscat.Proofs.Export.Dump
Purpose: What an exported routine says: the value of its document without the entries that are null, at
  every level. It has no null in it, and no record in it names a field twice.
Main exports: Routine.dump, Routine.Named, Routine.toValue_routineFields, Routine.nullFree_dump
-/
import Syscat.Export
import Syscat.Proofs.Document.Tree

namespace Syscat

namespace Routine

/-- What an exported routine says. -/
def dump (r : Routine) : Value :=
  r.document.toValue.pruned

/-- The names of all fields in the document of a routine. -/
def fieldNames : List String := [
    "name", "specific_name", "routine_id", "routine_kind", "function_subtype", "origin", "language",
    "validity_state", "source_text", "dialect", "external_name", "java_binding", "parameter_style",
    "deterministic", "result_sets", "debug_mode", "remarks", "created_at", "altered_at",
    "last_regenerated_at", "owner_name", "owner_type", "container", "effective_schema",
    "fully_qualified_name", "parent_schema", "jar_id", "jar_schema", "jar_signature", "class_name"]

/-- Fields with distinct names, which are names of a routine's fields. -/
def Named (fields : List (String × Document)) : Prop :=
  (Document.names fields).Nodup ∧ ∀ name ∈ Document.names fields, name ∈ fieldNames

instance (fields : List (String × Document)) : Decidable (Named fields) :=
  inferInstanceAs (Decidable (_ ∧ _))

theorem Named.withoutNulls {fields : List (String × Document)} (named : Named fields) :
    Named (Document.fieldsWithoutNulls fields) :=
  have less := Document.names_withoutNulls fields
  ⟨named.1.sublist less, fun name inside => named.2 name (less.subset inside)⟩

/-- A record whose names are listed in front of the others that a routine has. -/
theorem Named.of_names (listed : List String) {fields : List (String × Document)}
    (same : Document.names fields = listed) (distinct : listed.Nodup)
    (known : ∀ name ∈ listed, name ∈ fieldNames) : Named fields :=
  ⟨same ▸ distinct, same ▸ known⟩

section
open Document

variable {sort : List (String × Document) → Prop}

/-- A field that may be null is a tree if it is one whenever it is not. -/
theorem tree_optional {α : Type} {form : α → Document} (field : Option α)
    (each : ∀ a ∈ field, (form a).Tree sort) : (RecordTarget.document.optional form field).Tree sort := by
  cases field with
  | none => trivial
  | some a => exact each a rfl

/-- The document of a routine is a tree if its own fields are of the sort, and the parts that are records
are trees. -/
theorem tree_document_of {r : Routine} (own : ∀ fields, r.document = .record fields → sort fields)
    (binding : ∀ b ∈ r.javaBinding, (b.record .document).Tree sort)
    (container : (r.container.record .document).Tree sort)
    (schema : (r.effectiveSchema.record .document).Tree sort) : r.document.Tree sort := by
  refine ⟨own _ rfl, ?_⟩
  rw [fieldsTree_iff]
  simp only [List.forall_mem_cons]
  with_reducible repeat' apply And.intro
  -- all fields but three are simple values or null
  all_goals first
    | exact tree_optional _ binding
    | exact container
    | exact schema
    | exact tree_optional _ fun _ _ => trivial
    | exact trivial
    | exact List.forall_mem_nil _

theorem tree_schema (s : Schema) : (s.record .document).Tree Named :=
  ⟨.of_names ["name"] rfl (by decide) (by decide), trivial, trivial⟩

theorem tree_container (c : Container) : (c.record .document).Tree Named := by
  cases c with
  | schema s => exact tree_schema s
  | module m =>
      exact ⟨.of_names ["name", "parent_schema"] rfl (by decide) (by decide), trivial,
        tree_optional m.schema fun s _ => tree_schema s, trivial⟩

theorem tree_javaBinding (b : JavaBinding) : (b.record .document).Tree Named := by
  refine ⟨.of_names ["jar_id", "jar_schema", "jar_signature", "class_name"] rfl (by decide)
    (by decide), ?_⟩
  rw [fieldsTree_iff]
  simp only [List.forall_mem_cons]
  exact ⟨tree_optional _ fun _ _ => trivial, tree_optional _ fun _ _ => trivial,
    tree_optional _ fun _ _ => trivial, tree_optional _ fun _ _ => trivial, nofun⟩

/-- The document of a routine is a tree whose records name their fields apart. -/
theorem tree_document (r : Routine) : r.document.Tree Named := by
  refine tree_document_of (fun fields same => ?_) (fun b _ => tree_javaBinding b)
    (tree_container r.container) (tree_schema r.effectiveSchema)
  cases same
  exact .of_names (fieldNames.take 25) rfl (by decide) (by decide)

end

/-- The fields in the document of a routine that are not null make it up. -/
theorem record_routineFields (r : Routine) :
    Document.record (routineFields r) = r.document.withoutNulls := rfl

/-- The fields of a routine stand for what it says. -/
theorem toValue_routineFields (r : Routine) :
    (Document.record (routineFields r)).toValue = r.dump := by
  rw [record_routineFields, Document.toValue_withoutNulls, dump]

theorem tree_routineFields (r : Routine) : (Document.record (routineFields r)).Tree Named := by
  rw [record_routineFields]
  exact Document.Tree.withoutNulls (fun _ => Named.withoutNulls) r.document (tree_document r)

/-- No null occurs in what an exported routine says. -/
theorem nullFree_dump (r : Routine) : r.dump.NullFree := by
  rw [← toValue_routineFields, record_routineFields]
  exact Document.nullFree_withoutNulls r.document (tree_document r) rfl

end Routine

/-! ### Lists of routines -/

/-- The records that an export of routines consists of. -/
def routineRecords (routines : List Routine) : List Document :=
  (routines.map routineFields).map Document.record

/-- The records of an export stand for what the routines say, in order. -/
theorem toValue_routineRecords (routines : List Routine) :
    (routineRecords routines).map Document.toValue = routines.map Routine.dump := by
  rw [routineRecords, List.map_map, List.map_map]
  exact List.map_congr_left fun r _ => r.toValue_routineFields

/-- No null occurs in what exported routines say. -/
theorem nullFree_dumps (routines : List Routine) : (Value.list (routines.map Routine.dump)).NullFree := by
  rw [Value.NullFree, Value.itemsNullFree_iff]
  simp only [List.mem_map, forall_exists_index, and_imp, forall_apply_eq_imp_iff₂]
  exact fun r _ => r.nullFree_dump

/-- Routines that are mapped are written in the format that is named. -/
theorem exportRoutines_of_ok {name : Value} {format : DocumentFormat}
    (known : DocumentFormat.ofValue? name = some format) {mapped : Logged (List Routine)}
    {routines : List Routine} (done : mapped.result = .ok routines) :
    exportRoutines name mapped =
      ⟨mapped.notices, (writeRoutines format routines).mapError Failure.ofWrite⟩ := by
  rw [exportRoutines, known]
  show Logged.bind mapped _ = _
  rw [Logged.bind, done]
  simp only [Logged.ofExcept, List.append_nil]

end Syscat
