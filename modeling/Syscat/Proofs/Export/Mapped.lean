/-
Module: Syscat.Proofs.Export.Mapped
Purpose: Routines that rows are mapped to. None has a Java binding that says nothing, so every record in
  its document has a field with a simple value.
Main exports: Routine.Mapped, Routine.Mapped.tree_document
-/
import Syscat.Proofs.Export.Dump
import Syscat.Proofs.Mapping.Gating
import Syscat.Proofs.Spelling

namespace Syscat

namespace Routine

/-- A routine that a row is mapped to, no field of it being overridden. -/
def Mapped (r : Routine) : Prop :=
  ∃ source owner capabilities options, options.overrides = [] ∧
    (mapRoutine source owner capabilities options).result = .ok r

/-- The binding that is read from a row says something. -/
theorem isBlank_of_readJavaBinding {row : Row} {found : Option JavaBinding}
    (read : readJavaBinding row = .ok found) : ∀ b ∈ found, b.isBlank = false := by
  simp only [readJavaBinding, bind_eq_ok_iff] at read
  obtain ⟨jarId, _, jarSchema, _, jarSignature, _, className, _, same⟩ := read
  cases same
  split
  case isTrue =>
    intro b bound
    cases bound
  case isFalse filled =>
    intro b bound
    cases bound
    exact Bool.eq_false_iff.mpr filled

/-- The Java binding of a routine that a row is mapped to says something. -/
theorem Mapped.isBlank {r : Routine} (mapped : r.Mapped) : ∀ b ∈ r.javaBinding, b.isBlank = false := by
  obtain ⟨source, owner, capabilities, options, plain, mapped⟩ := mapped
  obtain ⟨row, _, readFrom, _⟩ := mapRoutine_eq_ok plain mapped
  exact isBlank_of_readJavaBinding readFrom.javaBinding

/-- Some field holds a simple value. -/
def Filled (fields : List (String × Document)) : Prop :=
  ∃ field ∈ fields, field.2.isSimple = true

theorem Filled.withoutNulls {fields : List (String × Document)} (filled : Filled fields) :
    Filled (Document.fieldsWithoutNulls fields) := by
  obtain ⟨field, inside, present⟩ := filled
  induction fields with
  | nil => cases inside
  | cons first rest ih =>
      rw [Document.fieldsWithoutNulls]
      split
      case isTrue null =>
        rcases List.mem_cons.mp inside with rfl | later
        · obtain ⟨name, d⟩ := field
          obtain rfl : d = .null := by cases d <;> first | rfl | cases null
          cases present
        · exact ih later
      case isFalse kept =>
        rcases List.mem_cons.mp inside with rfl | later
        · obtain ⟨name, d⟩ := field
          refine ⟨_, List.mem_cons_self, ?_⟩
          cases d <;> first | rfl | cases present
        · obtain ⟨other, inside, simple⟩ := ih later
          exact ⟨other, List.mem_cons_of_mem _ inside, simple⟩

section
open Document

theorem filled_container (c : Container) : (c.record .document).Tree Filled := by
  cases c with
  | schema s => exact ⟨⟨_, List.mem_cons_self, rfl⟩, trivial, trivial⟩
  | module m =>
      exact ⟨⟨_, List.mem_cons_self, rfl⟩, trivial,
        tree_optional m.schema fun s _ => ⟨⟨_, List.mem_cons_self, rfl⟩, trivial, trivial⟩, trivial⟩

/-- A part of a binding that is not null stands in its record. -/
theorem filled_javaBinding {b : JavaBinding} (filled : b.isBlank = false) :
    (b.record .document).Tree Filled := by
  have optional : ∀ part : Option String,
      (RecordTarget.document.optional Document.text part).Tree Filled :=
    fun part => tree_optional part fun _ _ => trivial
  refine ⟨?_, optional _, optional _, optional _, optional _, trivial⟩
  -- were all parts null, the binding would be blank
  obtain ⟨jarId, jarSchema, jarSignature, className⟩ := b
  cases jarId with
  | some s => exact ⟨_, List.mem_cons_self, rfl⟩
  | none =>
  cases jarSchema with
  | some s => exact ⟨_, .tail _ List.mem_cons_self, rfl⟩
  | none =>
  cases jarSignature with
  | some s => exact ⟨_, .tail _ (.tail _ List.mem_cons_self), rfl⟩
  | none =>
  cases className with
  | some s => exact ⟨_, .tail _ (.tail _ (.tail _ List.mem_cons_self)), rfl⟩
  | none => cases filled

/-- The document of a routine whose Java binding says something has no record without a simple value. -/
theorem Mapped.filled_document {r : Routine} (mapped : r.Mapped) : r.document.Tree Filled := by
  refine tree_document_of (fun fields same => ?_)
    (fun b bound => filled_javaBinding (mapped.isBlank b bound)) (filled_container r.container)
    (filled_container (.schema r.effectiveSchema))
  cases same
  exact ⟨_, List.mem_cons_self, rfl⟩

/-- The records of a routine that a row is mapped to name their fields apart, hold a simple value and no
null. -/
theorem Mapped.tree_routineFields {r : Routine} (mapped : r.Mapped) :
    (Document.record (routineFields r)).Tree fun fields =>
      (Named fields ∧ Filled fields) ∧ ∀ field ∈ fields, field.2.isNull = false := by
  rw [record_routineFields]
  exact Tree.withoutNulls
    (fun _ sort => ⟨⟨sort.1.withoutNulls, sort.2.withoutNulls⟩, isNull_withoutNulls⟩) r.document
    (Tree.and r.document r.tree_document mapped.filled_document)

end

end Routine

/-- The row of a Java routine in which texts hold what every format has to mark or to quote. -/
def oddRow : RowSource :=
  .read ⟨[("ROUTINENAME", .text "PAY\nROLL"), ("ROUTINEID", .integer (-7)), ("ROUTINETYPE", .text "P"),
    ("DETERMINISTIC", .text "Y"), ("TEXT", .text " yes: \"\\\x01é😀 "), ("JAR_ID", .text ""),
    ("CLASS", .text "pay.Roll"), ("CREATE_TIME", .text "2024-03-01-10.15.30.000000")]⟩

/-- The module that the routine is looked up in. -/
def oddModule : Container :=
  .module ⟨⟨"M", by decide⟩, some ⟨⟨"APP", app_filled⟩⟩⟩

/-- The routine that the row is mapped to. -/
def oddRoutine : Routine where
  name := ⟨"PAY\nROLL", by decide⟩
  specificName := none
  routineId := some (-7)
  kind := some .procedure
  functionSubtype := none
  origin := none
  language := none
  validity := .unknown
  sourceText := some " yes: \"\\\x01é😀 "
  dialect := none
  externalName := none
  javaBinding := some ⟨some "", none, none, some "pay.Roll"⟩
  parameterStyle := none
  deterministic := some true
  resultSets := none
  debugMode := none
  remarks := none
  createdAt := some ⟨⟨2024, 3, 1, by decide⟩, ⟨10, 15, 30, 0, by decide⟩, none⟩
  alteredAt := none
  lastRegeneratedAt := none
  ownerName := none
  ownerType := none
  container := oddModule
  effectiveSchema := ⟨⟨"APP", app_filled⟩⟩
  qualifiedName := ⟨"APP.M.\"PAY\nROLL\"", by decide⟩

theorem mapRoutine_oddRow :
    (mapRoutine oddRow (.container oddModule) default .standard).result = .ok oddRoutine := by
  rfl

theorem mapped_oddRoutine : oddRoutine.Mapped :=
  ⟨oddRow, .container oddModule, default, .standard, rfl, mapRoutine_oddRow⟩

theorem spellable_oddRoutine : oddRoutine.dump.Spellable :=
  (Value.literal?_isSome_iff _).mp (by decide +kernel)

/-- A row that says little but a number and a remark. -/
def remarkRow (id : Int) (remark : String) : RowSource :=
  .read ⟨[("ROUTINENAME", .text "PAY"), ("ROUTINEID", .integer id), ("REMARKS", .text remark)]⟩

/-- The schema that the routine is looked up in. -/
def remarkSchema : Schema :=
  ⟨⟨"APP", app_filled⟩⟩

/-- The routine that such a row is mapped to. -/
def remarkRoutine (id : Int) (remark : String) : Routine where
  name := ⟨"PAY", by decide⟩
  specificName := none
  routineId := some id
  kind := none
  functionSubtype := none
  origin := none
  language := none
  validity := .unknown
  sourceText := none
  dialect := none
  externalName := none
  javaBinding := none
  parameterStyle := none
  deterministic := none
  resultSets := none
  debugMode := none
  remarks := some remark
  createdAt := none
  alteredAt := none
  lastRegeneratedAt := none
  ownerName := none
  ownerType := none
  container := .schema remarkSchema
  effectiveSchema := remarkSchema
  qualifiedName := ⟨"APP.PAY", by decide⟩

theorem mapRoutine_remarkRow (id : Int) (remark : String) :
    (mapRoutine (remarkRow id remark) (.container (.schema remarkSchema)) default .standard).result =
      .ok (remarkRoutine id remark) := by
  have answer : NamingRule.standard (.container (.schema remarkSchema)) "PAY" =
      .ok (.text "APP.PAY") := rfl
  have read : readNamedRow (remarkRow id remark) (.container (.schema remarkSchema)) =
      .ok ⟨⟨[("ROUTINENAME", .text "PAY"), ("ROUTINEID", .integer id), ("REMARKS", .text remark)]⟩,
        ⟨"PAY", by decide⟩, .schema remarkSchema, remarkSchema⟩ := rfl
  rw [mapRoutine_eq, read]
  show (NamedRow.describe _ _ _ _ (NamingRule.standard
    (.container (.schema remarkSchema)) "PAY")).result = _
  rw [answer, NamedRow.describe]
  rfl

theorem mapped_remarkRoutine (id : Int) (remark : String) : (remarkRoutine id remark).Mapped :=
  ⟨remarkRow id remark, .container (.schema remarkSchema), default, .standard, rfl,
    mapRoutine_remarkRow id remark⟩

end Syscat
