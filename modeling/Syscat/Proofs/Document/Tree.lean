/-
Module: Syscat.Proofs.Document.Tree
Purpose: Values and documents without nulls, and documents that are trees of records. To leave the
  nulls out of a tree leaves no null in it and changes neither the order nor the names of the other
  fields.
Main exports: Value.pruned, Value.NullFree, Document.Tree, Document.depth,
  Document.toValue_withoutNulls, Document.nullFree_withoutNulls
-/
import Syscat.Document

namespace Syscat

namespace Value

/-! ### Values without nulls -/

mutual

/-- The value without the entries of tables that are null, at every level. -/
def pruned : Value → Value
  | list items => list (prunedItems items)
  | tuple items => tuple (prunedItems items)
  | table entries => table (prunedEntries entries)
  | v => v

/-- The items of a sequence, each without the entries that are null in it. -/
def prunedItems : List Value → List Value
  | [] => []
  | v :: rest => v.pruned :: prunedItems rest

/-- The entries of a table whose values are not null. -/
def prunedEntries : List (Value × Value) → List (Value × Value)
  | [] => []
  | (_, null) :: rest => prunedEntries rest
  | (k, v) :: rest => (k, v.pruned) :: prunedEntries rest

end

mutual

/-- No null occurs in the value, at any depth. -/
def NullFree : Value → Prop
  | null => False
  | list items => ItemsNullFree items
  | tuple items => ItemsNullFree items
  | table entries => EntriesNullFree entries
  | _ => True

/-- No null occurs in the items of a sequence. -/
def ItemsNullFree : List Value → Prop
  | [] => True
  | v :: rest => v.NullFree ∧ ItemsNullFree rest

/-- No null occurs in the keys and values of a table. -/
def EntriesNullFree : List (Value × Value) → Prop
  | [] => True
  | (k, v) :: rest => k.NullFree ∧ v.NullFree ∧ EntriesNullFree rest

end

theorem itemsNullFree_iff (items : List Value) : ItemsNullFree items ↔ ∀ v ∈ items, v.NullFree := by
  induction items with
  | nil => simp [ItemsNullFree]
  | cons v rest ih => simp [ItemsNullFree, ih]

/-- An entry whose value is not null stays when a table is pruned. -/
theorem prunedEntries_cons {v : Value} (present : v ≠ null) (k : Value) (rest : List (Value × Value)) :
    prunedEntries ((k, v) :: rest) = (k, v.pruned) :: prunedEntries rest := by
  cases v with
  | null => exact absurd rfl present
  | _ => rfl

end Value

namespace Document

open Value

/-! ### Documents without nulls -/

theorem toValue_ne_null {d : Document} (present : d.isNull = false) : d.toValue ≠ .null := by
  cases d with
  | null => cases present
  | _ => simp [toValue]

mutual

/-- To leave the nulls out of a document is to leave them out of its value. -/
theorem toValue_withoutNulls : (d : Document) → d.withoutNulls.toValue = d.toValue.pruned
  | null | flag _ | integer _ | text _ => rfl
  | list items => congrArg Value.list (itemValues_withoutNulls items)
  | record fields => congrArg Value.table (fieldEntries_withoutNulls fields)

theorem itemValues_withoutNulls : (items : List Document) →
    itemValues (itemsWithoutNulls items) = prunedItems (itemValues items)
  | [] => rfl
  | d :: rest => by
      rw [itemsWithoutNulls, itemValues, toValue_withoutNulls d, itemValues_withoutNulls rest]
      rfl

theorem fieldEntries_withoutNulls : (fields : List (String × Document)) →
    fieldEntries (fieldsWithoutNulls fields) = prunedEntries (fieldEntries fields)
  | [] => rfl
  | (name, d) :: rest => by
      have later := fieldEntries_withoutNulls rest
      rw [fieldsWithoutNulls, fieldEntries]
      cases noNull : d.isNull with
      | true =>
          obtain rfl : d = null := by cases d <;> first | rfl | cases noNull
          exact later
      | false =>
          rw [prunedEntries_cons (toValue_ne_null noNull), ← later, ← toValue_withoutNulls d]
          rfl

end

/-- Whether a document is neither null nor made up of others. -/
def isSimple : Document → Bool
  | flag _ | integer _ | text _ => true
  | _ => false

/-- The names of some fields. -/
def names (fields : List (String × Document)) : List String :=
  fields.map Prod.fst

mutual

/-- A document without lists in which the fields of every record are of a sort. -/
def Tree (sort : List (String × Document) → Prop) : Document → Prop
  | list _ => False
  | record fields => sort fields ∧ FieldsTree sort fields
  | _ => True

/-- Fields that hold such documents. -/
def FieldsTree (sort : List (String × Document) → Prop) : List (String × Document) → Prop
  | [] => True
  | (_, d) :: rest => d.Tree sort ∧ FieldsTree sort rest

end

section
variable {sort sort' : List (String × Document) → Prop}

theorem fieldsTree_iff (fields : List (String × Document)) :
    FieldsTree sort fields ↔ ∀ field ∈ fields, field.2.Tree sort := by
  induction fields with
  | nil => simp [FieldsTree]
  | cons field rest ih => simp [FieldsTree, ih]

mutual

/-- What holds of every record of a sort holds of those in a tree. -/
theorem Tree.mono (weaker : ∀ fields, sort fields → sort' fields) : (d : Document) → d.Tree sort →
    d.Tree sort'
  | null, _ | flag _, _ | integer _, _ | text _, _ => trivial
  | list _, tree => tree.elim
  | record fields, ⟨here, below⟩ => ⟨weaker fields here, FieldsTree.mono weaker fields below⟩

theorem FieldsTree.mono (weaker : ∀ fields, sort fields → sort' fields) :
    (fields : List (String × Document)) → FieldsTree sort fields → FieldsTree sort' fields
  | [], _ => trivial
  | (_, d) :: rest, ⟨first, later⟩ => ⟨Tree.mono weaker d first, FieldsTree.mono weaker rest later⟩

end

mutual

/-- Two things that hold of the records of a tree hold together. -/
theorem Tree.and : (d : Document) → d.Tree sort → d.Tree sort' →
    d.Tree fun fields => sort fields ∧ sort' fields
  | null, _, _ | flag _, _, _ | integer _, _, _ | text _, _, _ => trivial
  | list _, tree, _ => tree.elim
  | record fields, ⟨here, below⟩, ⟨here', below'⟩ =>
      ⟨⟨here, here'⟩, FieldsTree.and fields below below'⟩

theorem FieldsTree.and : (fields : List (String × Document)) → FieldsTree sort fields →
    FieldsTree sort' fields → FieldsTree (fun fields => sort fields ∧ sort' fields) fields
  | [], _, _ => trivial
  | (_, d) :: rest, ⟨first, later⟩, ⟨first', later'⟩ =>
      ⟨Tree.and d first first', FieldsTree.and rest later later'⟩

end

mutual

/-- What holds of the records of a tree holds of them without nulls, if it does of every record. -/
theorem Tree.withoutNulls (kept : ∀ fields, sort fields → sort' (fieldsWithoutNulls fields)) :
    (d : Document) → d.Tree sort → d.withoutNulls.Tree sort'
  | null, _ | flag _, _ | integer _, _ | text _, _ => trivial
  | list _, tree => tree.elim
  | record fields, ⟨here, below⟩ => ⟨kept fields here, FieldsTree.withoutNulls kept fields below⟩

theorem FieldsTree.withoutNulls (kept : ∀ fields, sort fields → sort' (fieldsWithoutNulls fields)) :
    (fields : List (String × Document)) → FieldsTree sort fields →
      FieldsTree sort' (fieldsWithoutNulls fields)
  | [], _ => trivial
  | (_, d) :: rest, ⟨first, later⟩ => by
      rw [fieldsWithoutNulls]
      split
      case isTrue => exact FieldsTree.withoutNulls kept rest later
      case isFalse =>
        exact ⟨Tree.withoutNulls kept d first, FieldsTree.withoutNulls kept rest later⟩

end

mutual

/-- A tree that is not null has no null in it once they are left out. -/
theorem nullFree_withoutNulls : (d : Document) → d.Tree sort → d.isNull = false →
    d.withoutNulls.toValue.NullFree
  | null, _, present => nomatch present
  | flag _, _, _ | integer _, _, _ | text _, _, _ => trivial
  | list _, tree, _ => tree.elim
  | record fields, ⟨_, below⟩, _ => fieldsNullFree_withoutNulls fields below

theorem fieldsNullFree_withoutNulls : (fields : List (String × Document)) →
    FieldsTree sort fields → EntriesNullFree (fieldEntries (fieldsWithoutNulls fields))
  | [], _ => trivial
  | (_, d) :: rest, ⟨first, later⟩ => by
      rw [fieldsWithoutNulls]
      split
      case isTrue => exact fieldsNullFree_withoutNulls rest later
      case isFalse present =>
        exact ⟨trivial, nullFree_withoutNulls d first (Bool.eq_false_iff.mpr present),
          fieldsNullFree_withoutNulls rest later⟩

end

end

mutual

/-- How deep records are nested in a document. -/
def depth : Document → Nat
  | record fields => fieldsDepth fields + 1
  | _ => 0

/-- How deep records are nested in the values of fields. -/
def fieldsDepth : List (String × Document) → Nat
  | [] => 0
  | (_, d) :: rest => max (depth d) (fieldsDepth rest)

end

theorem fieldsDepth_le_iff {fields : List (String × Document)} {n : Nat} :
    fieldsDepth fields ≤ n ↔ ∀ field ∈ fields, field.2.depth ≤ n := by
  induction fields with
  | nil => simp [fieldsDepth]
  | cons field rest ih => rw [fieldsDepth, Nat.max_le, ih, List.forall_mem_cons]

mutual

/-- Without nulls no record is nested deeper. -/
theorem depth_withoutNulls : (d : Document) → d.withoutNulls.depth ≤ d.depth
  | null | flag _ | integer _ | text _ | list _ => Nat.le_refl 0
  | record fields => Nat.succ_le_succ (fieldsDepth_withoutNulls fields)

theorem fieldsDepth_withoutNulls : (fields : List (String × Document)) →
    fieldsDepth (fieldsWithoutNulls fields) ≤ fieldsDepth fields
  | [] => Nat.le_refl 0
  | (_, d) :: rest => by
      have own := depth_withoutNulls d
      have later := fieldsDepth_withoutNulls rest
      rw [fieldsWithoutNulls, fieldsDepth]
      split
      case isTrue => omega
      case isFalse =>
        rw [fieldsDepth]
        omega

end

theorem names_append (fields more : List (String × Document)) :
    names (fields ++ more) = names fields ++ names more :=
  List.map_append

/-- The fields that are not null are named in the order of all fields. -/
theorem names_withoutNulls (fields : List (String × Document)) :
    (names (fieldsWithoutNulls fields)).Sublist (names fields) := by
  induction fields with
  | nil => exact List.Sublist.refl _
  | cons field rest ih =>
      rw [fieldsWithoutNulls]
      split
      case isTrue => exact ih.cons _
      case isFalse => exact ih.cons_cons _

/-- The fields that are left are not null. -/
theorem isNull_withoutNulls {fields : List (String × Document)} :
    ∀ field ∈ fieldsWithoutNulls fields, field.2.isNull = false := by
  have same : ∀ d : Document, d.withoutNulls.isNull = d.isNull := fun d => by cases d <;> rfl
  induction fields with
  | nil => nofun
  | cons field rest ih =>
      rw [fieldsWithoutNulls]
      split
      case isTrue => exact ih
      case isFalse present =>
        exact List.forall_mem_cons.mpr ⟨(same _).trans (Bool.eq_false_iff.mpr present), ih⟩

/-! ### Fields as the entries of a table -/

theorem fieldEntries_append (fields more : List (String × Document)) :
    fieldEntries (fields ++ more) = fieldEntries fields ++ fieldEntries more := by
  induction fields with
  | nil => rfl
  | cons field rest ih => exact congrArg (_ :: ·) ih

/-- A field with a new name is put behind the others. -/
theorem insertEntry_fieldEntries {name : String} {fields : List (String × Document)}
    (fresh : name ∉ names fields) (v : Value) :
    insertEntry (.text name) v (fieldEntries fields) = fieldEntries fields ++ [(.text name, v)] := by
  induction fields with
  | nil => rfl
  | cons field rest ih =>
      obtain ⟨other, later⟩ : name ≠ field.1 ∧ name ∉ names rest := by
        simpa [names] using fresh
      have apart : equal (.text field.1) (.text name) = false := by
        simpa [equal] using Ne.symm other
      rw [fieldEntries, insertEntry, apart, ih later]
      rfl

/-- Fields with distinct names are all kept, in order, by whatever puts a new one behind the others. -/
theorem foldl_fieldEntries {put : List (Value × Value) → Value × Value → List (Value × Value)}
    (behind : ∀ fields name v, name ∉ names fields →
      put (fieldEntries fields) (.text name, v) = fieldEntries fields ++ [(.text name, v)])
    {fields : List (String × Document)} (distinct : (names fields).Nodup) :
    (fieldEntries fields).foldl put [] = fieldEntries fields := by
  -- the table so far consists of the fields in front
  have go : ∀ (later before : List (String × Document)), (names (before ++ later)).Nodup →
      (fieldEntries later).foldl put (fieldEntries before) = fieldEntries (before ++ later) := by
    intro later
    induction later with
    | nil => intro before _; rw [List.append_nil]; rfl
    | cons field rest ih =>
        intro before distinct
        have fresh : field.1 ∉ names before := by
          rw [names_append] at distinct
          exact fun inside => (List.nodup_append.mp distinct).2.2 _ inside _ List.mem_cons_self rfl
        have same : before ++ field :: rest = (before ++ [field]) ++ rest := by simp
        rw [fieldEntries, List.foldl_cons, behind _ _ _ fresh, same, ← ih _ (same ▸ distinct),
          fieldEntries_append]
        rfl
  exact go fields [] distinct

/-- Fields with distinct names are all kept, in order, when a table is built from them. -/
theorem collectEntries_fieldEntries {fields : List (String × Document)}
    (distinct : (names fields).Nodup) : collectEntries (fieldEntries fields) = fieldEntries fields :=
  foldl_fieldEntries (fun _ _ v fresh => insertEntry_fieldEntries fresh v) distinct

end Document

end Syscat
