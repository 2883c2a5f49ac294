/-
Module: Syscat.Proofs.Yaml.Blocks
Purpose: Documents are written in block style so that their tokens are read back, one record inside
  the other.
Main exports: Yaml.Block, Yaml.exists_fieldsRead, Yaml.exists_scan_writeItems
-/
import Syscat.Proofs.Document.Tree
import Syscat.Proofs.Spelling
import Syscat.Proofs.Yaml.Forms

namespace Syscat.Yaml

/-! ### Simple values -/

/-- A simple value is written as a scalar. -/
theorem exists_written {d : Document} (simple : d.isSimple = true) (short : d.toValue.Spellable)
    {place : Place} {least : Nat} (inside : least ≤ place.indent) (deep : 0 < place.indent)
    (narrow : place.indent < lineWidth) (column : Nat) :
    ∃ w isPlain s, flatText? place column d = some (.ok w) ∧ Written least w isPlain s ∧
      valueTokens d = [.scalar isPlain s] := by
  cases d with
  | flag b =>
      have lettered := lettered_flagText b
      exact ⟨_, _, _, rfl, .plain lettered.opens (.word lettered.word), rfl⟩
  | integer n =>
      refine ⟨_, _, _, congrArg some (integerDigits_eq short), ?_, rfl⟩
      exact .plain (opens_integerChars n) (.word (word_integerChars n))
  | text s => exact ⟨_, _, _, rfl, written_scalarText inside deep narrow column s.toList, rfl⟩
  | null | list | record => cases simple

/-! ### Records -/

/-- A sort of records: there are fields, each of them is named by a key of its own, and none is null. -/
structure Block (fields : List (String × Document)) : Prop where
  any : fields ≠ []
  keys : ∀ name ∈ Document.names fields, Key name.toList
  distinct : (Document.names fields).Nodup
  present : ∀ field ∈ fields, field.2.isNull = false

/-- Where the block of a value begins in a record: a list is not indented further. -/
def innerIndent (indent : Nat) : Document → Nat
  | .list _ => indent
  | _ => indent + 2

/-- What is written behind the colon of a field. -/
def valueText (indent column : Nat) (d : Document) : Except WriteFailure (List Char) :=
  match flatText? ⟨true, indent + 2⟩ column d with
  | some text => text.map fun text => ' ' :: (text ++ ['\n'])
  | none =>
      let inner := innerIndent indent d
      (entries inner d).map fun parts => nextLine inner ++ blockText inner parts

theorem fieldEntries_cons (indent : Nat) (name : String) (d : Document)
    (rest : List (String × Document)) : fieldEntries indent ((name, d) :: rest) = (do
      let key := scalarText ⟨false, indent + 2⟩ indent name.toList
      let text ← valueText indent (indent + key.length + 2) d
      let more ← fieldEntries indent rest
      return (key ++ ':' :: text) :: more) := by
  rw [fieldEntries.eq_def]
  unfold valueText
  dsimp only
  cases flatText? ⟨true, indent + 2⟩
    (indent + (scalarText ⟨false, indent + 2⟩ indent name.toList).length + 2) d with
  | some text => rfl
  | none => cases d <;> rfl

theorem valueText_record {indent column : Nat} {fields : List (String × Document)} (any : fields ≠ []) :
    valueText indent column (.record fields) =
      (fieldEntries (indent + 2) fields).map fun parts =>
        nextLine (indent + 2) ++ blockText (indent + 2) parts := by
  obtain ⟨field, rest, rfl⟩ := List.exists_cons_of_ne_nil any
  simp only [valueText, flatText?, innerIndent, entries]

/-- A simple value is written behind a colon so that it is read as its token. -/
theorem exists_valueRead_simple {d : Document} (simple : d.isSimple = true) (short : d.toValue.Spellable)
    {indent : Nat} (narrow : indent + 2 < lineWidth) (column : Nat) :
    ∃ text, valueText indent column d = .ok text ∧ ValueRead indent text (valueTokens d) := by
  obtain ⟨w, isPlain, s, flat, written, tokens⟩ :=
    @exists_written d simple short ⟨true, indent + 2⟩ (indent + 1) (Nat.le_succ _)
      (Nat.succ_pos _) narrow column
  refine ⟨' ' :: (w ++ ['\n']), ?_, tokens ▸ .scalar written⟩
  rw [valueText, flat]
  rfl

mutual

/-- A value is written behind a colon so that it is read as its tokens. -/
theorem exists_valueRead : (d : Document) → d.Tree Block → d.isNull = false → d.toValue.Spellable →
    ∀ indent : Nat, indent + 2 * d.depth + 2 < lineWidth → ∀ column,
      ∃ text, valueText indent column d = .ok text ∧ ValueRead indent text (valueTokens d)
  | .null, _, present, _ => nomatch present
  | .list _, tree, _, _ => tree.elim
  | .flag _, _, _, short | .integer _, _, _, short | .text _, _, _, short => fun _ narrow =>
      exists_valueRead_simple rfl short narrow
  | .record fields, ⟨block, below⟩, _, short => fun indent narrow column => by
      obtain ⟨parts, written, _, read⟩ := exists_fieldsRead fields block.any block.keys
        block.present below short (indent + 2)
        (show indent + 2 + 2 * Document.fieldsDepth fields + 2 < lineWidth by
          simp only [Document.depth] at narrow
          omega)
        (Nat.succ_pos _)
      refine ⟨_, ?_, .record read⟩
      rw [valueText_record block.any, written]
      rfl

/-- Fields are written so that they are read as their tokens. -/
theorem exists_fieldsRead : (fields : List (String × Document)) → fields ≠ [] →
    (∀ name ∈ Document.names fields, Key name.toList) → (∀ field ∈ fields, field.2.isNull = false) →
    Document.FieldsTree Block fields → Value.EntriesSpellable (Document.fieldEntries fields) →
    ∀ indent : Nat, indent + 2 * Document.fieldsDepth fields + 2 < lineWidth → 0 < indent →
      ∃ parts, fieldEntries indent fields = .ok parts ∧ parts ≠ [] ∧
        FieldsRead indent (blockText indent parts) (fieldTokens fields)
  | [], any, _, _, _, _ => absurd rfl any
  | (name, d) :: rest, _, keys, present, ⟨tree, below⟩, ⟨_, short, shortLater⟩ =>
      fun indent narrow deep => by
      rw [Document.fieldsDepth] at narrow
      obtain ⟨key, keysLater⟩ := List.forall_mem_cons.mp keys
      obtain ⟨own, presentLater⟩ := List.forall_mem_cons.mp present
      obtain ⟨text, written, value⟩ := exists_valueRead d tree own short indent
        (show indent + 2 * d.depth + 2 < lineWidth by omega) (indent + name.toList.length + 2)
      rw [fieldEntries_cons, key.scalarText_eq]
      dsimp only
      rw [written, ok_bind]
      by_cases last : rest = []
      · subst last
        refine ⟨[name.toList ++ ':' :: text], rfl, List.cons_ne_nil _ _, ?_⟩
        rw [fieldTokens, fieldTokens, List.append_nil]
        exact .last key value deep
      · obtain ⟨parts, more, some, fields⟩ := exists_fieldsRead rest last keysLater presentLater
          below shortLater indent
          (show indent + 2 * Document.fieldsDepth rest + 2 < lineWidth by omega) deep
        rw [more, ok_bind]
        refine ⟨_, rfl, List.cons_ne_nil _ _, ?_⟩
        obtain ⟨part, others, rfl⟩ := List.exists_cons_of_ne_nil some
        exact fields.cons key value deep

end

/-! ### Lists of records -/

/-- A record that stands in a list: its tree is made of blocks, its integers can be written, and it
leaves room for folded lines. -/
structure Item (fields : List (String × Document)) : Prop where
  tree : (Document.record fields).Tree Block
  short : (Document.record fields).toValue.Spellable
  narrow : 2 * (Document.record fields).depth + 2 < lineWidth

/-- Parts that are not indented stand one behind the other. -/
theorem blockText_zero (parts : List (List Char)) : blockText 0 parts = parts.flatten := by
  induction parts with
  | nil => rfl
  | cons part rest ih =>
      cases rest with
      | nil => simp [blockText]
      | cons => simp [blockText, ih]

/-- A record behind a hyphen is written so that it is read as its tokens. -/
theorem exists_itemRead {fields : List (String × Document)} (item : Item fields) :
    ∃ text, ItemRead text (valueTokens (.record fields)) ∧ ∀ rest,
      itemEntries 0 (.record fields :: rest) =
      (itemEntries 0 rest).map fun more => ('-' :: ' ' :: text) :: more := by
  obtain ⟨⟨block, below⟩, short, narrow⟩ := item
  obtain ⟨parts, written, _, read⟩ := exists_fieldsRead fields block.any block.keys block.present
    below short 2 (by rw [Document.depth] at narrow; omega) (by decide)
  refine ⟨_, .record read, fun rest => ?_⟩
  obtain ⟨field, others, rfl⟩ := List.exists_cons_of_ne_nil block.any
  simp only [itemEntries, flatText?, entries, written]
  rfl

/-- Records are written behind hyphens so that they are read as their tokens. -/
theorem exists_itemsRead (records : List (List (String × Document)))
    (each : ∀ fields ∈ records, Item fields) :
    ∃ parts, itemEntries 0 (records.map Document.record) = .ok parts ∧ ItemsRead parts.flatten
      ((records.map Document.record).flatMap fun d => .blockEntry :: valueTokens d) := by
  induction records with
  | nil => exact ⟨[], rfl, .nil⟩
  | cons fields rest ih =>
      obtain ⟨item, others⟩ := List.forall_mem_cons.mp each
      obtain ⟨text, read, written⟩ := exists_itemRead item
      obtain ⟨parts, more, items⟩ := ih others
      refine ⟨('-' :: ' ' :: text) :: parts, ?_, .cons read items⟩
      rw [List.map_cons, written, more]
      rfl

/-- The text of a list of records is read as its tokens. -/
theorem exists_scan_writeItems {records : List (List (String × Document))} (any : records ≠ [])
    (each : ∀ fields ∈ records, Item fields) :
    ∃ text, writeItems (records.map Document.record) = .ok (String.ofList text) ∧ Legible text ∧
      Token.scan text = .ok (itemTokens (records.map Document.record)) := by
  obtain ⟨fields, rest, rfl⟩ := List.exists_cons_of_ne_nil any
  obtain ⟨item, others⟩ := List.forall_mem_cons.mp each
  obtain ⟨text, read, written⟩ := exists_itemRead item
  obtain ⟨parts, more, items⟩ := exists_itemsRead rest others
  refine ⟨'-' :: ' ' :: (text ++ parts.flatten), ?_, legible_item read items, scan_items read items⟩
  have whole : itemEntries 0 ((fields :: rest).map Document.record) =
      .ok (('-' :: ' ' :: text) :: parts) := by
    rw [List.map_cons, written, more]
    rfl
  rw [writeItems, whole, map_ok, blockText_zero]
  rfl

end Syscat.Yaml
