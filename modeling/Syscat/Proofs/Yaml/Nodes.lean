/-
Module: Syscat.Proofs.Yaml.Nodes
Purpose: The nodes that the tokens of a list of records make up. Two steps for each token are enough
  to read them.
Main exports: Yaml.valueNode, Yaml.ofTokens?_itemTokens
-/
import Syscat.Proofs.Yaml.Blocks
import Syscat.Yaml.Node

namespace Syscat.Yaml

open Node

/-! ### Nodes of documents -/

mutual

/-- The node that a value is read as. -/
def valueNode : Document → Node
  | .null | .list _ => .empty
  | .flag b => .scalar .flag (flagText b)
  | .integer n => .scalar .integer (integerChars n)
  | .text s => .scalar .text s.toList
  | .record fields => .mapping .mapping (fieldNodes fields)

/-- The nodes that the fields of a record are read as. -/
def fieldNodes : List (String × Document) → List (Node × Node)
  | [] => []
  | (name, d) :: rest => (.scalar .text name.toList, valueNode d) :: fieldNodes rest

end

section
variable {handles : Handles} {anchors : List (String × Node)} {tokens : List Token}
  {place : Node.Place} {fuel : Nat}

/-! ### Single steps -/

/-- A scalar without properties is read as a node with the tag of its form, or as a text. -/
theorem read_scalar (isPlain : Bool) (text : List Char) :
    Node.read handles place (fuel + 2) ⟨.scalar isPlain text :: tokens, anchors⟩ =
      .ok (.scalar (if isPlain then formTag text else .text) text, ⟨tokens, anchors⟩) := by
  cases isPlain <;> rfl

/-- A mapping in a block is read as its entries. -/
theorem read_mapping (block : place ≠ .flow) {entries : List (Node × Node)} {left : List Token}
    (read : readBlockEntries handles fuel ⟨tokens, anchors⟩ = .ok (entries, ⟨left, anchors⟩)) :
    Node.read handles place (fuel + 2) ⟨.blockMappingStart :: tokens, anchors⟩ =
      .ok (.mapping .mapping entries, ⟨left, anchors⟩) := by
  have content :
      readContent handles place ⟨none, none⟩ (fuel + 1) ⟨.blockMappingStart :: tokens, anchors⟩ =
        .ok (.mapping .mapping entries, ⟨left, anchors⟩) := by
    rw [readContent]
    simp only [if_neg block, Properties.enter, read, ok_bind]
    rfl
  rw [Node.read]
  exact content

/-- A sequence in a block is read as its items. -/
theorem read_sequence {items : List Node} {left : List Token}
    (read : readBlockItems handles fuel ⟨tokens, anchors⟩ = .ok (items, ⟨left, anchors⟩)) :
    Node.read handles .block (fuel + 2) ⟨.blockSequenceStart :: tokens, anchors⟩ =
      .ok (.sequence .sequence items, ⟨left, anchors⟩) := by
  have content :
      readContent handles .block ⟨none, none⟩ (fuel + 1) ⟨.blockSequenceStart :: tokens, anchors⟩ =
        .ok (.sequence .sequence items, ⟨left, anchors⟩) := by
    rw [readContent]
    simp only [reduceCtorEq, if_false, Properties.enter, read, ok_bind]
    rfl
  rw [Node.read]
  exact content

/-- An entry is read as a key and a value, and then the others are. -/
theorem readBlockEntries_cons {name : List Char} {left last : List Token} {node : Node}
    {entries : List (Node × Node)} (present : isAbsentInMapping tokens = false)
    (value : Node.read handles .entry (fuel + 2) ⟨tokens, anchors⟩ = .ok (node, ⟨left, anchors⟩))
    (others : readBlockEntries handles (fuel + 2) ⟨left, anchors⟩ = .ok (entries, ⟨last, anchors⟩)) :
    readBlockEntries handles (fuel + 3) ⟨.key :: .scalar true name :: .value :: tokens, anchors⟩ =
      .ok ((.scalar (formTag name) name, node) :: entries, ⟨last, anchors⟩) := by
  have named : isAbsentInMapping (.scalar true name :: .value :: tokens) = false := rfl
  rw [readBlockEntries]
  simp only [named, Bool.false_eq_true, if_false, read_scalar, if_true, ok_bind, present, value, others]
  rfl

/-- An item is read, and then the others are. -/
theorem readBlockItems_cons {left last : List Token} {node : Node} {items : List Node}
    (present : isAbsentInBlock tokens = false)
    (item : Node.read handles .block fuel ⟨tokens, anchors⟩ = .ok (node, ⟨left, anchors⟩))
    (others : readBlockItems handles fuel ⟨left, anchors⟩ = .ok (items, ⟨last, anchors⟩)) :
    readBlockItems handles (fuel + 1) ⟨.blockEntry :: tokens, anchors⟩ =
      .ok (node :: items, ⟨last, anchors⟩) := by
  rw [readBlockItems]
  simp only [present, Bool.false_eq_true, if_false, item, others, ok_bind]
  rfl

end

/-! ### Documents -/

/-- A value is not left out. -/
theorem not_absent_valueTokens {sort : List (String × Document) → Prop} {d : Document}
    (tree : d.Tree sort) (present : d.isNull = false) (tokens : List Token) :
    isAbsentInMapping (valueTokens d ++ tokens) = false ∧
      isAbsentInBlock (valueTokens d ++ tokens) = false := by
  cases d with
  | null => cases present
  | list => exact tree.elim
  | flag | integer | text | record => exact ⟨rfl, rfl⟩

section
variable {handles : Handles} {anchors : List (String × Node)} {tokens : List Token}
  {place : Node.Place} {fuel : Nat}

/-- A simple value is read as its node. -/
theorem read_simple {d : Document} (simple : d.isSimple = true) :
    Node.read handles place (fuel + 2) ⟨valueTokens d ++ tokens, anchors⟩ =
      .ok (valueNode d, ⟨tokens, anchors⟩) := by
  cases d with
  | flag b => exact (read_scalar true _).trans (by rw [if_pos rfl, formTag_flagText]; rfl)
  | integer n => exact (read_scalar true _).trans (by rw [if_pos rfl, formTag_integerChars]; rfl)
  | text s =>
      refine (read_scalar (scalarStyle s.toList == .plain) s.toList).trans ?_
      have form : (if scalarStyle s.toList == .plain then formTag s.toList else .text) = Tag.text := by
        split
        case isTrue style =>
          obtain ⟨tag, safe⟩ := of_scalarStyle_plain (eq_of_beq style)
          rw [formTag_visible (visible_of_isPlainSafe safe), tag]
        case isFalse => rfl
      rw [form]
      rfl
  | null | list | record => cases simple

mutual

/-- A value is read as its node, in at most two steps for each of its tokens. -/
theorem read_valueTokens : (d : Document) → d.Tree Block → d.isNull = false → ∀ place : Node.Place,
    place ≠ .flow → ∀ fuel : Nat, 2 * (valueTokens d).length ≤ fuel → ∀ tokens : List Token,
      Node.read handles place fuel ⟨valueTokens d ++ tokens, anchors⟩ =
      .ok (valueNode d, ⟨tokens, anchors⟩)
  | .null, _, present => nomatch present
  | .list _, tree, _ => tree.elim
  | .flag _, _, _ | .integer _, _, _ | .text _, _, _ => fun _ _ fuel enough _ => by
      obtain ⟨fuel, rfl⟩ : ∃ n, fuel = n + 2 := ⟨fuel - 2, (Nat.sub_add_cancel enough).symm⟩
      exact read_simple rfl
  | .record fields, ⟨block, below⟩, _ => fun place notFlow fuel enough tokens => by
      simp only [valueTokens, List.length_cons, List.length_append, List.length_nil] at enough
      obtain ⟨fuel, rfl⟩ : ∃ n, fuel = n + 2 := ⟨fuel - 2, by omega⟩
      have entries := readEntries_fieldTokens fields block.keys block.present below fuel
        (show 2 * (fieldTokens fields).length + 1 ≤ fuel by omega) tokens
      rw [valueTokens, List.cons_append, List.append_assoc]
      exact read_mapping notFlow entries

/-- Fields are read as their nodes. -/
theorem readEntries_fieldTokens : (fields : List (String × Document)) →
    (∀ name ∈ Document.names fields, Key name.toList) → (∀ field ∈ fields, field.2.isNull = false) →
    Document.FieldsTree Block fields → ∀ fuel : Nat, 2 * (fieldTokens fields).length + 1 ≤ fuel →
      ∀ tokens : List Token,
        readBlockEntries handles fuel ⟨fieldTokens fields ++ .blockEnd :: tokens, anchors⟩ =
          .ok (fieldNodes fields, ⟨tokens, anchors⟩)
  | [], _, _, _ => fun fuel enough _ => by
      obtain ⟨fuel, rfl⟩ : ∃ n, fuel = n + 1 := ⟨fuel - 1, (Nat.sub_add_cancel enough).symm⟩
      rfl
  | (name, d) :: rest, keys, present, ⟨tree, below⟩ => fun fuel enough tokens => by
      obtain ⟨key, keysLater⟩ := List.forall_mem_cons.mp keys
      obtain ⟨own, presentLater⟩ := List.forall_mem_cons.mp present
      simp only [fieldTokens, List.length_cons, List.length_append] at enough
      obtain ⟨fuel, rfl⟩ : ∃ n, fuel = n + 3 := ⟨fuel - 3, by omega⟩
      have value := read_valueTokens d tree own .entry (by decide) (fuel + 2)
        (show 2 * (valueTokens d).length ≤ fuel + 2 by omega) (fieldTokens rest ++ .blockEnd :: tokens)
      have others := readEntries_fieldTokens rest keysLater presentLater below (fuel + 2)
        (show 2 * (fieldTokens rest).length + 1 ≤ fuel + 2 by omega) tokens
      rw [fieldTokens, List.cons_append, List.cons_append, List.cons_append, List.append_assoc,
        readBlockEntries_cons (not_absent_valueTokens tree own _).1 value others, key.formTag_eq]
      rfl

end

/-- Items are read as their nodes. -/
theorem readItems_tokens {items : List Document} (trees : ∀ d ∈ items, d.Tree Block ∧ d.isNull = false)
    (enough : 2 * (items.flatMap fun d => Token.blockEntry :: valueTokens d).length + 1 ≤ fuel) :
    readBlockItems handles fuel
      ⟨(items.flatMap fun d => .blockEntry :: valueTokens d) ++ [.blockEnd], anchors⟩ =
      .ok (items.map valueNode, ⟨[], anchors⟩) := by
  induction items generalizing fuel with
  | nil =>
      obtain ⟨fuel, rfl⟩ : ∃ n, fuel = n + 1 := ⟨fuel - 1, (Nat.sub_add_cancel enough).symm⟩
      rfl
  | cons d rest ih =>
      obtain ⟨⟨tree, present⟩, later⟩ := List.forall_mem_cons.mp trees
      simp only [List.flatMap_cons, List.length_append, List.length_cons] at enough
      obtain ⟨fuel, rfl⟩ : ∃ n, fuel = n + 1 := ⟨fuel - 1, by omega⟩
      have item := @read_valueTokens handles anchors d tree present .block (by decide) fuel (by omega)
        ((rest.flatMap fun d => .blockEntry :: valueTokens d) ++ [.blockEnd])
      have others := @ih fuel later (by omega)
      rw [List.flatMap_cons, List.append_assoc, List.cons_append,
        readBlockItems_cons (not_absent_valueTokens tree present _).2 item others]
      rfl

end

/-- The tokens of a list of records make up the sequence of their nodes. -/
theorem ofTokens?_itemTokens {items : List Document}
    (trees : ∀ d ∈ items, d.Tree Block ∧ d.isNull = false) :
    Node.ofTokens? (itemTokens items) = .ok (some (.sequence .sequence (items.map valueNode))) := by
  have read : readDocument standardHandles (itemTokens items) =
      .ok (.sequence .sequence (items.map valueNode)) := by
    have enough : 2 * (items.flatMap fun d => Token.blockEntry :: valueTokens d).length + 1 ≤
        2 * (itemTokens items).length := by
      rw [itemTokens, List.length_cons, List.length_append, List.length_singleton]
      omega
    have sequence :
        Node.read standardHandles .block (2 * (itemTokens items).length + 2) ⟨itemTokens items, []⟩ =
          .ok (.sequence .sequence (items.map valueNode), ⟨[], []⟩) :=
      read_sequence (@readItems_tokens standardHandles [] _ items trees enough)
    rw [readDocument, sequence]
    rfl
  rw [Node.ofTokens?.eq_def, itemTokens]
  rw [itemTokens] at read
  simp only [read]
  rfl

end Syscat.Yaml
