/-
Module: Syscat.Proofs.Yaml.Contents
Purpose: The nodes of a list of records have the values of the records.
Main exports: Yaml.toValue_valueNodes
-/
import Syscat.Proofs.Yaml.Nodes
import Syscat.Yaml.Reader

namespace Syscat.Yaml

open Node

/-! ### Scalars -/

/-- A scalar of a tag with a meaning for scalars has its content. -/
theorem fill_scalar {tag : Tag} (single : isCollectionTag tag = false) {text : List Char} {v : Value}
    (content : scalarContent tag text = .ok v) (fuel depth : Nat) :
    fill (fuel + 1) depth (.scalar tag text) = .ok v := by
  have filled : fill (fuel + 1) depth (.scalar tag text) =
      (scalarContent tag text).mapError fun e => (depth, e) := by
    cases tag with
    | sequence | mapping | orderedMapping | pairs | set => cases single
    | _ => rfl
  rw [filled, content]
  rfl

theorem fill_text (s : String) (fuel depth : Nat) :
    fill (fuel + 1) depth (.scalar .text s.toList) = .ok (.text s) :=
  fill_scalar rfl (by rw [scalarContent, String.ofList_toList]) fuel depth

/-! ### Entries -/

/-- The fields of a record merge no others. -/
theorem allEntries_fieldNodes (fields : List (String × Document)) :
    allEntries (fieldNodes fields) = .ok (fieldNodes fields) := by
  have split : splitEntries (fieldNodes fields) = .ok ([], fieldNodes fields) := by
    induction fields with
    | nil => rfl
    | cons field rest ih =>
        have text : (Node.scalar .text field.1.toList).tag ≠ .merge := by simp [Node.tag]
        rw [fieldNodes, splitEntries, if_neg text, ih]
        rfl
  rw [allEntries, split]
  rfl

/-- A field with a new name is put behind the others. -/
theorem putEntry_fieldEntries (fields : List (String × Document)) (name : String) (v : Value)
    (fresh : name ∉ Document.names fields) :
    putEntry (Document.fieldEntries fields) (.text name, v) =
      Document.fieldEntries fields ++ [(.text name, v)] := by
  have other : ((Document.fieldEntries fields).any fun e => sameKey e.1 (.text name)) = false := by
    induction fields with
    | nil => rfl
    | cons field rest ih =>
        obtain ⟨apart, later⟩ : name ≠ field.1 ∧
          name ∉ Document.names rest := by simpa [Document.names] using fresh
        rw [Document.fieldEntries, List.any_cons, ih later]
        simpa [sameKey, Value.equal] using Ne.symm apart
  rw [putEntry, other]
  rfl

/-! ### Trees -/

mutual

/-- The node of a value has that value. -/
theorem fill_valueNode : (d : Document) → d.Tree Block → d.isNull = false → d.toValue.Spellable →
    ∀ fuel, (valueNode d).height ≤ fuel → ∀ depth, fill fuel depth (valueNode d) = .ok d.toValue
  | .null, _, present, _ => nomatch present
  | .list _, tree, _, _ => tree.elim
  | .flag b, _, _, _ => fun fuel enough depth => by
      obtain ⟨fuel, rfl⟩ : ∃ n, fuel = n + 1 := ⟨fuel - 1, (Nat.sub_add_cancel enough).symm⟩
      exact @fill_scalar .flag rfl _ _ (flagContent_flagText b) fuel depth
  | .integer n, _, _, short => fun fuel enough depth => by
      obtain ⟨fuel, rfl⟩ : ∃ n, fuel = n + 1 := ⟨fuel - 1, (Nat.sub_add_cancel enough).symm⟩
      exact @fill_scalar .integer rfl _ _ (integerContent_integerChars short) fuel depth
  | .text s, _, _, _ => fun fuel enough depth => by
      obtain ⟨fuel, rfl⟩ : ∃ n, fuel = n + 1 := ⟨fuel - 1, (Nat.sub_add_cancel enough).symm⟩
      exact fill_text s fuel depth
  | .record fields, ⟨block, below⟩, _, short => fun fuel enough depth => by
      rw [valueNode, height] at enough
      obtain ⟨fuel, rfl⟩ : ∃ n, fuel = n + 1 := ⟨fuel - 1, by omega⟩
      have entries := fillAll_fieldNodes fields block.present below short fuel
        (Nat.le_of_succ_le_succ enough) (depth + 1)
      have filled : fill (fuel + 1) depth (.mapping .mapping (fieldNodes fields)) =
          (fillEntries (fill fuel (depth + 1)) (depth + 1) (fieldNodes fields)).map Value.table := rfl
      rw [valueNode, filled, fillEntries, allEntries_fieldNodes]
      dsimp only
      rw [entries, map_ok, Document.foldl_fieldEntries putEntry_fieldEntries block.distinct]
      rfl

/-- The nodes of fields have their names and values. -/
theorem fillAll_fieldNodes :
    (fields : List (String × Document)) → (∀ field ∈ fields, field.2.isNull = false) →
      Document.FieldsTree Block fields → Value.EntriesSpellable (Document.fieldEntries fields) →
      ∀ fuel, entriesHeight (fieldNodes fields) ≤ fuel → ∀ depth,
      Filled.all ((fieldNodes fields).map fun (key, v) =>
        Filled.both (if isCollectionTag key.tag then Filled.illFormed depth else fill fuel depth key)
          (fill fuel depth v)) = .ok (Document.fieldEntries fields)
  | [], _, _, _ => fun _ _ _ => rfl
  | (name, d) :: rest, present, ⟨tree, below⟩, ⟨_, short, shortLater⟩ => fun fuel enough depth => by
      obtain ⟨own, presentLater⟩ := List.forall_mem_cons.mp present
      simp only [fieldNodes, entriesHeight, height] at enough
      obtain ⟨fuel, rfl⟩ : ∃ n, fuel = n + 1 := ⟨fuel - 1, by omega⟩
      have value := fill_valueNode d tree own short (fuel + 1) (by omega) depth
      have others := fillAll_fieldNodes rest presentLater below shortLater (fuel + 1) (by omega) depth
      rw [fieldNodes, List.map_cons, Filled.all, others]
      dsimp only
      rw [value, if_neg (by simp [Node.tag, isCollectionTag]), fill_text]
      rfl

end

/-! ### Lists of records -/

/-- The nodes of records have their values. -/
theorem fillAll_valueNodes {records : List (List (String × Document))}
    (each : ∀ fields ∈ records, Item fields) {fuel : Nat}
    (enough : itemsHeight ((records.map Document.record).map valueNode) ≤ fuel) (depth : Nat) :
    Filled.all (((records.map Document.record).map valueNode).map (fill fuel depth)) =
      .ok ((records.map Document.record).map Document.toValue) := by
  induction records with
  | nil => rfl
  | cons fields rest ih =>
      obtain ⟨⟨tree, short, _⟩, others⟩ := List.forall_mem_cons.mp each
      simp only [List.map_cons, itemsHeight] at enough
      have own := fill_valueNode (.record fields) tree rfl short fuel (by omega) depth
      have later := ih others (by omega)
      simp only [List.map_cons, Filled.all, own, later]
      rfl

theorem toValue_valueNodes {records : List (List (String × Document))}
    (each : ∀ fields ∈ records, Item fields) :
    Node.toValue (.sequence .sequence ((records.map Document.record).map valueNode)) =
      .ok (.list ((records.map Document.record).map Document.toValue)) := by
  have filled : ∀ nodes : List Node, Node.toValue (.sequence .sequence nodes) =
      ((Filled.all (nodes.map (fill (itemsHeight nodes) 1))).map Value.list).mapError (·.2) :=
        fun _ => rfl
  rw [filled, fillAll_valueNodes each (Nat.le_refl _)]
  rfl

/-- The node of a text is the one that its tokens make up. -/
theorem readNode?_of_scan {text : List Char} {tokens : List Token} {n? : Option Node}
    (scanned : Token.scan text = .ok tokens) (made : Node.ofTokens? tokens = .ok n?) :
    readNode? text = .ok n? := by
  unfold readNode?
  rw [scanned]
  dsimp only
  rw [made]

/-- A text of visible characters and line ends may stand in a file. -/
theorem isAllowed_of_legible {text : List Char} (legible : Legible text) : text.all isAllowed = true := by
  refine List.all_eq_true.mpr fun c inside => ?_
  rcases legible c inside with visible | rfl
  · simp only [isVisible, Bool.and_eq_true, decide_eq_true_eq] at visible
    simp [isAllowed]
    omega
  · rfl

/-- Records are written in YAML so that they are read back as their values. -/
theorem exists_read_writeItems {records : List (List (String × Document))}
    (each : ∀ fields ∈ records, Item fields) :
    ∃ text, writeItems (records.map Document.record) = .ok text ∧ '\r' ∉ text.toList ∧
      Yaml.read text.toList = .ok (.list ((records.map Document.record).map Document.toValue)) := by
  by_cases any : records = []
  · subst any
    exact ⟨"[]\n", rfl, by decide, rfl⟩
  · obtain ⟨text, written, legible, tokens⟩ := exists_scan_writeItems any each
    have plain : '\r' ∉ text := fun inside => (legible '\r' inside).elim (by decide) (by decide)
    have trees : ∀ d ∈ records.map Document.record, d.Tree Block ∧ d.isNull = false := by
      intro d inside
      obtain ⟨fields, listed, rfl⟩ := List.mem_map.mp inside
      exact ⟨(each fields listed).tree, rfl⟩
    refine ⟨String.ofList text, written, by rwa [String.toList_ofList], ?_⟩
    rw [String.toList_ofList, Yaml.read, if_pos (isAllowed_of_legible legible),
      readNode?_of_scan tokens (ofTokens?_itemTokens trees), ok_bind]
    exact toValue_valueNodes each

end Syscat.Yaml
