/-
Module: Syscat.Yaml.Reader
Purpose: Reading of YAML 1.1 as a value. The entries that a mapping merges come in front of its own ones.
  Collections are filled from the outside to the inside, so that of two failures the less deep one counts.
Main exports: Yaml.read
-/
import Syscat.Yaml.Content
import Syscat.Yaml.Node

namespace Syscat.Yaml

/-- The characters that a text may have: tabs, line ends, and no other control characters. -/
def isAllowed (c : Char) : Bool :=
  let n := c.toNat
  c == '\t' || c == '\n' || c == '\r' || (0x20 ≤ n && n ≤ 0x7E) || c == '\u0085'
    || (0xA0 ≤ n && n ≤ 0xFFFD) || 0x10000 ≤ n

/-! ### Failures by depth -/

/-- What a node is read as, or the failure that is met first and the depth where it is met. -/
abbrev Filled (α : Type) := Except (Nat × ReadFailure) α

namespace Filled

/-- Two things beside each other. Of two failures the less deep one is met first, and the first one of
those that are equally deep. -/
def both {α β : Type} (a : Filled α) (b : Filled β) : Filled (α × β) :=
  match a, b with
  | .ok a, .ok b => .ok (a, b)
  | .error e, .ok _ => .error e
  | .ok _, .error e => .error e
  | .error e, .error f => .error (if f.1 < e.1 then f else e)

/-- Several things beside each other. -/
def all {α : Type} : List (Filled α) → Filled (List α)
  | [] => .ok []
  | a :: rest => (both a (all rest)).map fun both => both.1 :: both.2

/-- A node at a depth that has no value. -/
def illFormed {α : Type} (depth : Nat) : Filled α :=
  .error (depth, .malformed .yaml)

end Filled

namespace Node

/-! ### Texts and merged entries -/

mutual

/-- How deep the nodes inside a node are nested, the node itself counting as one. -/
def height : Node → Nat
  | scalar _ _ => 1
  | sequence _ items => itemsHeight items + 1
  | mapping _ entries => entriesHeight entries + 1
  | around _ => 1

/-- The height of the highest item. -/
def itemsHeight : List Node → Nat
  | [] => 0
  | n :: rest => max n.height (itemsHeight rest)

/-- The height of the highest key or value. -/
def entriesHeight : List (Node × Node) → Nat
  | [] => 0
  | (key, v) :: rest => max (max key.height v.height) (entriesHeight rest)

end

mutual

/-- The text of a scalar. A mapping has the text of its default value. -/
def scalarText? : Node → Option (List Char)
  | scalar _ text => some text
  | sequence _ _ => none
  | mapping _ entries => defaultText? entries
  | around _ => none

/-- The text of the default value among some entries. -/
def defaultText? : List (Node × Node) → Option (List Char)
  | [] => none
  | (key, v) :: rest => if key.tag = .defaultValue then v.scalarText? else defaultText? rest

end

/-- A node with another tag. -/
def withTag (tag : Tag) : Node → Node
  | scalar _ text => scalar tag text
  | sequence _ items => sequence tag items
  | mapping _ entries => mapping tag entries
  | around anchor => around anchor

/-- The sign of a default value is a text where it is read as a key. -/
def plainKey (key : Node) : Node :=
  if key.tag = .defaultValue then key.withTag .text else key

mutual

/-- The entries that a mapping merges and its own ones. -/
def splitEntries : List (Node × Node) → Except ReadFailure (List (Node × Node) × List (Node × Node))
  | [] => .ok ([], [])
  | (key, v) :: rest =>
      if key.tag = .merge then do
        let first ← mergeSource v
        let (merged, own) ← splitEntries rest
        return (first ++ merged, own)
      else do
        let (merged, own) ← splitEntries rest
        return (merged, (plainKey key, v) :: own)

/-- The entries of a mapping, or of the mappings in a sequence, to be merged. Those of later mappings come
first, so that the earlier ones win. One that is left open adds none. -/
def mergeSource : Node → Except ReadFailure (List (Node × Node))
  | scalar _ _ => illFormed
  | sequence _ items => mergeSources items
  | mapping _ entries => do
      let (merged, own) ← splitEntries entries
      return merged ++ own
  | around _ => .ok []

/-- The entries of the mappings in a sequence. -/
def mergeSources : List Node → Except ReadFailure (List (Node × Node))
  | [] => .ok []
  | mapping _ entries :: rest => do
      let (merged, own) ← splitEntries entries
      return (← mergeSources rest) ++ merged ++ own
  | around _ :: rest => mergeSources rest
  | _ :: _ => illFormed

end

/-- All entries of a mapping, the merged ones in front. -/
def allEntries (entries : List (Node × Node)) : Except ReadFailure (List (Node × Node)) := do
  let (merged, own) ← splitEntries entries
  return merged ++ own

/-! ### Values -/

/-- Whether a value of this tag is a collection, which can be no key. -/
def isCollectionTag (tag : Tag) : Bool :=
  [Tag.sequence, .mapping, .orderedMapping, .pairs, .set].contains tag

/-- Whether two keys are the same. The number that equals nothing is the same as itself. -/
def sameKey (a b : Value) : Bool :=
  match a, b with
  | .double .nan, .double .nan => true
  | a, b => a.equal b

/-- Put an entry into a table. The same key keeps its position. -/
def putEntry (entries : List (Value × Value)) (entry : Value × Value) : List (Value × Value) :=
  if entries.any fun e => sameKey e.1 entry.1 then
    entries.map fun e => if sameKey e.1 entry.1 then (e.1, entry.2) else e
  else entries ++ [entry]

/-- Read the keys and values of a mapping that is `depth` deep by a function for the nodes inside. -/
def fillEntries (fill : Node → Filled Value) (depth : Nat) (entries : List (Node × Node)) :
    Filled (List (Value × Value)) :=
  match allEntries entries with
  | .error e => .error (depth, e)
  | .ok entries =>
      (Filled.all (entries.map fun (key, v) =>
        Filled.both (if isCollectionTag key.tag then Filled.illFormed depth else fill key) (fill v))).map
        fun pairs => pairs.foldl putEntry []

/-- Read a mapping with one entry as a pair. -/
def fillPair (fill : Node → Filled Value) (depth : Nat) : Node → Filled Value
  | mapping _ [(key, v)] => (Filled.both (fill key) (fill v)).map fun (key, v) => .tuple [key, v]
  | around _ => .ok (.tuple [])
  | _ => Filled.illFormed depth

/-- Read the value of a node that is `depth` deep. What is wrong with a collection itself is met together
with what is inside it. -/
def fill : Nat → Nat → Node → Filled Value
  | 0, depth, _ => Filled.illFormed depth
  | fuel + 1, depth, n =>
      let inner := fill fuel (depth + 1)
      match n.tag, n with
      | .sequence, sequence _ items => (Filled.all (items.map inner)).map Value.list
      | .mapping, mapping _ entries => (fillEntries inner (depth + 1) entries).map Value.table
      | .set, mapping _ entries =>
          (fillEntries inner (depth + 1) entries).map fun pairs => .tuple (pairs.map (·.1))
      | .orderedMapping, sequence _ items =>
          (Filled.all (items.map (fillPair inner (depth + 1)))).map Value.list
      | .pairs, sequence _ items => (Filled.all (items.map (fillPair inner (depth + 1)))).map Value.list
      | _, around _ => .ok (.table [])
      | .timestamp, mapping _ entries =>
          if (defaultText? entries).isSome then .error (depth, .noText) else Filled.illFormed depth
      | tag, n =>
          if isCollectionTag tag then Filled.illFormed (depth + 1)
          else
            match n.scalarText? with
            | some text => (scalarContent tag text).mapError fun e => (depth, e)
            | none => Filled.illFormed depth

/-- The value of a node. -/
def toValue (n : Node) : Except ReadFailure Value :=
  (fill n.height 0 n).mapError (·.2)

end Node

/-- The node of a text, if there is a document at all. Where a token cannot be read, those in front of it
may be at fault before. -/
def readNode? (text : List Char) : Except ReadFailure (Option Node) :=
  match Token.scan text with
  | .ok tokens =>
      match Node.ofTokens? tokens with
      | .ok n? => .ok n?
      | .error _ => illFormed
  | .error (tokens, e) =>
      match Node.ofTokens? (tokens ++ [.broken]) with
      | .error .misplaced => illFormed
      | _ => .error e

/-- Read a text as a value. A text without a document is null. -/
def read (text : List Char) : Except ReadFailure Value :=
  if text.all isAllowed then do
    match ← readNode? text with
    | some n => n.toValue
    | none => return .null
  else illFormed

end Syscat.Yaml
