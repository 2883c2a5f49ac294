/-
Module: Syscat.Value
Purpose: The values that a database driver delivers for a column, that a caller passes along and that a
  settings file holds: their texts, the names of their types, and when two of them are equal.
Main exports: Value, Value.text?, Value.literal?, Value.typeName, Value.truthy, Value.equal
-/
import Syscat.Number.Exact
import Syscat.Number.Numeral
import Syscat.Text.Quoted
import Syscat.Time.Timestamp

namespace Syscat

/-- A dynamically typed value. Octets come in a fixed form (`octets`) and in an editable one (`buffer`),
sequences as lists and as tuples. A table keeps its entries in order of insertion. -/
inductive Value where
  | null
  | flag (b : Bool)
  | integer (n : Int)
  | double (x : Double)
  | decimal (x : Decimal)
  | text (s : String)
  | octets (bytes : List UInt8)
  | buffer (bytes : List UInt8)
  | moment (t : Timestamp)
  | day (d : Date)
  | clock (c : Clock)
  | list (items : List Value)
  | tuple (items : List Value)
  | table (entries : List (Value × Value))
deriving Repr, Inhabited

namespace Value

/-! ### Texts

The literal form of a value shows its type: texts are quoted, timestamps are spelled out. An integer of
more than `digitLimit` digits has no text, and neither has a value that holds one. -/

mutual

/-- The literal form of a value. -/
def literal? : Value → Option String
  | null => some "None"
  | flag b => some (if b then "True" else "False")
  | integer n => integerText? n
  | double x => some x.text
  | decimal x => some ("Decimal(\x27" ++ x.text ++ "\x27)")
  | text s => some (quotedText s)
  | octets bytes => some ("b" ++ String.ofList (quotedOctets bytes))
  | buffer bytes => some ("bytearray(b" ++ String.ofList (quotedBuffer bytes) ++ ")")
  | moment t => some t.literal
  | day d => some d.literal
  | clock c => some c.literal
  | list items => (itemLiterals? items).map fun parts => "[" ++ ", ".intercalate parts ++ "]"
  | tuple items => (itemLiterals? items).map fun parts =>
      match parts with
      | [part] => "(" ++ part ++ ",)"
      | parts => "(" ++ ", ".intercalate parts ++ ")"
  | table entries => (entryLiterals? entries).map fun parts =>
      "\x7b" ++ ", ".intercalate parts ++ "\x7d"

/-- The literal forms of the items of a sequence. -/
def itemLiterals? : List Value → Option (List String)
  | [] => some []
  | v :: rest => do
      let part ← v.literal?
      let parts ← itemLiterals? rest
      return part :: parts

/-- The literal forms of the entries of a table. -/
def entryLiterals? : List (Value × Value) → Option (List String)
  | [] => some []
  | (k, v) :: rest => do
      let key ← k.literal?
      let part ← v.literal?
      let parts ← entryLiterals? rest
      return (key ++ ": " ++ part) :: parts

end

/-- The text of a value. A text stands for itself, a number and a point in time for its plain notation,
and any other value for its literal form. -/
def text? : Value → Option String
  | text s => some s
  | decimal x => some x.text
  | moment t => some t.text
  | day d => some d.text
  | clock c => some c.text
  | v => v.literal?

/-- The name of a value's type. -/
def typeName : Value → String
  | null => "NoneType"
  | flag _ => "bool"
  | integer _ => "int"
  | double _ => "float"
  | decimal _ => "Decimal"
  | text _ => "str"
  | octets _ => "bytes"
  | buffer _ => "bytearray"
  | moment _ => "datetime"
  | day _ => "date"
  | clock _ => "time"
  | list _ => "list"
  | tuple _ => "tuple"
  | table _ => "dict"

/-- The name of a value's type together with the module that the type belongs to, if that is not the
core of the language. -/
def qualifiedTypeName : Value → String
  | decimal _ => "decimal.Decimal"
  | moment _ => "datetime.datetime"
  | day _ => "datetime.date"
  | clock _ => "datetime.time"
  | v => v.typeName

/-! ### Truth and equality -/

/-- A value counts as true unless it is null, false, a zero or empty. -/
def truthy : Value → Bool
  | null => false
  | flag b => b
  | integer n => n != 0
  | double x => !x.isZero
  | decimal x => !x.isZero
  | text s => !s.isEmpty
  | octets bytes => !bytes.isEmpty
  | buffer bytes => !bytes.isEmpty
  | moment _ => true
  | day _ => true
  | clock _ => true
  | list items => !items.isEmpty
  | tuple items => !items.isEmpty
  | table entries => !entries.isEmpty

/-- The exact number behind a numeric value. The flags are the numbers zero and one. -/
def number? : Value → Option Exact
  | flag b => some (Exact.ofInt (if b then 1 else 0))
  | integer n => some (Exact.ofInt n)
  | double x => Exact.ofDouble? x
  | decimal x => Exact.ofDecimal? x
  | _ => none

/-- The octets of a value that is a sequence of them. -/
def bytes? : Value → Option (List UInt8)
  | octets bytes => some bytes
  | buffer bytes => some bytes
  | _ => none

/-- Two timestamps are equal when both are local and show the same time, or both have an offset and
denote the same instant. -/
def sameMoment (a b : Timestamp) : Bool :=
  match a.offset, b.offset with
  | none, none => a.date == b.date && a.clock == b.clock
  | some _, some _ => a.instant == b.instant
  | _, _ => false

/-- What is wrong with a value that stands where a text has to stand. -/
def notTextMessage (v : Value) : String :=
  match v.bytes? with
  | some _ => "cannot use a string pattern on a bytes-like object"
  | none => "expected string or bytes-like object, got \x27" ++ v.qualifiedTypeName ++ "\x27"

mutual

/-- Equality of values. Numbers are compared exactly, whatever their types are, and octets by content;
values of other different types are never equal. -/
def equal : Value → Value → Bool
  | null, null => true
  | text a, text b => a == b
  | moment a, moment b => sameMoment a b
  | day a, day b => a == b
  | clock a, clock b => a == b
  | list a, list b => equalItems a b
  | tuple a, tuple b => equalItems a b
  | table a, table b => a.length == b.length && containsEntries b a
  | a, b =>
      match a.number?, b.number? with
      | some x, some y => x == y
      | _, _ =>
          match a.bytes?, b.bytes? with
          | some x, some y => x == y
          | _, _ => false

/-- Equality of sequences, item by item. -/
def equalItems : List Value → List Value → Bool
  | [], [] => true
  | a :: as, b :: bs => equal a b && equalItems as bs
  | _, _ => false

/-- Every entry of the second list has an equal one in `entries`. -/
def containsEntries (entries : List (Value × Value)) : List (Value × Value) → Bool
  | [] => true
  | (k, v) :: rest =>
      entries.any (fun e => equal k e.1 && equal v e.2) && containsEntries entries rest

end

mutual

/-- Why a value cannot be a key of a table: the type that forbids it. Lists, tables and buffers can be
changed and are therefore no keys, and neither is a tuple that holds one. -/
def unhashable? : Value → Option String
  | list _ => some "list"
  | table _ => some "dict"
  | buffer _ => some "bytearray"
  | tuple items => unhashableItem? items
  | _ => none

/-- The first type among some items that cannot be a key. -/
def unhashableItem? : List Value → Option String
  | [] => none
  | v :: rest => (v.unhashable?).orElse fun _ => unhashableItem? rest

end

/-! ### Tables -/

/-- Put an entry into a table. An equal key keeps its position and its spelling. -/
def insertEntry (key value : Value) : List (Value × Value) → List (Value × Value)
  | [] => [(key, value)]
  | (k, v) :: rest => if equal k key then (k, value) :: rest else (k, v) :: insertEntry key value rest

/-- The entries of a table that is built from pairs in order. -/
def collectEntries (pairs : List (Value × Value)) : List (Value × Value) :=
  pairs.foldl (fun entries pair => insertEntry pair.1 pair.2 entries) []

/-- The value of a text key in a table. -/
def entry? (name : String) (entries : List (Value × Value)) : Option Value :=
  (entries.find? fun e => equal e.1 (.text name)).map (·.2)

end Value

end Syscat
