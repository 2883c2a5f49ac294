/-
Module: Syscat.Document
Purpose: Trees of records, lists and simple values, which exported documents consist of, and the targets
  that a record can be laid out in.
Main exports: Document, Document.withoutNulls, Document.toValue, WriteFailure, RecordTarget
-/
import Syscat.Value

namespace Syscat

/-- A tree of records and lists. A record keeps its fields in order. -/
inductive Document where
  | null
  | flag (b : Bool)
  | integer (n : Int)
  | text (s : String)
  | list (items : List Document)
  | record (fields : List (String × Document))
deriving Repr, Inhabited

namespace Document

/-- Whether a tree is null. -/
def isNull : Document → Bool
  | null => true
  | _ => false

mutual

/-- The tree without the fields that are null, at every level. -/
def withoutNulls : Document → Document
  | list items => list (itemsWithoutNulls items)
  | record fields => record (fieldsWithoutNulls fields)
  | d => d

/-- The items of a list without the fields that are null in them. -/
def itemsWithoutNulls : List Document → List Document
  | [] => []
  | d :: rest => d.withoutNulls :: itemsWithoutNulls rest

/-- The fields of a record that are not null. -/
def fieldsWithoutNulls : List (String × Document) → List (String × Document)
  | [] => []
  | (name, d) :: rest =>
      if d.isNull then fieldsWithoutNulls rest
      else (name, d.withoutNulls) :: fieldsWithoutNulls rest

end

mutual

/-- The value that a tree stands for. -/
def toValue : Document → Value
  | null => .null
  | flag b => .flag b
  | integer n => .integer n
  | text s => .text s
  | list items => .list (itemValues items)
  | record fields => .table (fieldEntries fields)

/-- The values of the items of a list. -/
def itemValues : List Document → List Value
  | [] => []
  | d :: rest => d.toValue :: itemValues rest

/-- The entries of a table with the values of the fields of a record. -/
def fieldEntries : List (String × Document) → List (Value × Value)
  | [] => []
  | (name, d) :: rest => (.text name, d.toValue) :: fieldEntries rest

end

end Document

/-- Why a document cannot be written. -/
inductive WriteFailure where
  /-- An integer has too many digits. -/
  | longInteger
  /-- The sequence at hand ended too early. -/
  | pastEnd (sequence : String)
deriving DecidableEq, Repr, Inhabited

/-- The digits of an integer in a document. -/
def integerDigits (n : Int) : Except WriteFailure (List Char) :=
  match integerText? n with
  | some text => .ok text.toList
  | none => .error .longInteger

/-- Something that records can be laid out in: a form for every kind of field. -/
structure RecordTarget (β : Type) where
  null : β
  flag : Bool → β
  integer : Int → β
  text : String → β
  moment : Timestamp → β
  record : List (String × β) → β

namespace RecordTarget

/-- Exported documents, in which a timestamp is a text. -/
def document : RecordTarget Document :=
  ⟨.null, .flag, .integer, .text, fun t => .text t.exported, .record⟩

/-- Values, in which a timestamp is kept as it is. -/
def value : RecordTarget Value :=
  ⟨.null, .flag, .integer, .text, .moment, fun fields => .table (fields.map fun f => (.text f.1, f.2))⟩

/-- A field that may be null. -/
def optional {α β : Type} (target : RecordTarget β) (form : α → β) (field : Option α) : β :=
  (field.map form).getD target.null

end RecordTarget

end Syscat
