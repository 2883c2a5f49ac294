/-
Module: Syscat.Record
Purpose: Checking of the fields that a record is built from. A check that fails reports every faulty
  field, in the order of the record's fields, and not only the first. The checks of single values are
  lenient: octets may stand for a text, a numeral for an integer, a word for a flag, a day for a
  timestamp.
Main exports: FilledText, FieldProblem, FieldFault, Checked, requiredField, optionalField, checkText,
  checkFilledText, checkVersion
-/
import Syscat.Text.Utf8
import Syscat.Version

namespace Syscat

/-- A text that is not empty, as names are. -/
abbrev FilledText := { s : String // s ≠ "" }

instance : Inhabited FilledText := ⟨⟨"A", by decide⟩⟩

/-- What is wrong with a field. -/
inductive FieldProblem where
  | missing
  | notText
  /-- Octets that are to spell out a text are not UTF-8. -/
  | notUnicode
  | tooShort
  | notChoice (choices : List String)
  | notRecord (record : String)
  | version (e : VersionError)
  | notInteger
  | unreadableInteger
  /-- A numeral has more digits than integers are read from, or a floating-point number more bits than a
  machine integer. -/
  | wideInteger
  | fractional
  | notFinite
  | notFlag
  | unreadableFlag
  | notMoment
  | notCode (choices : List String)
  | frozen
deriving Repr, Inhabited

/-- A problem and the path of field names that leads to it. -/
structure FieldFault where
  path : List String
  problem : FieldProblem
deriving Repr, Inhabited

/-- Several alternatives in a sentence. -/
def alternatives : List String → String
  | [] => ""
  | [one] => one
  | [one, two] => one ++ " or " ++ two
  | one :: rest => one ++ ", " ++ alternatives rest

namespace FieldProblem

/-- The short name of a problem. -/
def code : FieldProblem → String
  | missing => "missing"
  | notText => "string_type"
  | notUnicode => "string_unicode"
  | tooShort => "string_too_short"
  | notChoice _ => "literal_error"
  | notRecord _ => "model_type"
  | version _ => "value_error"
  | notInteger => "int_type"
  | unreadableInteger => "int_parsing"
  | wideInteger => "int_parsing_size"
  | fractional => "int_from_float"
  | notFinite => "finite_number"
  | notFlag => "bool_type"
  | unreadableFlag => "bool_parsing"
  | notMoment => "datetime_type"
  | notCode _ => "enum"
  | frozen => "frozen_instance"

/-- The sentence that states a problem. -/
def message : FieldProblem → String
  | missing => "Field required"
  | notText => "Input should be a valid string"
  | notUnicode => "Input should be a valid string, unable to parse raw data as a unicode string"
  | tooShort => "String should have at least 1 character"
  | notChoice choices => "Input should be " ++ alternatives (choices.map quotedText)
  | notRecord record => "Input should be a valid dictionary or instance of " ++ record
  | version e => "Value error, " ++ e.message
  | notInteger => "Input should be a valid integer"
  | unreadableInteger => "Input should be a valid integer, unable to parse string as an integer"
  | wideInteger => "Unable to parse input string as an integer, exceeded maximum size"
  | fractional => "Input should be a valid integer, got a number with a fractional part"
  | notFinite => "Input should be a finite number"
  | notFlag => "Input should be a valid boolean"
  | unreadableFlag => "Input should be a valid boolean, unable to interpret input"
  | notMoment => "Input should be a valid datetime"
  | notCode choices => "Input should be " ++ alternatives choices
  | frozen => "Instance is frozen"

end FieldProblem

/-- The fields that a record is to be built from. -/
abbrev Fields := List (String × Value)

/-- The result of checking: a record, or the faults of its fields. -/
def Checked (α : Type) := Except (List FieldFault) α

namespace Checked

/-- The result of a check that found nothing wrong. -/
def ok {α : Type} (a : α) : Checked α := Except.ok a

/-- A check that found one problem with the value at hand. -/
def fail {α : Type} (problem : FieldProblem) : Checked α := Except.error [⟨[], problem⟩]

/-- Apply a function to a checked value. -/
def map {α β : Type} (f : α → β) : Checked α → Checked β
  | .ok a => .ok (f a)
  | .error faults => .error faults

/-- Look further at what a check accepted. -/
def andThen {α β : Type} (a : Checked α) (next : α → Checked β) : Checked β :=
  match a with
  | .ok a => next a
  | .error faults => .error faults

/-- Combine two checks. When both fail, the faults of the first come first. -/
def both {α β : Type} (f : Checked (α → β)) (a : Checked α) : Checked β :=
  match f, a with
  | .ok f, .ok a => .ok (f a)
  | .ok _, .error faults => .error faults
  | .error faults, .ok _ => .error faults
  | .error faults, .error more => .error (faults ++ more)

instance : Functor Checked where
  map f a := map f a

instance : Pure Checked where
  pure a := ok a

instance : Seq Checked where
  seq f a := both f (a ())

/-- Put a field name in front of the path of every fault. -/
def within {α : Type} (field : String) : Checked α → Checked α
  | .ok a => .ok a
  | .error faults => .error (faults.map fun fault => { fault with path := field :: fault.path })

end Checked

/-! ### Fields

A field is read by a check of its value. -/

/-- The value of a field. -/
def Fields.value? (fields : Fields) (name : String) : Option Value :=
  (fields.find? fun field => field.1 == name).map (·.2)

/-- The fields of a table: its entries with text keys. -/
def Fields.ofEntries (entries : List (Value × Value)) : Fields :=
  entries.filterMap fun entry =>
    match entry.1 with
    | .text name => some (name, entry.2)
    | _ => none

/-- A field that has to be given. -/
def requiredField {α : Type} (fields : Fields) (name : String) (check : Value → Checked α) : Checked α :=
  Checked.within name <|
    match fields.value? name with
    | some v => check v
    | none => Checked.fail .missing

/-- A field with a default. -/
def optionalField {α : Type} (fields : Fields) (name : String) (default : α)
    (check : Value → Checked α) : Checked α :=
  Checked.within name <|
    match fields.value? name with
    | some v => check v
    | none => Checked.ok default

/-! ### Checks of single values -/

/-- The text that octets spell out. -/
def checkUnicode (bytes : List UInt8) : Checked String :=
  match utf8Decode bytes with
  | .ok s => Checked.ok (String.ofList s)
  | .error _ => Checked.fail .notUnicode

/-- A text, or octets that spell one out. -/
def checkText : Value → Checked String
  | .text s => Checked.ok s
  | .octets bytes => checkUnicode bytes
  | .buffer bytes => checkUnicode bytes
  | _ => Checked.fail .notText

/-- A text that is not empty. -/
def checkFilledText (v : Value) : Checked FilledText :=
  (checkText v).andThen fun s => if h : s = "" then Checked.fail .tooShort else Checked.ok ⟨s, h⟩

/-- The text of a server version. -/
def checkVersion (v : Value) : Checked Version :=
  (checkText v).andThen fun s =>
    match Version.parse s with
    | .ok version => Checked.ok version
    | .error e => Checked.fail (.version e)

/-- The numeral of an integer. -/
def checkNumeral (s : List Char) : Checked Int :=
  match Numeral.read s with
  | .ok n => Checked.ok n
  | .error .malformed => Checked.fail .unreadableInteger
  | .error (.tooLong _) => Checked.fail .wideInteger

/-- A number that is to be whole. -/
def checkWhole (x? : Option Exact) : Checked Int :=
  match x? with
  | some (.finite negative coefficient exponent) =>
      match Exact.integer? (.finite negative coefficient exponent) with
      | some n => Checked.ok n
      | none => Checked.fail .fractional
  | _ => Checked.fail .notFinite

/-- An integer. A flag stands for one, so does a numeral, as a text or in octets, and so does a whole
number of another kind. Numerals with a point and nothing but zeros behind it are not modelled. -/
def checkInteger (v : Value) : Checked Int :=
  match v with
  | .integer n => Checked.ok n
  | .flag b => Checked.ok (if b then 1 else 0)
  | .text s => checkNumeral s.toList
  | .octets bytes =>
      match utf8Decode bytes with
      | .ok s => checkNumeral s
      | .error _ => Checked.fail .unreadableInteger
  | .double x =>
      (checkWhole (Exact.ofDouble? x)).andThen fun n =>
        if n.natAbs < Nat.pow 2 63 then Checked.ok n else Checked.fail .wideInteger
  | .decimal x => checkWhole (Exact.ofDecimal? x)
  | _ => Checked.fail .notInteger

/-- A word for a flag, in any case. -/
def checkFlagWord (s : List Char) : Checked Bool :=
  let word := String.ofList (s.map Char.toLower)
  if ["1", "on", "t", "true", "y", "yes"].contains word then Checked.ok true
  else if ["0", "off", "f", "false", "n", "no"].contains word then Checked.ok false
  else Checked.fail .unreadableFlag

/-- A flag. A word stands for one, as a text or in octets, and so do the numbers zero and one. -/
def checkFlag (v : Value) : Checked Bool :=
  match v with
  | .flag b => Checked.ok b
  | .text s => checkFlagWord s.toList
  | .octets bytes =>
      match utf8Decode bytes with
      | .ok s => checkFlagWord s
      | .error _ => Checked.fail .unreadableFlag
  | v =>
      match v.number?.bind Exact.integer? with
      | some 0 => Checked.ok false
      | some 1 => Checked.ok true
      | some _ => Checked.fail .unreadableFlag
      | none => Checked.fail .notFlag

/-- A timestamp. A day stands for its midnight. Timestamps that are written as texts or counted in seconds
are not modelled. -/
def checkMoment : Value → Checked Timestamp
  | .moment t => Checked.ok t
  | .day d => Checked.ok ⟨d, .midnight, none⟩
  | _ => Checked.fail .notMoment

/-- A value or null. -/
def checkOptional {α : Type} (check : Value → Checked α) : Value → Checked (Option α)
  | .null => Checked.ok none
  | v => (check v).map some

end Syscat
