/-
Module: Syscat.Document.ReadFailure
Purpose: Why a file cannot be read as a value. A text that is not well-formed in its format is told apart
  from a well-formed one with a part that denotes no value.
Main exports: ReadFailure, ReadFailure.message, ReadFailure.expected
-/
import Syscat.Document.Format
import Syscat.Text.Utf8
import Syscat.Time.Fault

namespace Syscat

/-- Why a file cannot be read as a value. -/
inductive ReadFailure where
  /-- The path has the zero character in it, as no path may. -/
  | badPath
  | absent (path : String)
  | directory (path : String)
  | unknownFormat
  | encoding (e : Utf8Error)
  | malformed (format : DocumentFormat)
  /-- A numeral has more digits than integers are read from. -/
  | longNumeral (digits : Nat)
  | badNumeral (base : Nat) (text : String)
  | badDecimal (text : String)
  | calendar (fault : CalendarFault)
  /-- A timestamp is a day or more off universal time. -/
  | wideOffset (micros : Int)
  /-- An escape spells a number that is no code point. -/
  | codePoint (number : Nat)
  /-- An integer is beyond the floating-point numbers that it is to be one of. -/
  | wideInteger
  | unknownFlag (word : String)
  | badTimestamp
  /-- A mapping stands where the text of a timestamp is looked for. -/
  | noText
  /-- Something is looked for behind the end of a text or a list. -/
  | pastEnd (sequence : String)
  /-- A part is looked up in a value that has no parts. -/
  | noParts (holder : Value)
  /-- A member is looked for in a value that has no members. -/
  | noMembers (holder : Value)
  /-- A name is looked up in a sequence. -/
  | nameInSequence (holder : Value)
  /-- A part is to be put into a text. -/
  | fixedText
  /-- A table is to be put behind a value that is no list. -/
  | notAppendable
  /-- A text over several lines has an empty name. -/
  | unnamedText
deriving Repr

namespace ReadFailure

instance : Inhabited ReadFailure := ⟨.unknownFormat⟩

/-- The message of a failure. That the text is not well-formed needs no further words. -/
def message : ReadFailure → String
  | badPath => "embedded null byte"
  | absent path => "[Errno 2] No such file or directory: " ++ quotedText path
  | directory path => "[Errno 21] Is a directory: " ++ quotedText path
  | unknownFormat => "Unsupported config file format. Use JSON, YAML, or TOML."
  | encoding e => e.message
  | malformed _ => ""
  | longNumeral digits =>
      "Exceeds the limit (" ++ toString digitLimit ++ " digits) for integer string conversion: value has "
        ++ toString digits ++ " digits; use sys.set_int_max_str_digits() to increase the limit"
  | badNumeral base text =>
      "invalid literal for int() with base " ++ toString base ++ ": " ++ quotedText text
  | badDecimal text => "could not convert string to float: " ++ quotedText text
  | calendar fault => fault.message
  | wideOffset micros =>
      "offset must be a timedelta strictly between -timedelta(hours=24) and timedelta(hours=24), not "
        ++ durationLiteral micros ++ "."
  | codePoint number =>
      if number < 0x80000000 then "chr() arg not in range(0x110000)"
      else "Python int too large to convert to C int"
  | wideInteger => "int too large to convert to float"
  | unknownFlag word => quotedText word
  | badTimestamp => "\x27NoneType\x27 object has no attribute \x27groupdict\x27"
  | noText => "expected string or bytes-like object, got \x27list\x27"
  | pastEnd sequence => sequence ++ " index out of range"
  | noParts holder => "\x27" ++ holder.qualifiedTypeName ++ "\x27 object is not subscriptable"
  | noMembers holder => "argument of type \x27" ++ holder.qualifiedTypeName ++ "\x27 is not iterable"
  | nameInSequence holder =>
      match holder with
      | .text _ => "string indices must be integers, not \x27str\x27"
      | _ => "list indices must be integers or slices, not str"
  | fixedText => "\x27str\x27 object does not support item assignment"
  | notAppendable => "You can only load a file descriptor, filename or list"
  | unnamedText => "cannot access local variable \x27value\x27 where it is not associated with a value"

/-- Failures that a reader of settings expects: the file is not there, is not well-formed or denotes no
value. The others show a gap in the reading of a format. -/
def expected : ReadFailure → Bool
  | codePoint number => number < 0x80000000
  | wideInteger => false
  | unknownFlag _ => false
  | badTimestamp => false
  | noText => false
  | pastEnd _ => false
  | noParts _ => false
  | noMembers _ => false
  | nameInSequence _ => false
  | fixedText => false
  | notAppendable => false
  | unnamedText => false
  | _ => true

end ReadFailure

end Syscat
