/-
Module: Syscat.Text.Utf8
Purpose: Reading of UTF-8. An ill-formed stretch is the longest start of a well-formed sequence that
  cannot be continued, or a single octet that begins none. The lossy reader puts one replacement
  character for each stretch; the strict reader reports the first one.
Main exports: utf8Encode, utf8DecodeLossy, utf8Decode, Utf8Fault, Utf8Error
-/
import Syscat.Text.Hex

namespace Syscat

/-- Why a stretch of octets is ill-formed. -/
inductive Utf8Fault where
  /-- The octet begins no sequence. -/
  | start
  /-- An octet that does not continue the sequence begun stands in its way. -/
  | continuation
  /-- The octets end inside a sequence. -/
  | truncated
deriving DecidableEq, Repr, Inhabited

/-- The first ill-formed stretch of a sequence of octets: where it begins and what it holds. -/
structure Utf8Error where
  position : Nat
  stretch : List UInt8
  fault : Utf8Fault
deriving DecidableEq, Repr, Inhabited

/-- The octets of a sequence of characters. -/
def utf8Encode (s : List Char) : List UInt8 :=
  s.flatMap String.utf8EncodeChar

/-- How many octets follow a leading octet, and the range of the first of them. The ranges leave out
overlong forms, surrogates and code points above U+10FFFF. -/
def sequenceShape? (lead : UInt8) : Option (Nat × UInt8 × UInt8) :=
  if 0xC2 ≤ lead && lead ≤ 0xDF then some (1, 0x80, 0xBF)
  else if lead == 0xE0 then some (2, 0xA0, 0xBF)
  else if lead == 0xED then some (2, 0x80, 0x9F)
  else if 0xE1 ≤ lead && lead ≤ 0xEF then some (2, 0x80, 0xBF)
  else if lead == 0xF0 then some (3, 0x90, 0xBF)
  else if 0xF1 ≤ lead && lead ≤ 0xF3 then some (3, 0x80, 0xBF)
  else if lead == 0xF4 then some (3, 0x80, 0x8F)
  else none

/-- Read `wanted` further octets of a sequence whose value so far is `acc`, the next of them between
`low` and `high`. The answer is the number of octets read and the character or the fault. -/
def sequenceTail (acc : Nat) (low high : UInt8) : Nat → List UInt8 → Nat × Except Utf8Fault Char
  | 0, _ => (0, .ok (Char.ofNat acc))
  | _ + 1, [] => (0, .error .truncated)
  | wanted + 1, b :: rest =>
      if low ≤ b && b ≤ high then
        let (read, outcome) := sequenceTail (acc * 64 + (b.toNat - 0x80)) 0x80 0xBF wanted rest
        (read + 1, outcome)
      else (0, .error .continuation)

/-- The bits that a leading octet contributes to the code point. -/
def leadBits (lead : UInt8) : Nat :=
  if lead < 0xE0 then lead.toNat - 0xC0
  else if lead < 0xF0 then lead.toNat - 0xE0
  else lead.toNat - 0xF0

/-- Read one character or one ill-formed stretch that begins with `lead`: how many octets of `rest`
it takes, and the character or the fault. -/
def utf8Unit (lead : UInt8) (rest : List UInt8) : Nat × Except Utf8Fault Char :=
  if lead < 0x80 then (0, .ok (Char.ofNat lead.toNat))
  else
    match sequenceShape? lead with
    | none => (0, .error .start)
    | some (wanted, low, high) => sequenceTail (leadBits lead) low high wanted rest

/-- The character that stands for an ill-formed stretch. -/
def replacementChar : Char := '\ufffd'

/-- The characters of a sequence of octets, with the replacement character for each ill-formed
stretch. -/
def utf8DecodeLossy : List UInt8 → List Char
  | [] => []
  | lead :: rest =>
      match utf8Unit lead rest with
      | (read, .ok c) => c :: utf8DecodeLossy (rest.drop read)
      | (read, .error _) => replacementChar :: utf8DecodeLossy (rest.drop read)
termination_by bytes => bytes.length
decreasing_by all_goals (rw [List.length_drop, List.length_cons]; omega)

/-- The characters of a sequence of octets whose first stands at `position`, or its first ill-formed
stretch. -/
def utf8DecodeFrom (position : Nat) : List UInt8 → Except Utf8Error (List Char)
  | [] => .ok []
  | lead :: rest =>
      match utf8Unit lead rest with
      | (read, .ok c) => do
          return c :: (← utf8DecodeFrom (position + read + 1) (rest.drop read))
      | (read, .error fault) => .error ⟨position, lead :: rest.take read, fault⟩
termination_by bytes => bytes.length
decreasing_by rw [List.length_drop, List.length_cons]; omega

/-- The characters of a sequence of octets, or its first ill-formed stretch. -/
def utf8Decode (bytes : List UInt8) : Except Utf8Error (List Char) :=
  utf8DecodeFrom 0 bytes

namespace Utf8Fault

/-- What is wrong with the stretch. -/
def message : Utf8Fault → String
  | start => "invalid start byte"
  | continuation => "invalid continuation byte"
  | truncated => "unexpected end of data"

end Utf8Fault

namespace Utf8Error

/-- The report of an ill-formed stretch: a lone octet is shown, a longer stretch is located. -/
def message (e : Utf8Error) : String :=
  let what :=
    match e.stretch with
    | [b] => "byte 0x" ++ String.ofList (hexText 2 b.toNat) ++ " in position " ++ toString e.position
    | stretch => "bytes in position " ++ toString e.position ++ "-"
        ++ toString (e.position + stretch.length - 1)
  "\x27utf-8\x27 codec can\x27t decode " ++ what ++ ": " ++ e.fault.message

end Utf8Error

end Syscat
