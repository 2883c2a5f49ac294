/-
Module: Syscat.Yaml.Content
Purpose: The values that scalars stand for by their tags.
Main exports: scalarContent
-/
import Syscat.Number.Based
import Syscat.Text.Base64
import Syscat.Yaml.Cursor
import Syscat.Yaml.Tag

namespace Syscat.Yaml

/-- A numeral, or the failure to read one. -/
def numeral (base : Nat) (s : List Char) : Except ReadFailure Int :=
  match Based.read base s with
  | .ok n => .ok n
  | .error .malformed => .error (.badNumeral base (String.ofList s))
  | .error (.tooLong digits) => .error (.longNumeral digits)

/-- A number in decimal notation, or the failure to read one. -/
def decimal (s : List Char) : Except ReadFailure Double :=
  match Double.read? s with
  | some x => .ok x
  | none => .error (.badDecimal (String.ofList s))

/-- Whether a sign stands in front and makes a number negative, and the text behind it. A text has to be
there. -/
def takeSign (s : List Char) : Except ReadFailure (Bool × List Char) :=
  match s with
  | [] => .error (.pastEnd "string")
  | '-' :: rest => .ok (true, rest)
  | '+' :: rest => .ok (false, rest)
  | s => .ok (false, s)

/-- An unsigned integer: binary, hexadecimal, octal, in base sixty or decimal. -/
def magnitude (s : List Char) : Except ReadFailure Int :=
  match s with
  | [] => .error (.pastEnd "string")
  | ['0'] => .ok 0
  | '0' :: 'b' :: digits => numeral 2 digits
  | '0' :: 'x' :: digits => numeral 16 digits
  | '0' :: _ => numeral 8 s
  | s =>
      if s.contains ':' then
        (splitOn ':' s).foldlM (fun n part => do return n * 60 + (← numeral 10 part)) 0
      else numeral 10 s

/-- An integer. -/
def integerContent (s : List Char) : Except ReadFailure Value := do
  let (negative, rest) ← takeSign (s.filter (· != '_'))
  let n ← magnitude rest
  return .integer (if negative then -n else n)

/-- The sum of groups in base sixty, the last group first. The weight of each has to be a floating-point
number. -/
def sixtiethSum (weight : Nat) (sum : Double) : List Double → Except ReadFailure Double
  | [] => .ok sum
  | x :: rest =>
      match Double.ofInt weight with
      | .infinite _ => .error .wideInteger
      | w => sixtiethSum (weight * 60) (Double.add sum (Double.mul x w)) rest

/-- A floating-point number, decimal or in base sixty, or a word for one that is not finite. -/
def floatContent (s : List Char) : Except ReadFailure Value := do
  let (negative, rest) ← takeSign ((s.filter (· != '_')).map Char.toLower)
  if rest == ".nan".toList then return .double .nan
  else
    let x ←
      if rest == ".inf".toList then pure (Double.infinite false)
      else if rest.contains ':' then do
        let parts ← (splitOn ':' rest).mapM decimal
        sixtiethSum 1 (Double.zero false) parts.reverse
      else decimal rest
    return .double (Double.mul (Double.ofInt (if negative then -1 else 1)) x)

/-- A truth value. -/
def flagContent (s : List Char) : Except ReadFailure Value :=
  let word := String.ofList (s.map Char.toLower)
  if trueWords.contains word then .ok (.flag true)
  else if falseWords.contains word then .ok (.flag false)
  else .error (.unknownFlag word)

/-- The number with certain digits. -/
def digitsNat (digits : List Char) : Nat :=
  Numeral.ofDigits (digits.map fun c => c.toNat - 48)

/-- The offset of a zone, which is less than a day. -/
def zoneOffset (zone : Option (Bool × List Char × List Char)) : Except ReadFailure Offset :=
  match zone with
  | none => .ok Offset.zero
  | some (negative, hours, minutes) =>
      let size : Int := ((digitsNat hours * 60 + digitsNat minutes) * 60000000 : Nat)
      let micros := if negative then -size else size
      match Offset.ofMicros? micros with
      | some offset => .ok offset
      | none => .error (.wideOffset micros)

/-- A date or a timestamp. Of the digits behind the point six count. -/
def timestampContent (s : List Char) : Except ReadFailure Value :=
  match timestampDigits? (withoutLineEnd s) with
  | none => .error .badTimestamp
  | some parts =>
      let date :=
        (Date.check (digitsNat parts.year) (digitsNat parts.month) (digitsNat parts.day)).mapError
          ReadFailure.calendar
      match parts.time with
      | none => date.map Value.day
      | some (hour, minute, second, fraction) => do
          let offset ← parts.zone.mapM zoneOffset
          let date ← date
          let digits := fraction.take 6
          let micro := digitsNat digits * Nat.pow 10 (6 - digits.length)
          let clock ← (Clock.check (digitsNat hour) (digitsNat minute) (digitsNat second) micro).mapError
            ReadFailure.calendar
          return .moment ⟨date, clock, offset⟩

/-- Octets in base 64. -/
def binaryContent (s : List Char) : Except ReadFailure Value :=
  if s.all fun c => c.toNat < 128 then
    match base64Decode? s with
    | some bytes => .ok (.octets bytes)
    | none => illFormed
  else illFormed

/-- The value of a scalar. Tags without a meaning for scalars are refused. -/
def scalarContent (tag : Tag) (s : List Char) : Except ReadFailure Value :=
  match tag with
  | .null => .ok .null
  | .flag => flagContent s
  | .integer => integerContent s
  | .float => floatContent s
  | .timestamp => timestampContent s
  | .text => .ok (.text (String.ofList s))
  | .binary => binaryContent s
  | _ => illFormed

end Syscat.Yaml
