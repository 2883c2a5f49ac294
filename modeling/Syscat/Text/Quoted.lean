/-
Module: Syscat.Text.Quoted
Purpose: The quoted form of a text and of a sequence of octets, as it stands in messages. Every
  character that would not show is written as an escape, so that the quoted form is one line.
Main exports: quoted, quotedText, quotedOctets, quotedBuffer
-/
import Syscat.Text.Hex
import Syscat.Text.Printable

namespace Syscat

/-- The quotation mark around a text: a single one, unless the text holds single ones and no double. -/
def quoteMark (s : List Char) : Char :=
  if s.contains '\x27' && !s.contains '\x22' then '\x22' else '\x27'

/-- An escape that spells a code point with as few hexadecimal digits as its size class needs. -/
def codePointEscape (n : Nat) : List Char :=
  if n < 0x100 then '\\' :: 'x' :: hexText 2 n
  else if n < 0x10000 then '\\' :: 'u' :: hexText 4 n
  else '\\' :: 'U' :: hexText 8 n

/-- One character inside quotation marks `mark`. -/
def quotedChar (mark c : Char) : List Char :=
  if c == mark || c == '\\' then ['\\', c]
  else if c == '\n' then ['\\', 'n']
  else if c == '\r' then ['\\', 'r']
  else if c == '\t' then ['\\', 't']
  else if isPrintable c then [c]
  else codePointEscape c.toNat

/-- The quoted form of a sequence of characters. -/
def quoted (s : List Char) : List Char :=
  let mark := quoteMark s
  mark :: (s.flatMap (quotedChar mark) ++ [mark])

/-- The quoted form of a text. -/
def quotedText (s : String) : String :=
  String.ofList (quoted s.toList)

/-- One octet: octets outside the visible ASCII range are escaped, and so are the backslash and the
character `special`. -/
def quotedOctet (special : Char) (b : UInt8) : List Char :=
  let c := Char.ofNat b.toNat
  if c == special || c == '\\' then ['\\', c]
  else if c == '\n' then ['\\', 'n']
  else if c == '\r' then ['\\', 'r']
  else if c == '\t' then ['\\', 't']
  else if 32 ≤ b.toNat ∧ b.toNat < 127 then [c]
  else '\\' :: 'x' :: hexText 2 b.toNat

/-- The quotation mark around a sequence of octets. -/
def octetMark (bytes : List UInt8) : Char :=
  quoteMark (bytes.map fun b => Char.ofNat b.toNat)

/-- The quoted form of a sequence of octets, without the letter that marks it as octets. -/
def quotedOctets (bytes : List UInt8) : List Char :=
  octetMark bytes :: (bytes.flatMap (quotedOctet (octetMark bytes)) ++ [octetMark bytes])

/-- The quoted form of a buffer of octets. The single quotation mark is always escaped in it. -/
def quotedBuffer (bytes : List UInt8) : List Char :=
  octetMark bytes :: (bytes.flatMap (quotedOctet '\x27') ++ [octetMark bytes])

end Syscat
