/-
Module: Syscat.Text.Blank
Purpose: Blank characters and the removal of blanks around a text. Blanks are the Unicode white space
  characters together with the four information separators U+001C to U+001F.
Main exports: isBlank, strip, stripped
-/
import Syscat.Text.CharSet

namespace Syscat

/-- The blank characters. -/
def CharSet.blank : CharSet := ⟨[
    9, 14, 28, 33, 133, 134, 160, 161, 5760, 5761, 8192, 8203, 8232, 8234, 8239, 8240, 8287, 8288,
    12288, 12289]⟩

/-- A character is blank when it is white space or an information separator. -/
def isBlank (c : Char) : Bool :=
  CharSet.blank.contains c

/-- The characters with the blanks before the first and after the last other character removed. -/
def strip (s : List Char) : List Char :=
  ((s.dropWhile isBlank).reverse.dropWhile isBlank).reverse

/-- The text with the blanks around it removed. -/
def stripped (s : String) : String :=
  String.ofList (strip s.toList)

end Syscat
