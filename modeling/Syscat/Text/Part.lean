/-
Module: Syscat.Text.Part
Purpose: The parts of a text between separators, the text without a line end behind it, and whether a
  text occurs in another.
Main exports: splitOn, withoutLineEnd, occursIn
-/

namespace Syscat

/-- The parts of a text between the occurrences of a separator. -/
def splitOn (separator : Char) : List Char → List (List Char)
  | [] => [[]]
  | c :: rest =>
      if c == separator then [] :: splitOn separator rest
      else
        match splitOn separator rest with
        | [] => [[c]]
        | part :: parts => (c :: part) :: parts

/-- The text without the single line end that may stand behind it. -/
def withoutLineEnd (s : List Char) : List Char :=
  if s.getLast? == some '\n' then s.dropLast else s

/-- Whether a part occurs somewhere in a text. -/
def occursIn (part : List Char) : List Char → Bool
  | [] => part.isEmpty
  | c :: rest => part.isPrefixOf (c :: rest) || occursIn part rest

end Syscat
