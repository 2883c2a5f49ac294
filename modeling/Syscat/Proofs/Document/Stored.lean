/-
Module: Syscat.Proofs.Document.Stored
Purpose: Texts that are stored in a file as UTF-8 are read in the format that the end of its path tells.
  Nothing is lost on the way if the text has no carriage return in it.
Main exports: File.stored, File.read_stored
-/
import Syscat.Document.File
import Syscat.Proofs.Results
import Syscat.Proofs.Text.Utf8

namespace Syscat

/-- A text without carriage returns has the same lines in every convention. -/
theorem unifiedLines_eq {s : List Char} (plain : '\r' ∉ s) : unifiedLines s = s := by
  induction s with
  | nil => rfl
  | cons c s ih =>
      obtain ⟨other, rest⟩ : '\r' ≠ c ∧ '\r' ∉ s := by simpa using plain
      rw [unifiedLines.eq_4 _ _ (fun _ same _ => other same.symm) (fun same => other same.symm), ih rest]

namespace DocumentFormat

/-- The end of a file's path that is written for a format. -/
def ending : DocumentFormat → String
  | json => ".json"
  | yaml => ".yaml"
  | toml => ".toml"

theorem ofPath?_ending (format : DocumentFormat) (stem : String) :
    ofPath? (stem ++ format.ending) = some format := by
  cases format <;> simp [ofPath?, suffixes, ending, List.isSuffixOf, List.isPrefixOf]

end DocumentFormat

namespace File

/-- A file that holds a text, named for a format. -/
def stored (stem : String) (format : DocumentFormat) (text : String) : File :=
  ⟨stem ++ format.ending, .octets (utf8Encode text.toList)⟩

/-- What is stored under a path without the zero character is read back as a text of its format. -/
theorem read_stored {stem : String} (legal : '\x00' ∉ stem.toList) (format : DocumentFormat)
    {text : String} (plain : '\r' ∉ text.toList) :
    (stored stem format text).read = format.readText text.toList := by
  have path : (stem ++ format.ending).toList.contains '\x00' = false := by
    cases format <;> simpa [DocumentFormat.ending] using legal
  rw [stored, read, source, path, if_neg Bool.false_ne_true]
  simp only [DocumentFormat.ofPath?_ending, File.text, utf8Decode_utf8Encode,
    unifiedLines_eq plain, map_ok, ok_bind]

end File

end Syscat
