/-
Module: Syscat.Proofs.Row.Integer
Purpose: Which columns read as integers. A text, as it is or as its octets, reads as an integer
  exactly if it is a numeral of that integer with blanks around it; any other text reads as nothing
  and leaves one notice. So the text of an integer is read back, and so is an integer that comes as a
  decimal number or as itself.
Main exports: Decimal.ofInt, Decimal.text_ofInt, Row.integer?_of_read, Row.integer?_of_failed,
  Row.integer?_exact
-/
import Syscat.Proofs.Mapping.Octets
import Syscat.Proofs.Number.Grouped

namespace Syscat

/-! ### Integers as decimal numbers -/

namespace Decimal

/-- An integer as a decimal number. -/
def ofInt (n : Int) : Decimal :=
  .finite (decide (n < 0)) n.natAbs 0

theorem magnitudeText_zero (coefficient : Nat) :
    magnitudeText coefficient 0 = Nat.toDigits 10 coefficient := by
  have positional : (0 : Int) ≤ 0 ∧ (-6 : Int) < 0 + (Nat.toDigits 10 coefficient).length := by omega
  have any := Nat.length_toDigits_pos (b := 10) (n := coefficient)
  -- the point stands behind the last digit
  rw [magnitudeText, toList_toString_nat]
  dsimp only
  rw [if_pos positional, if_pos rfl, if_neg (by omega), if_pos (by omega), Int.zero_add, Int.sub_self,
    Int.toNat_zero, List.replicate_zero, List.append_nil]

/-- An integer is written as a decimal number like as an integer. -/
theorem text_ofInt (n : Int) : (ofInt n).text = toString n := by
  rw [← String.toList_inj, toList_toString, integerSign, ofInt, text, magnitudeText_zero,
    String.toList_ofList]
  by_cases negative : n < 0
  · simp [negative]
  · simp [negative]

end Decimal

/-! ### Columns -/

/-- Whether a value in a column is read by its text where an integer is wanted. -/
def Value.isSpelled : Value → Bool
  | null | flag _ | integer _ => false
  | _ => true

theorem Value.isSpelled_of_isTextual {v : Value} (textual : v.isTextual) : v.isSpelled := by
  cases v with
  | text | octets | buffer => rfl
  | _ => cases textual

/-- A text delivered as it is or as its octets. -/
theorem Value.Redelivered.isTextual {s : String} {v : Value} (given : (Value.text s).Redelivered v) :
    v.isTextual := by
  cases given with
  | same | octets | buffer => rfl

namespace Row

variable {row : Row} {column : String} {s : String}

/-- A value that is read by its text gives the integer that the text is a numeral of. -/
theorem integer?_of_isSpelled (spelled : (row.get column).isSpelled)
    (text : textOf? (row.get column) = some s) : row.integer? column =
      match Numeral.read s.toList with
      | .ok n => pure (some n)
      | .error _ => do
          let literal ← Logged.ofExcept (Failure.printed (row.get column).literal?)
          Logged.note (.nonInteger column literal)
          return none := by
  unfold integer?
  split
  case h_1 null => simp [null, Value.isSpelled] at spelled
  case h_2 b flag => simp [flag, Value.isSpelled] at spelled
  case h_3 m integer => simp [integer, Value.isSpelled] at spelled
  case h_4 =>
    rw [text, Option.map_some]
    cases Numeral.read s.toList <;> rfl

/-- A numeral in a column gives its integer and no notice. -/
theorem integer?_of_read (spelled : (row.get column).isSpelled) (text : textOf? (row.get column) = some s)
    {n : Int} (read : Numeral.read s.toList = .ok n) : row.integer? column = pure (some n) := by
  rw [integer?_of_isSpelled spelled text, read]

/-- Anything else in a column gives nothing and leaves one notice. -/
theorem integer?_of_failed (spelled : (row.get column).isSpelled)
    (text : textOf? (row.get column) = some s) {e : NumeralError}
    (failed : Numeral.read s.toList = .error e) {literal : String}
    (shown : (row.get column).literal? = some literal) :
    row.integer? column = ⟨[.nonInteger column literal], .ok none⟩ := by
  rw [integer?_of_isSpelled spelled text, failed, shown]
  rfl

section
variable (given : (Value.text s).Redelivered (row.get column))
include given

/-- A text or its octets in a column give an integer, and no notice, exactly if the text is a numeral
of it with blanks around. -/
theorem integer?_eq_some_iff (n : Int) :
    row.integer? column = pure (some n) ↔ Numeral.Spells (strip s.toList) n := by
  have spelled := Value.isSpelled_of_isTextual given.isTextual
  obtain ⟨literal, shown⟩ := (Value.spellable_of_isTextual given.isTextual).literal?
  rw [← Numeral.read_eq_ok_iff]
  cases read : Numeral.read s.toList with
  | ok m =>
      rw [integer?_of_read spelled given.textOf?_eq read]
      constructor
      · intro same
        cases same
        rfl
      · intro same
        cases same
        rfl
  | error e =>
      rw [integer?_of_failed spelled given.textOf?_eq read shown]
      exact iff_of_false nofun nofun

/-- Any other text or its octets give nothing and leave one notice. -/
theorem integer?_of_not_spells (other : ∀ n, ¬ Numeral.Spells (strip s.toList) n) :
    ∃ literal, row.integer? column = ⟨[.nonInteger column literal], .ok none⟩ := by
  have spelled := Value.isSpelled_of_isTextual given.isTextual
  obtain ⟨literal, shown⟩ := (Value.spellable_of_isTextual given.isTextual).literal?
  refine ⟨literal, ?_⟩
  cases read : Numeral.read s.toList with
  | ok m => exact absurd (Numeral.read_eq_ok_iff.mp read) (other m)
  | error e => exact integer?_of_failed spelled given.textOf?_eq read shown

end

/-- An integer that is short enough is read back from its text with blanks around, or the octets of
that. -/
theorem integer?_text {n : Int} (short : n.natAbs < Nat.pow 10 digitLimit) {before after : List Char}
    (blank : ∀ c ∈ before ++ after, isBlank c = true)
    (given : (Value.text (String.ofList (before ++ ((toString n).toList ++ after)))).Redelivered
      (row.get column)) : row.integer? column = pure (some n) := by
  rw [integer?_eq_some_iff given, String.toList_ofList, Numeral.strip_text blank]
  exact Numeral.spells_text short

/-- An integer that is short enough is read back from a decimal number. -/
theorem integer?_decimal {n : Int} (short : n.natAbs < Nat.pow 10 digitLimit)
    (here : row.get column = .decimal (Decimal.ofInt n)) : row.integer? column = pure (some n) := by
  have unpadded : strip (toString n).toList = (toString n).toList := by
    have padded : strip ([] ++ ((toString n).toList ++ [])) = (toString n).toList :=
        Numeral.strip_text nofun
    rwa [List.nil_append, List.append_nil] at padded
  apply integer?_of_read (s := toString n)
  · rw [here]
    rfl
  · rw [here, textOf?, ← Decimal.text_ofInt]
    rfl
  · rw [Numeral.read_eq_ok_iff, unpadded]
    exact Numeral.spells_text short

/-- Integers are read exactly. A text in a column, as it is or as its octets, gives an integer and no
notice exactly if it is a numeral of that integer with blanks around, and any other text gives nothing
and leaves one notice. An integer of no more digits than the limit is read back from its text with any
blanks around, from the octets of that and from a decimal number; one that comes as itself is given as
it is, whatever its length. -/
theorem integer?_exact (row : Row) (column : String) :
    (∀ s : String, (Value.text s).Redelivered (row.get column) →
      (∀ n, row.integer? column = pure (some n) ↔ Numeral.Spells (strip s.toList) n) ∧
      ((∀ n, ¬ Numeral.Spells (strip s.toList) n) →
        ∃ literal, row.integer? column = ⟨[.nonInteger column literal], .ok none⟩)) ∧
    (∀ n : Int, n.natAbs < Nat.pow 10 digitLimit →
      (∀ before after : List Char, (∀ c ∈ before ++ after, isBlank c = true) →
        (Value.text (String.ofList (before ++ ((toString n).toList ++ after)))).Redelivered
          (row.get column) →
        row.integer? column = pure (some n)) ∧
      (row.get column = .decimal (Decimal.ofInt n) → row.integer? column = pure (some n))) ∧
    ∀ n : Int, row.get column = .integer n → row.integer? column = pure (some n) := by
  refine ⟨fun s given => ⟨integer?_eq_some_iff given, integer?_of_not_spells given⟩,
    fun n short => ⟨?_, ?_⟩, ?_⟩
  · intro before after blank given
    exact integer?_text short blank given
  · intro here
    exact integer?_decimal short here
  · intro n here
    rw [integer?, here]

/-- A row with a value in its only column. -/
def holding (v : Value) : Row :=
  ⟨[("ROUTINEID", v)]⟩

/-- Octets of a numeral with a zero in front, an underscore and blanks around, a text with two
underscores together, an integer as text and as decimal number, and one as itself that is too long for
either. -/
theorem integer?_exact_holding :
    (holding (.octets (utf8Encode " -0_42\t".toList))).integer? "ROUTINEID" = pure (some (-42)) ∧
    (∃ literal, (holding (.text "1__0")).integer? "ROUTINEID" =
      ⟨[.nonInteger "ROUTINEID" literal], .ok none⟩) ∧
    (holding (.text "\n-42 ")).integer? "ROUTINEID" = pure (some (-42)) ∧
    (holding (.decimal (Decimal.ofInt (-42)))).integer? "ROUTINEID" = pure (some (-42)) ∧
    (holding (.integer Value.leastLong)).integer? "ROUTINEID" = pure (some Value.leastLong) := by
  have short : (-42 : Int).natAbs < Nat.pow 10 digitLimit :=
    lt_of_length_digits_le (by decide) (by decide)
  refine ⟨?_, ?_, ?_, ?_, ?_⟩
  · have stripped : strip " -0_42\t".toList = ['-', '0', '_', '4', '2'] := by decide +kernel
    have grouped : Numeral.Grouped ['0', '_', '4', '2'] [0, 4, 2] :=
      .separated rfl (.adjoined rfl (.single rfl))
    have spelled : Numeral.Spells ['-', '0', '_', '4', '2'] (-42) := .minus grouped (by decide)
    exact (((integer?_exact (holding _) "ROUTINEID").1 " -0_42\t" (.octets _)).1 (-42)).mpr
      (stripped ▸ spelled)
  · have failed : Numeral.read "1__0".toList = .error .malformed := by decide +kernel
    refine ((integer?_exact (holding _) "ROUTINEID").1 "1__0" (.same _)).2 fun n spelled => ?_
    cases failed.symm.trans (Numeral.read_eq_ok_iff.mpr spelled)
  · have letters : String.ofList (['\n'] ++ ((toString (-42 : Int)).toList ++ [' '])) = "\n-42 " := by
      decide +kernel
    have blank : ∀ c ∈ ['\n'] ++ [' '], isBlank c = true :=
      List.all_eq_true.mp (show ['\n', ' '].all isBlank = true by decide +kernel)
    refine ((integer?_exact (holding _) "ROUTINEID").2.1 (-42) short).1 ['\n'] [' '] blank ?_
    rw [letters]
    exact .same _
  · exact ((integer?_exact (holding _) "ROUTINEID").2.1 (-42) short).2 rfl
  · exact (integer?_exact (holding _) "ROUTINEID").2.2 Value.leastLong rfl

end Row

end Syscat
