/-
Module: Syscat.Proofs.Number.Grouped
Purpose: Which texts are integer numerals and which integers they are the numerals of: an optional
  sign and decimal digits of any script, with at most single underscores between them, and no more
  digits than the limit.
Main exports: Numeral.Grouped, Numeral.digits?_iff, Numeral.Spells, Numeral.read_eq_ok_iff,
  Numeral.spells_text
-/
import Mathlib.Data.Nat.Digits.Defs
import Syscat.Proofs.Number.Based
import Syscat.Proofs.Results

namespace Syscat

namespace Numeral

/-! ### Digits with underscores between them -/

/-- Decimal digits with at most single underscores between them, and the values of the digits. -/
inductive Grouped : List Char → List Nat → Prop where
  | single {c : Char} {d : Nat} (digit : digitValue? c = some d) : Grouped [c] [d]
  | adjoined {c : Char} {d : Nat} {s : List Char} {ds : List Nat} (digit : digitValue? c = some d)
      (rest : Grouped s ds) : Grouped (c :: s) (d :: ds)
  | separated {c : Char} {d : Nat} {s : List Char} {ds : List Nat} (digit : digitValue? c = some d)
      (rest : Grouped s ds) : Grouped (c :: '_' :: s) (d :: ds)

/-- What can stand behind a digit, and the values of the digits in it. -/
inductive Behind : List Char → List Nat → Prop where
  | nothing : Behind [] []
  | digits {s : List Char} {ds : List Nat} (rest : Grouped s ds) : Behind s ds
  | underscore {s : List Char} {ds : List Nat} (rest : Grouped s ds) : Behind ('_' :: s) ds

section
variable {c : Char} {s : List Char} {ds : List Nat}

theorem grouped_cons_iff : Grouped (c :: s) ds ↔
    ∃ d ds', digitValue? c = some d ∧ Behind s ds' ∧ ds = d :: ds' := by
  constructor
  · intro grouped
    cases grouped with
    | single digit => exact ⟨_, _, digit, .nothing, rfl⟩
    | adjoined digit rest => exact ⟨_, _, digit, .digits rest, rfl⟩
    | separated digit rest => exact ⟨_, _, digit, .underscore rest, rfl⟩
  · rintro ⟨d, ds', digit, behind, rfl⟩
    cases behind with
    | nothing => exact .single digit
    | digits rest => exact .adjoined digit rest
    | underscore rest => exact .separated digit rest

/-- Only a digit stands in front of digits. -/
theorem not_grouped (other : digitValue? c = none) : ¬ Grouped (c :: s) ds := by
  rw [grouped_cons_iff]
  rintro ⟨d, ds', digit, -⟩
  cases other.symm.trans digit

theorem digitValue?_underscore : digitValue? '_' = none := by decide

theorem behind_underscore_iff : Behind ('_' :: s) ds ↔ Grouped s ds := by
  constructor
  · intro behind
    cases behind with
    | digits rest => exact absurd rest (not_grouped digitValue?_underscore)
    | underscore rest => exact rest
  · exact .underscore

theorem behind_cons_iff (other : c ≠ '_') : Behind (c :: s) ds ↔ Grouped (c :: s) ds := by
  constructor
  · intro behind
    cases behind with
    | digits rest => exact rest
    | underscore => exact absurd rfl other
  · exact .digits

end

/-- The reader of digits accepts what can stand where it is: digits at the beginning and behind an
underscore, and behind a digit whatever may follow one. The induction is on the text; both cases go on
with either. -/
theorem digits?_iff (s : List Char) (ds : List Nat) :
    (digits? true s = some ds ↔ Grouped s ds) ∧ (digits? false s = some ds ↔ Behind s ds) := by
  induction s generalizing ds with
  | nil =>
      constructor
      · constructor
        · nofun
        · nofun
      · constructor
        · rintro ⟨⟩
          exact .nothing
        · intro behind
          cases behind with
          | nothing => rfl
          | digits rest => cases rest
  | cons c s ih =>
      by_cases underscore : c = '_'
      · subst underscore
        constructor
        · exact iff_of_false nofun (not_grouped digitValue?_underscore)
        · rw [behind_underscore_iff]
          exact (ih ds).1
      · have next (fresh : Bool) : digits? fresh (c :: s) = some ds ↔ Grouped (c :: s) ds := by
          rw [grouped_cons_iff, digits?, if_neg (by simpa using underscore)]
          cases digit : digitValue? c with
          | none => simp
          | some d => simp [(ih _).2, eq_comm]
        exact ⟨next true, (next false).trans (behind_cons_iff underscore).symm⟩

/-! ### Numerals -/

/-- The number that the values of digits stand for, the first being the most significant. -/
def value (ds : List Nat) : Nat :=
  Nat.ofDigits 10 ds.reverse

/-- Reading digits one by one gives the number that they stand for. -/
theorem ofDigits_eq_value (ds : List Nat) : ofDigits ds = value ds := by
  rw [value, Nat.ofDigits_eq_foldr, List.foldr_reverse, ofDigits]
  congr 1
  funext n d
  rw [Nat.cast_id, Nat.add_comm, Nat.mul_comm]

/-- The numerals of an integer: its digits, no more of them than can be read, with an optional sign in
front. -/
inductive Spells : List Char → Int → Prop where
  | unsigned {s : List Char} {ds : List Nat} (grouped : Grouped s ds) (few : ds.length ≤ digitLimit) :
      Spells s (value ds)
  | plus {s : List Char} {ds : List Nat} (grouped : Grouped s ds) (few : ds.length ≤ digitLimit) :
      Spells ('+' :: s) (value ds)
  | minus {s : List Char} {ds : List Nat} (grouped : Grouped s ds) (few : ds.length ≤ digitLimit) :
      Spells ('-' :: s) (-(value ds : Int))

section
variable {s : List Char}

theorem readNat_eq_ok_iff {n : Nat} :
    readNat s = .ok n ↔ ∃ ds, Grouped s ds ∧ ds.length ≤ digitLimit ∧ n = value ds := by
  rw [readNat]
  constructor
  · intro read
    split at read
    case h_1 => cases read
    case h_2 ds found =>
      split at read
      case isTrue => cases read
      case isFalse few =>
        cases read
        exact ⟨ds, (digits?_iff s ds).1.mp found, Nat.not_lt.mp few, ofDigits_eq_value ds⟩
  · rintro ⟨ds, grouped, few, rfl⟩
    rw [(digits?_iff s ds).1.mpr grouped]
    dsimp only
    rw [if_neg (Nat.not_lt.mpr few), ofDigits_eq_value]

/-- A numeral is read as the integer that it is a numeral of, and nothing else is read. -/
theorem readSigned_eq_ok_iff {n : Int} : readSigned s = .ok n ↔ Spells s n := by
  constructor
  · intro read
    unfold readSigned at read
    split at read
    case h_1 s =>
      obtain ⟨m, widened, rfl⟩ := exists_of_map_eq_ok read
      obtain ⟨k, unsigned, same⟩ := exists_of_bind_eq_ok widened
      obtain ⟨ds, grouped, few, rfl⟩ := readNat_eq_ok_iff.mp unsigned
      cases same
      exact .minus grouped few
    case h_2 s =>
      obtain ⟨m, unsigned, rfl⟩ := exists_of_map_eq_ok read
      obtain ⟨ds, grouped, few, rfl⟩ := readNat_eq_ok_iff.mp unsigned
      exact .plus grouped few
    case h_3 =>
      obtain ⟨m, unsigned, rfl⟩ := exists_of_map_eq_ok read
      obtain ⟨ds, grouped, few, rfl⟩ := readNat_eq_ok_iff.mp unsigned
      exact .unsigned grouped few
  · intro spelled
    cases spelled with
    | @unsigned s ds grouped few =>
        have read : readNat s = .ok (value ds) := readNat_eq_ok_iff.mpr ⟨ds, grouped, few, rfl⟩
        unfold readSigned
        -- digits do not begin with a sign
        split
        case h_1 => exact absurd grouped (not_grouped (by decide))
        case h_2 => exact absurd grouped (not_grouped (by decide))
        case h_3 => rw [read, map_ok, Int.ofNat_eq_natCast]
    | @plus s ds grouped few =>
        rw [readSigned, readNat_eq_ok_iff.mpr ⟨ds, grouped, few, rfl⟩]
        rfl
    | @minus s ds grouped few =>
        rw [readSigned, readNat_eq_ok_iff.mpr ⟨ds, grouped, few, rfl⟩]
        rfl

theorem read_eq_ok_iff {n : Int} : read s = .ok n ↔ Spells (strip s) n :=
  readSigned_eq_ok_iff

end

/-! ### The text of an integer -/

theorem grouped_toDigits (n : Nat) :
    ∃ ds, Grouped (Nat.toDigits 10 n) ds ∧ ds.length = (Nat.toDigits 10 n).length ∧ value ds = n := by
  have found : digits? true (Nat.toDigits 10 n) = some ((Nat.toDigits 10 n).map fun c => c.toNat - 48) :=
    digits?_of_isDigit (fun c => isDigit_of_mem_digits) fun _ => Nat.toDigits_ne_nil
  refine ⟨_, (digits?_iff _ _).1.mp found, List.length_map _, ?_⟩
  rw [← ofDigits_eq_value, ofDigits_toDigits]

/-- The text of an integer that is short enough is one of its numerals. -/
theorem spells_text {n : Int} (short : n.natAbs < Nat.pow 10 digitLimit) :
    Spells (toString n).toList n := by
  obtain ⟨ds, grouped, length, number⟩ := grouped_toDigits n.natAbs
  have few : ds.length ≤ digitLimit := by
    rw [length]
    exact length_digits_le (by decide) short
  rw [toList_toString, integerSign]
  by_cases negative : n < 0
  · have spelled := Spells.minus grouped few
    have same : -(n.natAbs : Int) = n := by omega
    rw [number, same] at spelled
    rwa [if_pos negative]
  · have spelled := Spells.unsigned grouped few
    have same : (n.natAbs : Int) = n := by omega
    rw [number, same] at spelled
    rwa [if_neg negative]

/-- The text of an integer holds no blank. -/
theorem visible_text {n : Int} {c : Char} (inside : c ∈ (toString n).toList) : isBlank c = false := by
  rw [toList_toString, integerSign] at inside
  rcases List.mem_append.mp inside with sign | digit
  · split at sign
    case isTrue =>
      rw [List.mem_singleton.mp sign]
      decide +kernel
    case isFalse => cases sign
  · exact isBlank_of_isDigit (isDigit_of_mem_digits digit)

/-- Blanks around the text of an integer do not count. -/
theorem strip_text {n : Int} {before after : List Char}
    (blank : ∀ c ∈ before ++ after, isBlank c = true) :
    strip (before ++ ((toString n).toList ++ after)) = (toString n).toList := by
  apply strip_surrounded
  · exact fun c inside => blank c (List.mem_append_left _ inside)
  · exact fun c inside => blank c (List.mem_append_right _ inside)
  · rw [toList_toString]
    exact List.append_ne_nil_of_right_ne_nil _ Nat.toDigits_ne_nil
  · exact fun c first => visible_text (List.mem_of_mem_head? first)
  · exact fun c last => visible_text (List.mem_of_getLast? last)

end Numeral

end Syscat
