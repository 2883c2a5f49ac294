/-
Module: Syscat.Proofs.Version.Order
Purpose: The order of versions and what it decides. The first numbers that differ decide, so leading
  zeros do not count, and a server provides whatever a server of an earlier version does.
Main exports: Version.numbersAtLeast_eq_false_iff, Version.Ordered, Version.SameUpToZeros,
  Capabilities.grow
-/
import Mathlib.Data.List.Forall2
import Mathlib.Data.List.Lex
import Syscat.Proofs.Version.Dotted
import Syscat.Query

namespace Syscat

namespace Version

/-! ### The order of numbers -/

/-- Numbers are not at least as great as others when they come before them in the lexicographic order. -/
theorem numbersAtLeast_eq_false_iff (a b : List Nat) :
    numbersAtLeast a b = false ↔ List.Lex (· < ·) a b := by
  fun_induction numbersAtLeast a b with
  | case1 a => simp
  | case2 b bs => simp
  | case3 a as bs ih => rw [ih, List.lex_cons_iff]
  | case4 a as b bs other =>
      rw [decide_eq_false_iff_not, List.cons_lex_cons_iff]
      constructor
      · intro notBelow
        exact .inl (Nat.lt_of_le_of_ne (Nat.not_lt.mp notBelow) other)
      · rintro (below | ⟨same, _⟩)
        · exact Nat.lt_asymm below
        · exact absurd same other

theorem atLeast_eq_true_iff {u v : Version} :
    u.atLeast v = true ↔ ¬ List.Lex (· < ·) u.numbers v.numbers := by
  rw [atLeast, ← numbersAtLeast_eq_false_iff, Bool.not_eq_false]

/-- Where the first numbers differ, they decide. -/
theorem numbersAtLeast_of_ne {a b : List Nat} {i m n : Nat} (left : a[i]? = some m)
    (right : b[i]? = some n) (differ : m ≠ n) (before : ∀ j < i, a[j]? = b[j]?) :
    numbersAtLeast a b = decide (n < m) := by
  induction i generalizing a b with
  | zero =>
      cases a with
      | nil => cases left
      | cons x as =>
          cases b with
          | nil => cases right
          | cons y bs =>
              obtain rfl := Option.some.inj left
              obtain rfl := Option.some.inj right
              rw [numbersAtLeast, if_neg differ]
  | succ i ih =>
      cases a with
      | nil => cases left
      | cons x as =>
          cases b with
          | nil => cases right
          | cons y bs =>
              obtain rfl : x = y := Option.some.inj (before 0 (Nat.succ_pos i))
              rw [numbersAtLeast, if_pos rfl]
              exact ih left right fun j earlier => before (j + 1) (Nat.succ_lt_succ earlier)

/-! ### Leading zeros -/

/-- The digit zero of some script. -/
def isZero (c : Char) : Bool :=
  digitValue? c == some 0

/-- Leading zeros do not change the number that a run stands for. -/
theorem runValue_dropWhile_isZero (run : List Char) : runValue (run.dropWhile isZero) = runValue run := by
  induction run with
  | nil => rfl
  | cons c rest ih =>
      by_cases zero : isZero c = true
      · have value : digitValue? c = some 0 := eq_of_beq zero
        rw [List.dropWhile_cons, if_pos zero, ih, ← ofDigits_filterMap, ← ofDigits_filterMap,
          List.filterMap_cons, value]
        rfl
      · rw [List.dropWhile_cons, if_neg zero]

/-- Two runs are the same but for leading zeros. -/
def EqualUpToZeros (run run' : List Char) : Prop :=
  run.dropWhile isZero = run'.dropWhile isZero

theorem map_runValue_of_equalUpToZeros {runs runs' : List (List Char)}
    (same : List.Forall₂ EqualUpToZeros runs runs') : runs.map runValue = runs'.map runValue := by
  induction same with
  | nil => rfl
  | @cons run run' _ _ first _ ih =>
      have value : runValue run = runValue run' := by
        rw [← runValue_dropWhile_isZero run, first, runValue_dropWhile_isZero]
      rw [List.map_cons, List.map_cons, value, ih]

/-- Two versions are made of the same runs but for leading zeros. -/
def SameUpToZeros (u u' : Version) : Prop :=
  ∃ d d' : Dotted, d.Spells u.text ∧ d'.Spells u'.text ∧ List.Forall₂ EqualUpToZeros d.runs d'.runs

theorem SameUpToZeros.numbers {u u' : Version} (same : u.SameUpToZeros u') : u.numbers = u'.numbers := by
  obtain ⟨d, d', spelled, spelled', runs⟩ := same
  rw [(Dotted.numbers_of_spells spelled).2, (Dotted.numbers_of_spells spelled').2]
  exact map_runValue_of_equalUpToZeros runs

/-! ### The order of versions -/

/-- The versions are in order, each two of them one way at least, and the first numbers that differ
decide. Leading zeros do not count. -/
structure Ordered (isAtLeast : Version → Version → Bool) : Prop where
  refl : ∀ v, isAtLeast v v = true
  trans : ∀ u v w, isAtLeast u v = true → isAtLeast v w = true → isAtLeast u w = true
  total : ∀ u v, isAtLeast u v = true ∨ isAtLeast v u = true
  decided : ∀ (u v : Version) (i m n : Nat), u.numbers[i]? = some m → v.numbers[i]? = some n → m ≠ n →
    (∀ j < i, u.numbers[j]? = v.numbers[j]?) → (isAtLeast u v = true ↔ n < m)
  zeros : ∀ u u' : Version, u.SameUpToZeros u' →
    ∀ w, isAtLeast u' w = isAtLeast u w ∧ isAtLeast w u' = isAtLeast w u

theorem atLeast_trans {u v w : Version} (first : u.atLeast v = true) (second : v.atLeast w = true) :
    u.atLeast w = true := by
  rw [atLeast_eq_true_iff] at first second ⊢
  exact IsOrderConnected.neg_trans first second

theorem ordered_atLeast : Ordered atLeast where
  refl v := atLeast_eq_true_iff.mpr (irrefl v.numbers)
  trans _ _ _ := atLeast_trans
  total u v := by
    rw [atLeast_eq_true_iff, atLeast_eq_true_iff, ← not_and_or]
    rintro ⟨before, behind⟩
    exact asymm before behind
  decided u v i m n left right differ before := by
    rw [atLeast, numbersAtLeast_of_ne left right differ before, decide_eq_true_iff]
  zeros u u' same w := by
    rw [atLeast, atLeast, atLeast, atLeast, same.numbers]
    exact ⟨rfl, rfl⟩

end Version

/-! ### What later versions provide -/

section
variable {u v : Version} (later : u.atLeast v = true) (t : Thresholds)
include later

/-- A feature that a server provides is there on every later one. -/
theorem Capabilities.supports_of_atLeast (f : Feature)
    (supported : (Capabilities.mk v t).supports f = true) : (Capabilities.mk u t).supports f = true :=
  Version.atLeast_trans later supported

theorem Capabilities.provides_of_atLeast (column : String)
    (provided : (Capabilities.mk v t).provides column = true) :
    (Capabilities.mk u t).provides column = true := by
  unfold Capabilities.provides at provided ⊢
  cases needed : Feature.ofColumn? column with
  | none => rfl
  | some f =>
      rw [needed] at provided
      exact Capabilities.supports_of_atLeast later t f provided

/-- The columns that a server provides stand in the same order among those of every later one. -/
theorem routineColumns_sublist : (routineColumns ⟨v, t⟩).Sublist (routineColumns ⟨u, t⟩) :=
  List.monotone_filter_right _ (Capabilities.provides_of_atLeast later t)

end

/-- The question whether a server has a version is answered by the order of versions, which is total.
A server of a later version provides every feature that one of an earlier version does, and its query
selects the columns that the other's does, in the same order, with more among them. -/
theorem Capabilities.grow :
    Version.Ordered Version.atLeast ∧
    (∀ (c : Capabilities) (v : Version), c.isAtLeast (.text v.text) = .ok (c.server.atLeast v)) ∧
    ∀ (t : Thresholds) (u v : Version), u.atLeast v = true →
      (∀ f, (Capabilities.mk v t).supports f = true → (Capabilities.mk u t).supports f = true) ∧
      (routineColumns ⟨v, t⟩).Sublist (routineColumns ⟨u, t⟩) := by
  refine ⟨Version.ordered_atLeast, fun c v => ?_, fun t u v later => ⟨fun f => ?_, ?_⟩⟩
  · rw [Capabilities.isAtLeast, Version.ofValue, Version.parse_text]
    rfl
  · exact Capabilities.supports_of_atLeast later t f
  · exact routineColumns_sublist later t

/-- A version with leading zeros. -/
def Version.v010p1 : Version := ⟨"010.1", [10, 1], rfl⟩

/-- Version 10.1 is later than version 9.7, although its text comes first. Its server provides all
that the other does. -/
theorem Capabilities.grow_tenAndNine :
    Version.v010p1.atLeast .v9p7 = true ∧ Version.v9p7.atLeast .v010p1 = false ∧
      (Capabilities.mk .v010p1 .standard).supports .dialect = true ∧
      (routineColumns ⟨.v9p7, .standard⟩).Sublist (routineColumns ⟨.v010p1, .standard⟩) := by
  obtain ⟨ordered, _, grown⟩ := Capabilities.grow
  have nine : Version.v9p7.atLeast .v010p1 = false := rfl
  have ten : Version.v010p1.atLeast .v9p7 = true :=
    (ordered.decided .v010p1 .v9p7 0 10 9 rfl rfl (by decide) nofun).mpr (by decide)
  obtain ⟨features, columns⟩ := grown .standard .v010p1 .v9p7 ten
  exact ⟨ten, nine, features .dialect rfl, columns⟩

end Syscat
