/-
Module: Syscat.Proofs.Version.Trailing
Purpose: Zeros behind the numbers of versions. They matter only between versions that are the same but
  for such zeros, of which the one with more numbers counts as the later. Everything else is decided
  by a number that differs, and there a missing number counts as zero.
Main exports: Version.extend, Version.SameButTrailing, Version.atLeast_of_sameButTrailing,
  Capabilities.isAtLeast_extend, Capabilities.not_forall_isAtLeast_extend
-/
import Mathlib.Data.List.GetD
import Syscat.Proofs.Version.Order

namespace Syscat

namespace Version

/-! ### Zeros behind a version -/

theorem isDigit_zero : isDigit '0' = true := by decide

namespace Dotted

/-- The runs with `n` runs behind them that are a single zero each. -/
def extend (d : Dotted) (n : Nat) : Dotted where
  runs := d.runs ++ List.replicate n ['0']
  any := List.append_ne_nil_of_left_ne_nil d.any _
  filled run inside := by
    rcases List.mem_append.mp inside with inside | zero
    · exact d.filled run inside
    · rw [List.eq_of_mem_replicate zero]
      exact List.cons_ne_nil _ _
  digits run inside := by
    rcases List.mem_append.mp inside with inside | zero
    · exact d.digits run inside
    · rw [List.eq_of_mem_replicate zero]
      exact List.forall_mem_singleton.mpr isDigit_zero

/-- The text `.0` as often as there are zeros. -/
def zeros (n : Nat) : List Char :=
  (List.replicate n ['.', '0']).flatten

variable {d : Dotted}

theorem chars_extend (n : Nat) : (d.extend n).chars = d.chars ++ zeros n := by
  obtain ⟨run, rest, runs⟩ := List.exists_cons_of_ne_nil d.any
  have longer : (d.extend n).runs = run :: (rest ++ List.replicate n ['0']) := by
    change d.runs ++ _ = _
    rw [runs, List.cons_append]
  rw [chars, chars, longer, runs, intercalate_cons, intercalate_cons, List.flatMap_append,
    List.flatMap_replicate, List.append_assoc]
  rfl

theorem short_extend (short : d.Short) (n : Nat) : (d.extend n).Short := by
  intro run inside
  rcases List.mem_append.mp inside with inside | zero
  · exact short run inside
  · rw [List.eq_of_mem_replicate zero]
    decide

theorem numbers_extend (n : Nat) : (d.extend n).numbers = d.numbers ++ List.replicate n 0 := by
  have zero : runValue ['0'] = 0 := by decide
  rw [numbers, numbers, extend, List.map_append, List.map_replicate, zero]

/-- Any version is made of runs. -/
theorem exists_spells (v : Version) : ∃ d : Dotted, d.Spells v.text := by
  rcases exists_spells_or_malformed v.text with spelled | malformed
  · exact spelled
  · cases malformed.symm.trans v.denotes

end Dotted

/-- A version with `n` numbers behind it that are zero. They stand behind the last run of its text,
where a line end may have stood. -/
def extend (v : Version) (n : Nat) : Version where
  text := String.ofList (withoutLineEnd v.text.toList ++ Dotted.zeros n)
  numbers := v.numbers ++ List.replicate n 0
  denotes := by
    obtain ⟨d, spelled⟩ := Dotted.exists_spells v
    obtain ⟨short, numbers⟩ := Dotted.numbers_of_spells spelled
    have spelled' : (d.extend n).Spells
        (String.ofList (withoutLineEnd v.text.toList ++ Dotted.zeros n)) := by
      left
      rw [String.toList_ofList, Dotted.chars_extend, Dotted.withoutLineEnd_of_spells spelled]
    rw [Dotted.components_of_spells spelled', mapM_component_of_short (Dotted.short_extend short n),
      numbers, ← Dotted.numbers_extend]
    rfl

/-! ### Missing numbers -/

section
variable {a b : List Nat}

/-- The first numbers that differ decide, also where one of them is missing and counts as zero. -/
theorem numbersAtLeast_of_getD_ne {i : Nat} (differ : a.getD i 0 ≠ b.getD i 0)
    (before : ∀ j < i, a.getD j 0 = b.getD j 0) :
    numbersAtLeast a b = decide (b.getD i 0 < a.getD i 0) := by
  fun_induction numbersAtLeast a b generalizing i with
  | case1 a =>
      rw [List.getD_nil] at differ ⊢
      exact (decide_eq_true (Nat.pos_of_ne_zero differ)).symm
  | case2 b bs =>
      rw [List.getD_nil]
      exact (decide_eq_false (Nat.not_lt_zero _)).symm
  | case3 a as bs ih =>
      cases i with
      | zero => exact absurd rfl differ
      | succ i => exact ih differ fun j earlier => before (j + 1) (Nat.succ_lt_succ earlier)
  | case4 a as b bs other =>
      cases i with
      | zero => rfl
      | succ i => exact absurd (before 0 (Nat.succ_pos i)) other

/-- Of numbers that are the same but for zeros behind them those are at least the others that are no
fewer. -/
theorem numbersAtLeast_of_getD_eq (same : ∀ i, a.getD i 0 = b.getD i 0) :
    numbersAtLeast a b = decide (b.length ≤ a.length) := by
  fun_induction numbersAtLeast a b with
  | case1 a => exact (decide_eq_true (Nat.zero_le _)).symm
  | case2 b bs => exact (decide_eq_false (Nat.not_succ_le_zero _)).symm
  | case3 a as bs ih =>
      rw [ih fun i => same (i + 1), List.length_cons, List.length_cons, decide_eq_decide,
        Nat.succ_le_succ_iff]
  | case4 a as b bs other => exact absurd (same 0) other

/-- Zeros behind numbers are what is missing there. -/
theorem getD_append_zeros (a : List Nat) (n i : Nat) :
    (a ++ List.replicate n 0).getD i 0 = a.getD i 0 := by
  by_cases inside : i < a.length
  · rw [List.getD_append _ _ _ _ inside]
  · have behind : a.length ≤ i := Nat.not_lt.mp inside
    rw [List.getD_append_right _ _ _ _ behind, List.getD_eq_default _ _ behind,
      List.getD_eq_getElem?_getD, List.getElem?_getD_replicate_default_eq]

end

/-- Two versions are the same if missing numbers count as zero. -/
def SameButTrailing (u v : Version) : Prop :=
  ∀ i, u.numbers.getD i 0 = v.numbers.getD i 0

section
variable {u v : Version}

theorem sameButTrailing_extend_iff (m n : Nat) :
    (u.extend m).SameButTrailing (v.extend n) ↔ u.SameButTrailing v := by
  apply forall_congr'
  intro i
  rw [extend, extend, getD_append_zeros, getD_append_zeros]

/-- Of versions that are the same but for zeros behind them the one with more numbers is the later. -/
theorem atLeast_of_sameButTrailing (same : u.SameButTrailing v) :
    u.atLeast v = true ↔ v.numbers.length ≤ u.numbers.length := by
  rw [atLeast, numbersAtLeast_of_getD_eq same, decide_eq_true_iff]

/-- Zeros behind versions do not matter if a number differs. -/
theorem atLeast_extend_of_not_same (differ : ¬ u.SameButTrailing v) (m n : Nat) :
    (u.extend m).atLeast (v.extend n) = u.atLeast v := by
  have somewhere : ∃ i, u.numbers.getD i 0 ≠ v.numbers.getD i 0 := not_forall.mp differ
  let i := Nat.find somewhere
  have here : u.numbers.getD i 0 ≠ v.numbers.getD i 0 := Nat.find_spec somewhere
  have before : ∀ j < i, u.numbers.getD j 0 = v.numbers.getD j 0 := fun j earlier =>
    not_not.mp (Nat.find_min somewhere earlier)
  have padded : numbersAtLeast (u.numbers ++ List.replicate m 0) (v.numbers ++ List.replicate n 0) =
      decide (v.numbers.getD i 0 < u.numbers.getD i 0) := by
    rw [numbersAtLeast_of_getD_ne (i := i)]
    · rw [getD_append_zeros, getD_append_zeros]
    · rwa [getD_append_zeros, getD_append_zeros]
    · intro j earlier
      rw [getD_append_zeros, getD_append_zeros]
      exact before j earlier
  rw [atLeast, atLeast, extend, extend, padded, numbersAtLeast_of_getD_ne here before]

/-- Zeros behind two versions leave which of them has fewer numbers, in case nothing else decides. -/
def OrderKept (u v : Version) (m n : Nat) : Prop :=
  u.SameButTrailing v →
    (v.numbers.length + n ≤ u.numbers.length + m ↔ v.numbers.length ≤ u.numbers.length)

theorem length_extend (v : Version) (n : Nat) :
    (v.extend n).numbers.length = v.numbers.length + n := by
  rw [extend, List.length_append, List.length_replicate]

/-- Zeros behind versions leave their order exactly if they leave which of the two has fewer numbers,
in case nothing else decides. -/
theorem atLeast_extend_eq_iff (m n : Nat) :
    (u.extend m).atLeast (v.extend n) = u.atLeast v ↔ u.OrderKept v m n := by
  by_cases same : u.SameButTrailing v
  · have padded := atLeast_of_sameButTrailing ((sameButTrailing_extend_iff m n).mpr same)
    rw [length_extend, length_extend] at padded
    rw [Bool.eq_iff_iff, padded, atLeast_of_sameButTrailing same]
    constructor
    · intro kept _
      exact kept
    · intro kept
      exact kept same
  · apply iff_of_true
    · exact atLeast_extend_of_not_same same m n
    · intro other
      exact absurd other same

end

end Version

/-! ### What zeros behind versions do to capabilities -/

/-- Thresholds with zeros behind them. -/
def Thresholds.extend (t : Thresholds) (n : Feature → Nat) : Thresholds where
  ownerType := t.ownerType.extend (n .ownerType)
  dialect := t.dialect.extend (n .dialect)
  functionSubtype := t.functionSubtype.extend (n .functionSubtype)

theorem Thresholds.of_extend (t : Thresholds) (n : Feature → Nat) (f : Feature) :
    (t.extend n).of f = (t.of f).extend (n f) := by
  cases f with
  | ownerType => rfl
  | dialect => rfl
  | functionSubtype => rfl

namespace Capabilities

/-- Capabilities with zeros behind the version of the server and behind the thresholds. -/
def extend (c : Capabilities) (m : Nat) (n : Feature → Nat) : Capabilities where
  server := c.server.extend m
  thresholds := c.thresholds.extend n

theorem isAtLeast_text (c : Capabilities) (v : Version) :
    c.isAtLeast (.text v.text) = .ok (c.server.atLeast v) := by
  rw [isAtLeast, Version.ofValue, Version.parse_text]
  rfl

variable {c : Capabilities} {m : Nat} {n : Feature → Nat}

theorem supports_extend_iff (f : Feature) :
    (c.extend m n).supports f = c.supports f ↔ c.server.OrderKept (c.thresholds.of f) m (n f) := by
  rw [supports, supports, extend, Thresholds.of_extend, Version.atLeast_extend_eq_iff]

/-- Servers that provide the same features have the same columns. -/
theorem routineColumns_congr {c c' : Capabilities} (same : ∀ f, c'.supports f = c.supports f) :
    routineColumns c' = routineColumns c := by
  have provided : c'.provides = c.provides := by
    funext column
    rw [provides, provides, funext same]
  rw [routineColumns, routineColumns, provided]

/-- Zeros behind versions leave the answer to the question whether a server has a version, except
between versions that are the same but for such zeros: there a server has a version exactly if it has
no fewer numbers, and the answer is left exactly if the zeros leave which of the two has fewer. A
feature is there as before under the same condition on its threshold, and the columns of the query are
the same if that holds for each threshold. -/
theorem isAtLeast_extend :
    (∀ (u v : Version) (t t' : Thresholds) (m n : Nat),
      (Capabilities.mk (u.extend m) t').isAtLeast (.text (v.extend n).text) =
          (Capabilities.mk u t).isAtLeast (.text v.text) ↔
        u.OrderKept v m n) ∧
    (∀ u v : Version, u.SameButTrailing v →
      (u.atLeast v = true ↔ v.numbers.length ≤ u.numbers.length)) ∧
    ∀ (c : Capabilities) (m : Nat) (n : Feature → Nat),
      (∀ f, (c.extend m n).supports f = c.supports f ↔
        c.server.OrderKept (c.thresholds.of f) m (n f)) ∧
      ((∀ f, c.server.OrderKept (c.thresholds.of f) m (n f)) →
        routineColumns (c.extend m n) = routineColumns c) := by
  refine ⟨fun u v t t' m n => ?_, fun u v same => ?_, fun c m n => ⟨fun f => ?_, fun kept => ?_⟩⟩
  · rw [isAtLeast_text, isAtLeast_text, Except.ok.injEq]
    exact Version.atLeast_extend_eq_iff m n
  · exact Version.atLeast_of_sameButTrailing same
  · exact supports_extend_iff f
  · apply routineColumns_congr
    intro f
    exact (supports_extend_iff f).mpr (kept f)

/-- A server of version 9.7 with the thresholds of the product has the same columns when it reports
9.7.0.0 and the thresholds end with a zero. -/
theorem isAtLeast_extend_standard :
    (Version.v9p7.extend 2).text = "9.7.0.0" ∧ (Version.v9p7.extend 1).text = "9.7.0" ∧
      (∀ f, Version.v9p7.OrderKept (Thresholds.standard.of f) 2 1) ∧
      routineColumns ((Capabilities.mk .v9p7 .standard).extend 2 fun _ => 1) =
        routineColumns ⟨.v9p7, .standard⟩ := by
  have kept : ∀ f, Version.v9p7.OrderKept (Thresholds.standard.of f) 2 1 := by
    intro f _
    -- server and threshold have two numbers each, and the server gets more zeros
    cases f with
    | ownerType => decide
    | dialect => decide
    | functionSubtype => decide
  refine ⟨by decide, by decide, kept, ?_⟩
  exact (isAtLeast_extend.2.2 ⟨.v9p7, .standard⟩ 2 fun _ => 1).2 kept

/-- A server of version 9.7 has version 9.7 and does not have version 9.7.0. -/
theorem not_forall_isAtLeast_extend :
    ¬ ∀ (u v : Version) (t : Thresholds) (m n : Nat),
      (Capabilities.mk (u.extend m) t).isAtLeast (.text (v.extend n).text) =
        (Capabilities.mk u t).isAtLeast (.text v.text) := by
  intro every
  have same := every .v9p7 .v9p7 .standard 0 1
  rw [isAtLeast_text, isAtLeast_text] at same
  have later : Version.v9p7.atLeast .v9p7 = true := rfl
  have earlier : (Version.v9p7.extend 0).atLeast (Version.v9p7.extend 1) = false := rfl
  rw [later, earlier] at same
  cases same

end Capabilities

end Syscat
