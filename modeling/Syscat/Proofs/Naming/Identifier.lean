/-
Module: Syscat.Proofs.Naming.Identifier
Purpose: The two forms of an identifier in a statement. A name of capital letters, digits and the
  marks that identifiers may have stands as it is, and a line end behind it does as well; any other
  name stands between delimiters, with those in it doubled, from which it can be read back.
Main exports: OrdinaryName, StandsBare, isOrdinaryIdentifier_iff, OnlyDoubled, halved, Delimits,
  quotedIdentifier_forms, not_forall_quotedIdentifier_ordinary
-/
import Syscat.Identifier
import Syscat.Proofs.Text.Part

namespace Syscat

/-! ### Names without delimiters -/

/-- A name that needs no delimiters: a letter from `A` to `Z` or an underscore, and behind it such
characters, digits and three other marks. -/
inductive OrdinaryName : List Char → Prop where
  | intro {c : Char} {rest : List Char} (first : 'A' ≤ c ∧ c ≤ 'Z' ∨ c = '_')
      (others : ∀ d ∈ rest, 'A' ≤ d ∧ d ≤ 'Z' ∨ '0' ≤ d ∧ d ≤ '9' ∨ d ∈ ['_', '$', '#', '@']) :
      OrdinaryName (c :: rest)

/-- A text that stands without delimiters: an ordinary name, with or without a line end behind it. -/
def StandsBare (s : List Char) : Prop :=
  ∃ name, OrdinaryName name ∧ (s = name ∨ s = name ++ ['\n'])

section
variable {c : Char} {s : List Char}

theorem isUpper_iff : c.isUpper = true ↔ 'A' ≤ c ∧ c ≤ 'Z' :=
  decide_eq_true_iff

theorem beginsIdentifier_iff : beginsIdentifier c = true ↔ 'A' ≤ c ∧ c ≤ 'Z' ∨ c = '_' := by
  rw [beginsIdentifier, Bool.or_eq_true, isUpper_iff, beq_iff_eq]

theorem continuesIdentifier_iff : continuesIdentifier c = true ↔
    'A' ≤ c ∧ c ≤ 'Z' ∨ '0' ≤ c ∧ c ≤ '9' ∨ c ∈ ['_', '$', '#', '@'] := by
  have digit : c.isDigit = true ↔ '0' ≤ c ∧ c ≤ '9' := by
    simp [Char.isDigit, Char.le_def]
  simp only [continuesIdentifier, Bool.or_eq_true, beginsIdentifier_iff, digit, beq_iff_eq, List.mem_cons,
    List.not_mem_nil, or_false, or_assoc]
  rw [or_left_comm (a := c = '_')]

theorem isOrdinaryIdentifier_iff : isOrdinaryIdentifier s = true ↔ StandsBare s := by
  constructor
  · intro ordinary
    cases s with
    | nil => cases ordinary
    | cons c rest =>
        obtain ⟨first, others⟩ := Bool.and_eq_true_iff.mp ordinary
        rw [List.all_eq_true] at others
        have name : OrdinaryName (c :: withoutLineEnd rest) :=
          .intro (beginsIdentifier_iff.mp first) fun d inside =>
            continuesIdentifier_iff.mp (others d inside)
        refine ⟨_, name, ?_⟩
        rcases withoutLineEnd_cases rest with same | ended
        · left
          exact congrArg (c :: ·) same
        · right
          exact congrArg (c :: ·) ended
  · rintro ⟨_, @⟨c, rest, first, others⟩, form⟩
    have continued : ∀ d ∈ rest, continuesIdentifier d = true := fun d inside =>
      continuesIdentifier_iff.mpr (others d inside)
    have kept : isOrdinaryIdentifier (c :: rest) = true := by
      have unended : ∀ d ∈ rest.getLast?, d ≠ '\n' := by
        rintro d last rfl
        cases continued _ (List.mem_of_getLast? last)
      rw [isOrdinaryIdentifier, withoutLineEnd_of_ne unended, beginsIdentifier_iff.mpr first]
      exact List.all_eq_true.mpr continued
    rcases form with rfl | rfl
    · exact kept
    · rw [List.cons_append, isOrdinaryIdentifier, withoutLineEnd_concat, beginsIdentifier_iff.mpr first]
      exact List.all_eq_true.mpr continued

/-! ### Names between delimiters -/

/-- Delimiters stand in pairs only. -/
inductive OnlyDoubled : List Char → Prop where
  | nil : OnlyDoubled []
  | pair {s : List Char} (rest : OnlyDoubled s) : OnlyDoubled (delimiter :: delimiter :: s)
  | other {c : Char} {s : List Char} (different : c ≠ delimiter) (rest : OnlyDoubled s) :
      OnlyDoubled (c :: s)

/-- The text with one delimiter for each pair of them. -/
def halved : List Char → List Char
  | c :: d :: rest =>
      if c = delimiter ∧ d = delimiter then delimiter :: halved rest else c :: halved (d :: rest)
  | s => s

/-- A text between delimiters stands for a name: within it there are doubled delimiters only, and with
those halved it is the name. -/
def Delimits (text name : List Char) : Prop :=
  ∃ inner, text = delimiter :: (inner ++ [delimiter]) ∧ OnlyDoubled inner ∧ halved inner = name

theorem doubleDelimiters_delimiter (s : List Char) :
    doubleDelimiters (delimiter :: s) = delimiter :: delimiter :: doubleDelimiters s := rfl

theorem doubleDelimiters_other (different : c ≠ delimiter) (s : List Char) :
    doubleDelimiters (c :: s) = c :: doubleDelimiters s := by
  simp [doubleDelimiters, different]

theorem halved_other (different : c ≠ delimiter) (s : List Char) : halved (c :: s) = c :: halved s := by
  cases s with
  | nil => rfl
  | cons d rest => rw [halved, if_neg fun both => different both.1]

theorem halved_doubleDelimiters (s : List Char) : halved (doubleDelimiters s) = s := by
  induction s with
  | nil => rfl
  | cons c s ih =>
      by_cases same : c = delimiter
      · rw [same, doubleDelimiters_delimiter, halved, if_pos ⟨rfl, rfl⟩, ih]
      · rw [doubleDelimiters_other same, halved_other same, ih]

theorem onlyDoubled_doubleDelimiters (s : List Char) : OnlyDoubled (doubleDelimiters s) := by
  induction s with
  | nil => exact .nil
  | cons c s ih =>
      by_cases same : c = delimiter
      · rw [same, doubleDelimiters_delimiter]
        exact .pair ih
      · rw [doubleDelimiters_other same]
        exact .other same ih

/-- Doubling makes no text shorter. -/
theorem length_le_doubleDelimiters (s : List Char) : s.length ≤ (doubleDelimiters s).length := by
  induction s with
  | nil => exact Nat.le_refl 0
  | cons c s ih =>
      by_cases same : c = delimiter
      · rw [same, doubleDelimiters_delimiter, List.length_cons, List.length_cons, List.length_cons]
        omega
      · rw [doubleDelimiters_other same, List.length_cons, List.length_cons]
        omega

/-! ### The two forms -/

/-- Only what needs no delimiters is left as it is: delimiters make a text longer. -/
theorem quoteIdentifier_eq_self_iff : quoteIdentifier s = s ↔ isOrdinaryIdentifier s = true := by
  constructor
  · intro same
    by_cases ordinary : isOrdinaryIdentifier s = true
    · exact ordinary
    · rw [quoteIdentifier, if_neg ordinary] at same
      have longer := congrArg List.length same
      rw [List.length_cons, List.length_append, List.length_singleton] at longer
      have := length_le_doubleDelimiters s
      omega
  · intro ordinary
    exact if_pos ordinary

theorem delimits_quoteIdentifier (needed : ¬ isOrdinaryIdentifier s = true) :
    Delimits (quoteIdentifier s) s := by
  rw [quoteIdentifier, if_neg needed]
  exact ⟨doubleDelimiters s, rfl, onlyDoubled_doubleDelimiters s, halved_doubleDelimiters s⟩

end

/-- An identifier is the name itself exactly if that is an ordinary name, with or without a line end
behind it. Any other name stands between delimiters, with only doubled ones between them, and is what
is left when those are halved. -/
theorem quotedIdentifier_forms (s : String) :
    (quotedIdentifier s = s ↔ StandsBare s.toList) ∧
      (¬ StandsBare s.toList → Delimits (quotedIdentifier s).toList s.toList) := by
  rw [← isOrdinaryIdentifier_iff]
  constructor
  · rw [← quoteIdentifier_eq_self_iff, ← String.toList_inj, quotedIdentifier, String.toList_ofList]
  · intro needed
    rw [quotedIdentifier, String.toList_ofList]
    exact delimits_quoteIdentifier needed

/-- A name with delimiters in it is read back from its identifier. -/
theorem quotedIdentifier_forms_delimiters :
    ¬ StandsBare "SAY\x22HI\x22".toList ∧
      Delimits (quotedIdentifier "SAY\x22HI\x22").toList "SAY\x22HI\x22".toList := by
  have needed : ¬ StandsBare "SAY\x22HI\x22".toList := by
    rw [← isOrdinaryIdentifier_iff]
    decide
  exact ⟨needed, (quotedIdentifier_forms _).2 needed⟩

/-- A name that ends with a line end stands without delimiters, although it is no ordinary name. -/
theorem not_forall_quotedIdentifier_ordinary :
    ¬ ∀ s : String, quotedIdentifier s = s ↔ OrdinaryName s.toList := by
  intro every
  have same : quotedIdentifier "A\n" = "A\n" := by decide
  have ordinary := (every "A\n").mp same
  have letters : "A\n".toList = ['A', '\n'] := by decide
  rw [letters] at ordinary
  cases ordinary with
  | intro first others =>
      have lineEnd := others '\n' (List.mem_singleton.mpr rfl)
      revert lineEnd
      decide

end Syscat
