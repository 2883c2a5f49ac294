/-
Module: Syscat.Proofs.Text.Sequences
Purpose: Which octets make up a character in UTF-8: one below `0x80`, or a leading octet with the
  octets that complete its sequence, and nothing else. So it can be told from the octets of the
  characters alone, and without the reader, which octets begin no character and where a character
  breaks off.
Main exports: Completes, Interrupted, exists_encodeChar_iff, BeginsNone, BreaksOff, beginsNone_iff,
  breaksOff_cons_iff
-/
import Syscat.Proofs.Text.Utf8

namespace Syscat

/-! ### Octets behind a leading one -/

/-- The octets that complete a sequence: as many as are wanted, the first of them in a range and the
others of the form of a continuation. -/
inductive Completes : UInt8 → UInt8 → Nat → List UInt8 → Prop where
  | done (low high : UInt8) : Completes low high 0 []
  | next {low high b : UInt8} {wanted : Nat} {rest : List UInt8} (above : low ≤ b) (below : b ≤ high)
      (completes : Completes 0x80 0xBF wanted rest) : Completes low high (wanted + 1) (b :: rest)

/-- Octets that begin to complete a sequence and do not go on: some are missing, and what comes after them
begins with none that could be the next. -/
structure Interrupted (low high : UInt8) (wanted : Nat) (octets after : List UInt8) : Prop where
  missing : ∃ missing ≠ [], Completes low high wanted (octets ++ missing)
  ends : ∀ next missing, Completes low high wanted (octets ++ next :: missing) → after.head? ≠ some next

section
variable {low high b : UInt8} {wanted acc : Nat} {octets after : List UInt8}

theorem completes_cons_iff : Completes low high (wanted + 1) (b :: octets) ↔
    (low ≤ b ∧ b ≤ high) ∧ Completes 0x80 0xBF wanted octets := by
  constructor
  · rintro ⟨⟩
    exact ⟨⟨‹_›, ‹_›⟩, ‹_›⟩
  · rintro ⟨⟨above, below⟩, completes⟩
    exact .next above below completes

/-- A sequence can be completed. -/
theorem exists_completes (fits : low ≤ high) (wanted : Nat) :
    ∃ octets, Completes low high wanted octets := by
  induction wanted generalizing low high with
  | zero => exact ⟨[], .done low high⟩
  | succ wanted ih =>
      obtain ⟨octets, completes⟩ := ih (by decide : (0x80 : UInt8) ≤ 0xBF)
      exact ⟨low :: octets, .next (UInt8.le_refl low) fits completes⟩

/-- Behind an octet that completes the sequence the rest is interrupted like the whole. -/
theorem interrupted_cons_iff (inRange : low ≤ b ∧ b ≤ high) :
    Interrupted low high (wanted + 1) (b :: octets) after ↔
      Interrupted 0x80 0xBF wanted octets after := by
  constructor
  · rintro ⟨⟨missing, any, completes⟩, ends⟩
    refine ⟨⟨missing, any, (completes_cons_iff.mp completes).2⟩, fun next missing completes => ?_⟩
    exact ends next missing (completes_cons_iff.mpr ⟨inRange, completes⟩)
  · rintro ⟨⟨missing, any, completes⟩, ends⟩
    refine ⟨⟨missing, any, completes_cons_iff.mpr ⟨inRange, completes⟩⟩, fun next missing completes => ?_⟩
    exact ends next missing (completes_cons_iff.mp completes).2

/-- Octets complete a sequence at their beginning, or they are interrupted. -/
theorem exists_completes_or_interrupted (fits : low ≤ high) (wanted : Nat) (rest : List UInt8) :
    ∃ octets after, rest = octets ++ after ∧
      (Completes low high wanted octets ∨ Interrupted low high wanted octets after) := by
  induction wanted generalizing low high rest with
  | zero => exact ⟨[], rest, rfl, .inl (.done low high)⟩
  | succ wanted ih =>
      obtain ⟨whole, completes⟩ := exists_completes fits (wanted + 1)
      have any : whole ≠ [] := by
        rintro rfl
        cases completes
      cases rest with
      | nil => exact ⟨[], [], rfl, .inr ⟨⟨whole, any, completes⟩, fun _ _ _ => nofun⟩⟩
      | cons b rest =>
          by_cases inRange : low ≤ b ∧ b ≤ high
          · obtain ⟨octets, after, rfl, found⟩ := ih (by decide : (0x80 : UInt8) ≤ 0xBF) rest
            refine ⟨b :: octets, after, rfl, ?_⟩
            rwa [completes_cons_iff, interrupted_cons_iff inRange, and_iff_right inRange]
          -- nothing that completes the sequence goes on with this octet
          · refine ⟨[], b :: rest, rfl,
              .inr ⟨⟨whole, any, completes⟩, fun next missing goesOn same => ?_⟩⟩
            cases same
            exact inRange (completes_cons_iff.mp goesOn).1

/-- Octets that are read as the end of a character complete its sequence. -/
theorem completes_of_sequenceTail {c : Char}
    (read : sequenceTail acc low high wanted octets = (octets.length, .ok c)) :
    Completes low high wanted octets := by
  induction wanted generalizing acc low high octets with
  | zero =>
      rw [sequenceTail, Prod.mk.injEq] at read
      rw [List.eq_nil_of_length_eq_zero read.1.symm]
      exact .done low high
  | succ wanted ih =>
      cases octets with
      | nil => cases read
      | cons b octets =>
          by_cases inRange : low ≤ b ∧ b ≤ high
          · rw [sequenceTail_cons (UInt8.le_iff_toNat_le.mp inRange.1)
              (UInt8.le_iff_toNat_le.mp inRange.2), List.length_cons, Prod.mk.injEq,
              Nat.add_right_cancel_iff] at read
            exact completes_cons_iff.mpr ⟨inRange, ih (Prod.ext read.1 read.2)⟩
          · rw [sequenceTail, if_neg (by simpa using inRange)] at read
            cases read

/-- Interrupted octets are read up to the interruption, and reported. -/
theorem sequenceTail_interrupted (acc : Nat) (interrupted : Interrupted low high wanted octets after) :
    ∃ fault, sequenceTail acc low high wanted (octets ++ after) = (octets.length, .error fault) := by
  induction octets generalizing acc low high wanted with
  | nil =>
      obtain ⟨_, any, completes⟩ := interrupted.missing
      cases completes with
      | done => exact absurd rfl any
      | next _ _ completes =>
          cases after with
          | nil => exact ⟨_, rfl⟩
          | cons b after =>
              have outside : ¬ (low ≤ b ∧ b ≤ high) := fun inRange =>
                interrupted.ends b _ (completes_cons_iff.mpr ⟨inRange, completes⟩) rfl
              exact ⟨_, by rw [List.nil_append, sequenceTail, if_neg (by simpa using outside)]; rfl⟩
  | cons b octets ih =>
      obtain ⟨_, _, completes⟩ := interrupted.missing
      cases completes with
      | next above below =>
          obtain ⟨fault, read⟩ := ih _ ((interrupted_cons_iff ⟨above, below⟩).mp interrupted)
          refine ⟨fault, ?_⟩
          rw [List.cons_append, sequenceTail_cons (UInt8.le_iff_toNat_le.mp above)
            (UInt8.le_iff_toNat_le.mp below), read, List.length_cons]

end

/-! ### The octets of characters

A leading octet and the octets that complete its sequence make up a character, and characters are made
up of nothing else. So whether octets begin a character, or can go on to be one, is a matter of the
leading octet's shape. -/

/-- Sequences are led by the octets from `0xC2` to `0xF4`, and there is a range for the octet behind. -/
theorem bounds_of_mem_sequenceShape? : ∀ n < 256, ∀ shape ∈ sequenceShape? (UInt8.ofNat n),
    (0xC2 ≤ n ∧ n ≤ 0xF4) ∧ shape.2.1 ≤ shape.2.2 := by decide +kernel

/-- An octet is that of its number. -/
theorem exists_octet (b : UInt8) : ∃ n < 256, UInt8.ofNat n = b :=
  ⟨b.toNat, b.toNat_lt, UInt8.ofNat_toNat⟩

/-- An octet in a range behind `0x80` stands for the bits above that. -/
theorem exists_bits {low high b : UInt8} (least most : Nat) (above : low ≤ b) (below : b ≤ high)
    (begins : low.toNat = least + 128) (ends : high.toNat = most + 128) :
    ∃ x, UInt8.ofNat (x + 128) = b ∧ least ≤ x ∧ x ≤ most := by
  rw [UInt8.le_iff_toNat_le] at above below
  refine ⟨b.toNat - 128, ?_, by omega, by omega⟩
  rw [Nat.sub_add_cancel (by omega), UInt8.ofNat_toNat]

/-- A code point is that of a character. -/
theorem exists_char {n : Nat} (valid : n.isValidChar) : ∃ c : Char, c.val.toNat = n :=
  ⟨Char.ofNatAux n valid, rfl⟩

/-- The bits of two octets make up a character if they are no shorter form. -/
theorem exists_encodeChar_two {k x : Nat} (large : 2 ≤ k) (small : k < 32) (bits : x ≤ 63) :
    ∃ c, String.utf8EncodeChar c = [UInt8.ofNat (k + 192), UInt8.ofNat (x + 128)] := by
  have number : (k * 64 + x) / 64 % 32 = k ∧ (k * 64 + x) % 64 = x := by omega
  obtain ⟨c, value⟩ := exists_char (n := k * 64 + x) (.inl (by omega))
  refine ⟨c, ?_⟩
  simp only [String.utf8EncodeChar, value]
  rw [if_neg (by omega), if_pos (by omega), number.1, number.2]

/-- The bits of three octets make up a character if they are no shorter form and no surrogate. -/
theorem exists_encodeChar_three {k x y : Nat} (small : k < 16) (least : (if k = 0 then 32 else 0) ≤ x)
    (most : x ≤ if k = 13 then 31 else 63) (bits : y ≤ 63) :
    ∃ c, String.utf8EncodeChar c = [UInt8.ofNat (k + 224), UInt8.ofNat (x + 128),
      UInt8.ofNat (y + 128)] := by
  have bounds : (k = 0 → 32 ≤ x) ∧ (k = 13 → x ≤ 31) ∧ x ≤ 63 := by
    split at least <;> split at most <;> omega
  have number : ((k * 64 + x) * 64 + y) / 4096 % 16 = k ∧ ((k * 64 + x) * 64 + y) / 64 % 64 = x ∧
      ((k * 64 + x) * 64 + y) % 64 = y := by omega
  obtain ⟨c, value⟩ := exists_char (n := (k * 64 + x) * 64 + y) (by unfold Nat.isValidChar; omega)
  refine ⟨c, ?_⟩
  simp only [String.utf8EncodeChar, value]
  rw [if_neg (by omega), if_neg (by omega), if_pos (by omega), number.1, number.2.1, number.2.2]

/-- The bits of four octets make up a character if they are no shorter form and not above the code
points. -/
theorem exists_encodeChar_four {k x y z : Nat} (small : k < 5) (least : (if k = 0 then 16 else 0) ≤ x)
    (most : x ≤ if k = 4 then 15 else 63) (bits : y ≤ 63) (bits' : z ≤ 63) :
    ∃ c, String.utf8EncodeChar c =
      [UInt8.ofNat (k + 240), UInt8.ofNat (x + 128), UInt8.ofNat (y + 128), UInt8.ofNat (z + 128)] := by
  have bounds : (k = 0 → 16 ≤ x) ∧ (k = 4 → x ≤ 15) ∧ x ≤ 63 := by
    split at least <;> split at most <;> omega
  have number : (((k * 64 + x) * 64 + y) * 64 + z) / 262144 % 8 = k ∧
      (((k * 64 + x) * 64 + y) * 64 + z) / 4096 % 64 = x ∧
        (((k * 64 + x) * 64 + y) * 64 + z) / 64 % 64 = y ∧
      (((k * 64 + x) * 64 + y) * 64 + z) % 64 = z := by omega
  obtain ⟨c, value⟩ :=
    exists_char (n := ((k * 64 + x) * 64 + y) * 64 + z) (by unfold Nat.isValidChar; omega)
  refine ⟨c, ?_⟩
  simp only [String.utf8EncodeChar, value]
  rw [if_neg (by omega), if_neg (by omega), if_neg (by omega), number.1, number.2.1,
    number.2.2.1, number.2.2.2]

/-- A leading octet and the octets that complete its sequence are those of a character. -/
theorem exists_encodeChar_of_completes {lead low high : UInt8} {wanted : Nat} {octets : List UInt8}
    (shape : sequenceShape? lead = some (wanted, low, high))
    (completes : Completes low high wanted octets) :
    ∃ c, String.utf8EncodeChar c = lead :: octets := by
  obtain ⟨n, octet, rfl⟩ := exists_octet lead
  have leading := (bounds_of_mem_sequenceShape? n octet _ shape).1
  -- the leading octet says how many follow
  rcases (by omega : n < 0xE0 ∨ (0xE0 ≤ n ∧ n < 0xF0) ∨ 0xF0 ≤ n) with two | three | four
  · obtain ⟨k, rfl⟩ : ∃ k, n = k + 192 := ⟨n - 192, by omega⟩
    cases (shape_two k (by omega) (by omega)).symm.trans shape
    obtain _ | ⟨above, below, ⟨⟩⟩ := completes
    obtain ⟨x, rfl, _, bits⟩ := exists_bits 0 63 above below rfl rfl
    exact exists_encodeChar_two (by omega) (by omega) bits
  · obtain ⟨k, rfl⟩ : ∃ k, n = k + 224 := ⟨n - 224, by omega⟩
    cases (shape_three k (by omega)).symm.trans shape
    obtain _ | ⟨above, below, _ | ⟨above', below', ⟨⟩⟩⟩ := completes
    obtain ⟨x, rfl, least, most⟩ := exists_bits (if k = 0 then 32 else 0) (if k = 13 then 31 else 63)
      above below (by split <;> rfl) (by split <;> rfl)
    obtain ⟨y, rfl, _, bits⟩ := exists_bits 0 63 above' below' rfl rfl
    exact exists_encodeChar_three (by omega) least most bits
  · obtain ⟨k, rfl⟩ : ∃ k, n = k + 240 := ⟨n - 240, by omega⟩
    cases (shape_four k (by omega)).symm.trans shape
    obtain _ | ⟨above, below, _ | ⟨above', below', _ | ⟨above'', below'', ⟨⟩⟩⟩⟩ := completes
    obtain ⟨x, rfl, least, most⟩ := exists_bits (if k = 0 then 16 else 0) (if k = 4 then 15 else 63)
      above below (by split <;> rfl) (by split <;> rfl)
    obtain ⟨y, rfl, _, bits⟩ := exists_bits 0 63 above' below' rfl rfl
    obtain ⟨z, rfl, _, bits'⟩ := exists_bits 0 63 above'' below'' rfl rfl
    exact exists_encodeChar_four (by omega) least most bits bits'

/-- The first octet behind a leading one can be chosen. -/
theorem range_of_shape {lead low high : UInt8} {wanted : Nat}
    (shape : sequenceShape? lead = some (wanted, low, high)) : low ≤ high := by
  obtain ⟨n, octet, rfl⟩ := exists_octet lead
  exact (bounds_of_mem_sequenceShape? n octet _ shape).2

/-- The octets of a character are one below `0x80`, or a leading octet with the octets that complete
its sequence. -/
theorem exists_encodeChar_iff {lead : UInt8} {octets : List UInt8} :
    (∃ c, String.utf8EncodeChar c = lead :: octets) ↔ lead < 0x80 ∧ octets = [] ∨
      ∃ wanted low high, sequenceShape? lead = some (wanted, low, high) ∧
        Completes low high wanted octets := by
  constructor
  · rintro ⟨c, encoded⟩
    obtain ⟨_, _, parts, unit⟩ := utf8Unit_encodeChar c
    cases parts.symm.trans encoded
    have read := unit []
    rw [List.append_nil, utf8Unit] at read
    split at read
    case isTrue ascii =>
      exact .inl ⟨ascii, List.eq_nil_of_length_eq_zero (Prod.mk.inj read).1.symm⟩
    case isFalse =>
      split at read
      case h_1 => cases (Prod.mk.inj read).2
      case h_2 wanted low high shape =>
        exact .inr ⟨wanted, low, high, shape, completes_of_sequenceTail read⟩
  · rintro (⟨ascii, rfl⟩ | ⟨wanted, low, high, shape, completes⟩)
    · rw [UInt8.lt_iff_toNat_lt] at ascii
      have small : lead.toNat < 128 := ascii
      obtain ⟨c, value⟩ := exists_char (n := lead.toNat) (.inl (by omega))
      refine ⟨c, ?_⟩
      simp only [String.utf8EncodeChar, value]
      rw [if_pos (by omega), UInt8.ofNat_toNat]
    · exact exists_encodeChar_of_completes shape completes

/-- No character begins with the octet. -/
def BeginsNone (b : UInt8) : Prop :=
  ∀ c octets, String.utf8EncodeChar c ≠ b :: octets

/-- Octets break off in front of others: they begin a character without being one, and no character
goes on with the octet that follows them. -/
structure BreaksOff (begun after : List UInt8) : Prop where
  any : begun ≠ []
  begins : ∃ c, ∃ missing ≠ [], String.utf8EncodeChar c = begun ++ missing
  ends : ∀ c next missing, String.utf8EncodeChar c = begun ++ next :: missing → after.head? ≠ some next

/-- No character begins with an octet from `0x80` on that leads no sequence. -/
theorem beginsNone_iff_shape {b : UInt8} : BeginsNone b ↔ ¬ b < 0x80 ∧ sequenceShape? b = none := by
  constructor
  · intro beginsNone
    refine ⟨fun ascii => ?_, Option.eq_none_iff_forall_ne_some.mpr fun (wanted, low, high) shape => ?_⟩
    · obtain ⟨c, encoded⟩ := exists_encodeChar_iff.mpr (.inl ⟨ascii, rfl⟩)
      exact beginsNone c [] encoded
    · obtain ⟨octets, completes⟩ := exists_completes (range_of_shape shape) wanted
      obtain ⟨c, encoded⟩ := exists_encodeChar_of_completes shape completes
      exact beginsNone c octets encoded
  · rintro ⟨wide, leadsNone⟩ c octets encoded
    rcases exists_encodeChar_iff.mp ⟨c, encoded⟩ with ⟨ascii, _⟩ | ⟨_, _, _, shape, _⟩
    · exact wide ascii
    · cases leadsNone.symm.trans shape

/-- The octets from `0x80` on that lead no sequence. -/
theorem leadsNone_iff : ∀ n < 256, ¬ UInt8.ofNat n < 0x80 ∧ sequenceShape? (UInt8.ofNat n) = none ↔
    0x80 ≤ UInt8.ofNat n ∧ UInt8.ofNat n ≤ 0xC1 ∨ 0xF5 ≤ UInt8.ofNat n := by decide +kernel

/-- The octets that begin no character. -/
theorem beginsNone_iff {b : UInt8} : BeginsNone b ↔ 0x80 ≤ b ∧ b ≤ 0xC1 ∨ 0xF5 ≤ b := by
  obtain ⟨n, octet, rfl⟩ := exists_octet b
  exact beginsNone_iff_shape.trans (leadsNone_iff n octet)

instance (b : UInt8) : Decidable (BeginsNone b) :=
  decidable_of_iff _ beginsNone_iff.symm

/-- Octets behind a leading one break off exactly if its sequence is interrupted. -/
theorem breaksOff_cons_iff {lead : UInt8} {octets after : List UInt8} : BreaksOff (lead :: octets) after ↔
    ∃ wanted low high, sequenceShape? lead = some (wanted, low, high) ∧
      Interrupted low high wanted octets after := by
  constructor
  · rintro ⟨_, ⟨c, missing, any, encoded⟩, ends⟩
    rcases exists_encodeChar_iff.mp ⟨c, encoded⟩ with ⟨_, alone⟩ | ⟨wanted, low, high, shape, completes⟩
    -- of a character of one octet nothing can be missing
    · exact absurd (List.append_eq_nil_iff.mp alone).2 any
    · refine ⟨wanted, low, high, shape, ⟨missing, any, completes⟩, fun next missing completes => ?_⟩
      obtain ⟨c, encoded⟩ := exists_encodeChar_of_completes shape completes
      exact ends c next missing encoded
  · rintro ⟨wanted, low, high, shape, ⟨missing, any, completes⟩, ends⟩
    obtain ⟨c, encoded⟩ := exists_encodeChar_of_completes shape completes
    refine ⟨List.cons_ne_nil _ _, ⟨c, missing, any, encoded⟩, fun c next missing encoded => ?_⟩
    rcases exists_encodeChar_iff.mp ⟨c, encoded⟩ with ⟨_, alone⟩ | ⟨_, _, _, shape', completes⟩
    · cases (List.append_eq_nil_iff.mp alone).2
    · cases shape.symm.trans shape'
      exact ends next missing completes

end Syscat
