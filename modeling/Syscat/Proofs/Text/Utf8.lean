/-
Module: Syscat.Proofs.Text.Utf8
Purpose: Reading of UTF-8 gives back what was written. The octets of a character form one unit for the
  reader, whatever stands behind them, so a text is read back character by character.
Main exports: utf8Unit_encodeChar, utf8DecodeLossy_append, utf8DecodeLossy_utf8Encode,
  utf8Decode_utf8Encode
-/
import Syscat.Text.Utf8

namespace Syscat

/-! ### The octets of a sequence -/

/-- An octet in the range goes into the value, and the reader goes on with any continuation. -/
theorem sequenceTail_cons {acc wanted : Nat} {low high b : UInt8} {rest : List UInt8}
    (above : low.toNat ≤ b.toNat) (below : b.toNat ≤ high.toNat) :
    sequenceTail acc low high (wanted + 1) (b :: rest) =
      ((sequenceTail (acc * 64 + (b.toNat - 0x80)) 0x80 0xBF wanted rest).1 + 1,
        (sequenceTail (acc * 64 + (b.toNat - 0x80)) 0x80 0xBF wanted rest).2) := by
  have inRange : (decide (low ≤ b) && decide (b ≤ high)) = true := by
    simp [UInt8.le_iff_toNat_le, above, below]
  simp only [sequenceTail, inRange, if_true]

/-- The value of an octet that is written as a number. -/
theorem toNat_octet {n : Nat} (small : n < 256) : (UInt8.ofNat n).toNat = n := by
  simp only [UInt8.toNat_ofNat']
  omega

/-- The last six bits of a number as an octet that continues a sequence. -/
theorem toNat_continuation (n : Nat) : (UInt8.ofNat (n % 64 + 128)).toNat = n % 64 + 128 :=
  toNat_octet (by omega)

/-- Octets that continue a sequence are read six bits each. -/
theorem sequenceTail_continuation (acc wanted n : Nat) (rest : List UInt8) :
    sequenceTail acc 0x80 0xBF (wanted + 1) (UInt8.ofNat (n % 64 + 128) :: rest) =
      ((sequenceTail (acc * 64 + n % 64) 0x80 0xBF wanted rest).1 + 1,
        (sequenceTail (acc * 64 + n % 64) 0x80 0xBF wanted rest).2) := by
  have value := toNat_continuation n
  rw [sequenceTail_cons (by rw [value]; exact Nat.le_add_left _ _) (by rw [value]; show _ ≤ 191; omega),
    value, Nat.add_sub_cancel]

/-- Below the first leading octet of a sequence each octet is a character of its own. -/
theorem utf8Unit_ascii {n : Nat} (small : n < 0x80) (rest : List UInt8) :
    utf8Unit (UInt8.ofNat n) rest = (0, .ok (Char.ofNat n)) := by
  have value := toNat_octet (n := n) (by omega)
  have ascii : UInt8.ofNat n < 0x80 := by
    rw [UInt8.lt_iff_toNat_lt, value]
    exact small
  simp only [utf8Unit, ascii, if_true, value]

/-- A leading octet is read together with the octets that its shape asks for. -/
theorem utf8Unit_lead {n wanted : Nat} {low high : UInt8} (small : n < 256) (large : 0x80 ≤ n)
    (shape : sequenceShape? (UInt8.ofNat n) = some (wanted, low, high)) (rest : List UInt8) :
    utf8Unit (UInt8.ofNat n) rest =
      sequenceTail (leadBits (UInt8.ofNat n)) low high wanted rest := by
  have value := toNat_octet small
  have lead : ¬ UInt8.ofNat n < 0x80 := by
    rw [UInt8.lt_iff_toNat_lt, value]
    show ¬ n < 128
    omega
  simp only [utf8Unit, lead, if_false, shape]

/-! ### Characters

The leading octet of a character says how many octets follow. Its own bits narrow the range of the first
of them where a shorter form, a surrogate or a number above the code points would begin. -/

theorem shape_two : ∀ k < 32, 2 ≤ k →
    sequenceShape? (UInt8.ofNat (k + 192)) = some (1, 0x80, 0xBF) := by decide

theorem shape_three : ∀ k < 16, sequenceShape? (UInt8.ofNat (k + 224)) =
    some (2, if k = 0 then 0xA0 else 0x80, if k = 13 then 0x9F else 0xBF) := by decide

theorem shape_four : ∀ k < 5, sequenceShape? (UInt8.ofNat (k + 240)) =
    some (3, if k = 0 then 0x90 else 0x80, if k = 4 then 0x8F else 0xBF) := by decide

theorem leadBits_two : ∀ k < 32, leadBits (UInt8.ofNat (k + 192)) = k := by decide

theorem leadBits_three : ∀ k < 16, leadBits (UInt8.ofNat (k + 224)) = k := by decide

theorem leadBits_four : ∀ k < 8, leadBits (UInt8.ofNat (k + 240)) = k := by decide

/-- A code point is no surrogate and at most U+10FFFF. -/
theorem codePoint_bounds (c : Char) : c.toNat < 0xD800 ∨ 0xDFFF < c.toNat ∧ c.toNat < 0x110000 :=
  c.valid

theorem utf8Unit_two (n : Nat) (large : 0x80 ≤ n) (small : n < 0x800) (rest : List UInt8) :
    utf8Unit (UInt8.ofNat (n / 64 % 32 + 192)) (UInt8.ofNat (n % 64 + 128) :: rest) =
      (1, .ok (Char.ofNat n)) := by
  have bits : n / 64 % 32 < 32 := by omega
  rw [utf8Unit_lead (by omega) (by omega) (shape_two _ bits (by omega)), leadBits_two _ bits,
    sequenceTail_continuation, sequenceTail]
  have value : n / 64 % 32 * 64 + n % 64 = n := by omega
  rw [value]

theorem utf8Unit_three (n : Nat) (large : 0x800 ≤ n) (small : n < 0x10000)
    (valid : n < 0xD800 ∨ 0xDFFF < n) (rest : List UInt8) :
    utf8Unit (UInt8.ofNat (n / 4096 % 16 + 224))
      (UInt8.ofNat (n / 64 % 64 + 128) :: UInt8.ofNat (n % 64 + 128) :: rest) =
      (2, .ok (Char.ofNat n)) := by
  have bits : n / 4096 % 16 < 16 := by omega
  have second := toNat_continuation (n / 64)
  rw [utf8Unit_lead (by omega) (by omega) (shape_three _ bits), leadBits_three _ bits,
    sequenceTail_cons, second, Nat.add_sub_cancel, sequenceTail_continuation, sequenceTail]
  · have value : (n / 4096 % 16 * 64 + n / 64 % 64) * 64 + n % 64 = n := by omega
    rw [value]
  · rw [second]
    split
    · show 160 ≤ _
      omega
    · show 128 ≤ _
      omega
  · rw [second]
    split
    · show _ ≤ 159
      omega
    · show _ ≤ 191
      omega

theorem utf8Unit_four (n : Nat) (large : 0x10000 ≤ n) (small : n < 0x110000) (rest : List UInt8) :
    utf8Unit (UInt8.ofNat (n / 262144 % 8 + 240))
      (UInt8.ofNat (n / 4096 % 64 + 128) :: UInt8.ofNat (n / 64 % 64 + 128) ::
        UInt8.ofNat (n % 64 + 128) :: rest) =
      (3, .ok (Char.ofNat n)) := by
  have bits : n / 262144 % 8 < 5 := by omega
  have second := toNat_continuation (n / 4096)
  rw [utf8Unit_lead (by omega) (by omega) (shape_four _ bits), leadBits_four _ (by omega),
    sequenceTail_cons, second, Nat.add_sub_cancel, sequenceTail_continuation,
    sequenceTail_continuation, sequenceTail]
  · have value : ((n / 262144 % 8 * 64 + n / 4096 % 64) * 64 + n / 64 % 64) * 64 + n % 64 = n := by
      omega
    rw [value]
  · rw [second]
    split
    · show 144 ≤ _
      omega
    · show 128 ≤ _
      omega
  · rw [second]
    split
    · show _ ≤ 143
      omega
    · show _ ≤ 191
      omega

/-- The octets of a character are read as that character, whatever stands behind them. -/
theorem utf8Unit_encodeChar (c : Char) : ∃ lead tail, String.utf8EncodeChar c = lead :: tail ∧
    ∀ rest, utf8Unit lead (tail ++ rest) = (tail.length, .ok c) := by
  have valid : c.val.toNat < 0xD800 ∨ 0xDFFF < c.val.toNat ∧ c.val.toNat < 0x110000 :=
    codePoint_bounds c
  have same : Char.ofNat c.val.toNat = c := Char.ofNat_toNat c
  simp only [String.utf8EncodeChar]
  split
  case isTrue ascii =>
    refine ⟨_, _, rfl, fun rest => ?_⟩
    exact (utf8Unit_ascii (Nat.lt_succ_of_le ascii) rest).trans (by rw [same]; rfl)
  case isFalse wide =>
    split
    case isTrue two =>
      refine ⟨_, _, rfl, fun rest => ?_⟩
      exact (utf8Unit_two _ (by omega) (by omega) rest).trans (by rw [same]; rfl)
    case isFalse wider =>
      split
      case isTrue three =>
        refine ⟨_, _, rfl, fun rest => ?_⟩
        exact (utf8Unit_three _ (by omega) (by omega) (by omega) rest).trans (by rw [same]; rfl)
      case isFalse widest =>
        refine ⟨_, _, rfl, fun rest => ?_⟩
        exact (utf8Unit_four _ (by omega) (by omega) rest).trans (by rw [same]; rfl)

/-! ### Texts -/

/-- A character in front is read first. -/
theorem utf8DecodeLossy_cons (c : Char) (rest : List UInt8) :
    utf8DecodeLossy (String.utf8EncodeChar c ++ rest) = c :: utf8DecodeLossy rest := by
  obtain ⟨lead, tail, octets, unit⟩ := utf8Unit_encodeChar c
  rw [octets, List.cons_append, utf8DecodeLossy]
  simp only [unit rest]
  rw [List.drop_left]

/-- A text in front is read first. -/
theorem utf8DecodeLossy_append (s : List Char) (rest : List UInt8) :
    utf8DecodeLossy (utf8Encode s ++ rest) = s ++ utf8DecodeLossy rest := by
  induction s with
  | nil => rfl
  | cons c s ih =>
      rw [utf8Encode, List.flatMap_cons, List.append_assoc, utf8DecodeLossy_cons]
      exact congrArg (c :: ·) ih

/-- A text is read back from its octets. -/
theorem utf8DecodeLossy_utf8Encode (s : List Char) : utf8DecodeLossy (utf8Encode s) = s := by
  have read := utf8DecodeLossy_append s []
  rwa [List.append_nil, utf8DecodeLossy, List.append_nil] at read

/-- A text is read back strictly, wherever its octets stand. -/
theorem utf8DecodeFrom_utf8Encode (position : Nat) (s : List Char) :
    utf8DecodeFrom position (utf8Encode s) = .ok s := by
  induction s generalizing position with
  | nil => rw [utf8Encode, List.flatMap_nil, utf8DecodeFrom]
  | cons c s ih =>
      obtain ⟨lead, tail, octets, unit⟩ := utf8Unit_encodeChar c
      have later := ih (position + tail.length + 1)
      rw [utf8Encode] at later
      rw [utf8Encode, List.flatMap_cons, octets, List.cons_append, utf8DecodeFrom]
      simp only [unit]
      rw [List.drop_left, later]
      rfl

/-- A text is read back strictly from its octets. -/
theorem utf8Decode_utf8Encode (s : List Char) : utf8Decode (utf8Encode s) = .ok s :=
  utf8DecodeFrom_utf8Encode 0 s

end Syscat
