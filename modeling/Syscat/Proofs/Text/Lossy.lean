/-
Module: Syscat.Proofs.Text.Lossy
Purpose: What octets read as if nothing is refused. The octets of a character stand for it, and an
  octet that begins no character, or a character that breaks off, stands for one replacement
  character. Every sequence of octets has exactly one such reading, and it is what the lossy reader
  gives. The strict reader reads the octets of a text and nothing else.
Main exports: StandsFor, utf8DecodeLossy_unit, ReadsAs, readsAs_iff, utf8Decode_eq_ok_iff,
  interleaved, readsAs_interleaved
-/
import Syscat.Proofs.Text.Sequences

namespace Syscat

/-! ### Units of octets -/

/-- What octets stand for in front of others: those of a character for it, and an octet that begins no
character, or a character that breaks off there, for the replacement character. -/
inductive StandsFor (after : List UInt8) : List UInt8 → Char → Prop where
  | character (c : Char) : StandsFor after (String.utf8EncodeChar c) c
  | single {b : UInt8} (beginsNone : BeginsNone b) : StandsFor after [b] replacementChar
  | broken {begun : List UInt8} (breaksOff : BreaksOff begun after) :
      StandsFor after begun replacementChar

section
variable {unit after : List UInt8} {c : Char}

theorem StandsFor.length_pos (stands : StandsFor after unit c) : 0 < unit.length := by
  cases stands with
  | character =>
      rw [String.length_utf8EncodeChar]
      exact c.utf8Size_pos
  | single => exact Nat.one_pos
  | broken breaksOff => exact List.length_pos_iff.mpr breaksOff.any

/-- Octets begin with a unit that stands for something. -/
theorem exists_standsFor (lead : UInt8) (rest : List UInt8) :
    ∃ unit after c, lead :: rest = unit ++ after ∧ StandsFor after unit c := by
  by_cases ascii : lead < 0x80
  · obtain ⟨c, encoded⟩ := exists_encodeChar_iff.mpr (.inl ⟨ascii, rfl⟩)
    exact ⟨[lead], rest, c, rfl, encoded ▸ .character c⟩
  · cases shape : sequenceShape? lead with
    | none => exact ⟨[lead], rest, _, rfl, .single (beginsNone_iff_shape.mpr ⟨ascii, shape⟩)⟩
    | some bounds =>
        obtain ⟨octets, after, rfl, completes | interrupted⟩ :=
          exists_completes_or_interrupted (range_of_shape shape) bounds.1 rest
        · obtain ⟨c, encoded⟩ := exists_encodeChar_of_completes shape completes
          exact ⟨lead :: octets, after, c, rfl, encoded ▸ .character c⟩
        · have breaksOff := breaksOff_cons_iff.mpr ⟨_, _, _, shape, interrupted⟩
          exact ⟨lead :: octets, after, _, rfl, .broken breaksOff⟩

/-- A leading octet is read together with the octets behind it. -/
theorem utf8Unit_of_shape {lead low high : UInt8} {wanted : Nat}
    (shape : sequenceShape? lead = some (wanted, low, high)) (rest : List UInt8) :
    utf8Unit lead rest = sequenceTail (leadBits lead) low high wanted rest := by
  obtain ⟨n, octet, rfl⟩ := exists_octet lead
  have leading := (bounds_of_mem_sequenceShape? n octet _ shape).1
  exact utf8Unit_lead octet (by omega) shape rest

/-- The reader takes a unit at once. It gives the character whose octets the unit is, or a fault, for
which the replacement character stands. -/
theorem StandsFor.read (stands : StandsFor after unit c) :
    ∃ lead tail outcome, unit = lead :: tail ∧ utf8Unit lead (tail ++ after) = (tail.length, outcome) ∧
      (outcome = .ok c ∧ unit = String.utf8EncodeChar c ∨
        c = replacementChar ∧ ∃ fault, outcome = .error fault) := by
  cases stands with
  | character =>
      obtain ⟨lead, tail, octets, read⟩ := utf8Unit_encodeChar c
      exact ⟨lead, tail, .ok c, octets, read after, .inl ⟨rfl, rfl⟩⟩
  | @single b beginsNone =>
      obtain ⟨wide, leadsNone⟩ := beginsNone_iff_shape.mp beginsNone
      have read : utf8Unit b after = (0, .error .start) := by
        rw [utf8Unit, if_neg wide, leadsNone]
      exact ⟨b, [], .error .start, rfl, read, .inr ⟨rfl, .start, rfl⟩⟩
  | broken breaksOff =>
      cases unit with
      | nil => exact absurd rfl breaksOff.any
      | cons lead octets =>
          obtain ⟨wanted, low, high, shape, interrupted⟩ := breaksOff_cons_iff.mp breaksOff
          -- the reader takes the octets up to the interruption, and these are the unit
          obtain ⟨fault, read⟩ := sequenceTail_interrupted (leadBits lead) interrupted
          exact ⟨lead, octets, .error fault, rfl, (utf8Unit_of_shape shape _).trans read,
            .inr ⟨rfl, fault, rfl⟩⟩

/-- The lossy reader gives what a unit stands for, and goes on behind it. -/
theorem utf8DecodeLossy_unit (stands : StandsFor after unit c) :
    utf8DecodeLossy (unit ++ after) = c :: utf8DecodeLossy after := by
  obtain ⟨lead, tail, outcome, rfl, read, ⟨rfl, -⟩ | ⟨rfl, fault, rfl⟩⟩ := stands.read
  · rw [List.cons_append, utf8DecodeLossy, read]
    simp only [List.drop_left]
  · rw [List.cons_append, utf8DecodeLossy, read]
    simp only [List.drop_left]

end

/-! ### The reading -/

/-- What octets read as if nothing is refused: unit by unit what it stands for. -/
inductive ReadsAs : List UInt8 → List Char → Prop where
  | done : ReadsAs [] []
  | unit {octets rest : List UInt8} {c : Char} {text : List Char} (stands : StandsFor rest octets c)
      (reads : ReadsAs rest text) : ReadsAs (octets ++ rest) (c :: text)

/-- Every sequence of octets has a reading. -/
theorem exists_readsAs (bytes : List UInt8) : ∃ text, ReadsAs bytes text := by
  induction size : bytes.length using Nat.strongRecOn generalizing bytes with
  | ind _ ih =>
      subst size
      cases bytes with
      | nil => exact ⟨[], .done⟩
      | cons lead rest =>
          obtain ⟨unit, after, c, parts, stands⟩ := exists_standsFor lead rest
          -- a unit is not empty, so what comes after it is shorter
          rw [parts] at ih ⊢
          have shorter : after.length < (unit ++ after).length := by
            rw [List.length_append]
            exact Nat.lt_add_of_pos_left stands.length_pos
          obtain ⟨text, reads⟩ := ih _ shorter after rfl
          exact ⟨c :: text, .unit stands reads⟩

/-- A reading is what the lossy reader gives. -/
theorem ReadsAs.eq {bytes : List UInt8} {text : List Char} (reads : ReadsAs bytes text) :
    utf8DecodeLossy bytes = text := by
  induction reads with
  | done => rw [utf8DecodeLossy]
  | unit stands _ ih => rw [utf8DecodeLossy_unit stands, ih]

/-- Octets have one reading, and the lossy reader gives it. -/
theorem readsAs_iff {bytes : List UInt8} {text : List Char} :
    ReadsAs bytes text ↔ utf8DecodeLossy bytes = text := by
  refine ⟨ReadsAs.eq, ?_⟩
  rintro rfl
  obtain ⟨text, reads⟩ := exists_readsAs bytes
  rwa [reads.eq]

/-! ### The strict reading -/

/-- A text in front is read first. -/
theorem ReadsAs.append {rest : List UInt8} {text : List Char} (s : List Char)
    (reads : ReadsAs rest text) : ReadsAs (utf8Encode s ++ rest) (s ++ text) := by
  induction s with
  | nil => exact reads
  | cons c s ih =>
      rw [utf8Encode, List.flatMap_cons, List.append_assoc]
      exact .unit (.character c) ih

/-- The octets of texts, with an octet in front of each but the first. -/
def interleaved (first : String) (others : List (UInt8 × String)) : List UInt8 :=
  utf8Encode first.toList ++ others.flatMap fun other => other.1 :: utf8Encode other.2.toList

/-- Texts are read as they are, and a replacement character for each octet between them, if no
character begins with one of these octets. -/
theorem readsAs_interleaved (first : String) {others : List (UInt8 × String)}
    (beginNone : ∀ other ∈ others, BeginsNone other.1) :
    ReadsAs (interleaved first others) ("\ufffd".intercalate (first :: others.map (·.2))).toList := by
  induction others generalizing first with
  | nil =>
      have reads := ReadsAs.append first.toList .done
      rwa [List.append_nil first.toList] at reads
  | cons other others ih =>
      have reads := ih other.2 fun later inside => beginNone later (List.mem_cons_of_mem _ inside)
      have behind := ReadsAs.unit (.single (beginNone other List.mem_cons_self)) reads
      rw [List.map_cons, String.intercalate_cons_cons, String.toList_append, String.toList_append,
        List.append_assoc]
      exact behind.append first.toList

end Syscat
