/-
Module: Syscat.Proofs.Row.Text
Purpose: What text a column of octets reads as. Reading it never fails, and the text is what the
  octets read as if nothing is refused. So octets that begin no character cost only themselves,
  wherever they stand between texts.
Main exports: Row.text?_of_readsAs, Row.text?_octets
-/
import Syscat.Proofs.Row.Access
import Syscat.Proofs.Text.Lossy

namespace Syscat

namespace Row

variable {row : Row} {column : String} {bytes : List UInt8}

/-- A column of octets reads as what the octets read as. -/
theorem text?_of_readsAs {text : String} (here : (row.get column).bytes? = some bytes)
    (reads : ReadsAs bytes text.toList) : row.text? column = .ok (some text) := by
  have filled : row.get column ≠ .null := by
    intro null
    rw [null] at here
    cases here
  have spelled : textOf? (row.get column) = some text := by
    simp only [textOf?, here, reads.eq, String.ofList_toList]
  rw [text?_of_ne_null filled, spelled]
  rfl

/-- Undecodable octets in a column cost only themselves. Where each of some texts but the first has an
octet in front that begins no character, the column reads as these texts with a replacement character
for each of the octets; the octets of a text alone read as that text. And no octets make the reading
fail: whatever they are, the column reads as the one text that stands for them unit by unit. The
octets that begin no character are those from `0x80` to `0xC1` and from `0xF5` on. -/
theorem text?_octets (row : Row) (column : String) :
    (∀ (first : String) (others : List (UInt8 × String)), (∀ other ∈ others, BeginsNone other.1) →
      (row.get column).bytes? = some (interleaved first others) →
      row.text? column = .ok (some ("\ufffd".intercalate (first :: others.map (·.2))))) ∧
    (∀ text : String, (row.get column).bytes? = some (utf8Encode text.toList) →
      row.text? column = .ok (some text)) ∧
    (∀ bytes, (row.get column).bytes? = some bytes →
      ∃ text : String, row.text? column = .ok (some text) ∧
        ∀ reading, ReadsAs bytes reading ↔ reading = text.toList) ∧
    ∀ b, BeginsNone b ↔ 0x80 ≤ b ∧ b ≤ 0xC1 ∨ 0xF5 ≤ b := by
  refine ⟨fun first others beginNone here => ?_, fun text here => ?_, fun bytes here => ?_,
    fun b => beginsNone_iff⟩
  · exact text?_of_readsAs here (readsAs_interleaved first beginNone)
  · exact text?_of_readsAs here (readsAs_iff.mpr (utf8DecodeLossy_utf8Encode text.toList))
  · obtain ⟨text, reads⟩ := exists_readsAs bytes
    rw [← String.toList_ofList (l := text)] at reads
    refine ⟨String.ofList text, text?_of_readsAs here reads, fun reading => ?_⟩
    rw [readsAs_iff, reads.eq, eq_comm]

/-- A row with octets in the column of the source text. -/
def sourceOctets (bytes : List UInt8) : Row :=
  ⟨[("TEXT", .octets bytes)]⟩

theorem text?_octets_sourceOctets :
    (sourceOctets
      [0x5A, 0xC3, 0xBC, 0x80, 0x72, 0xE2, 0x82, 0xAC, 0xC0, 0xFF, 0xF0, 0x9F, 0x98, 0x80]).text?
        "TEXT" =
        .ok (some "Zü\ufffdr€\ufffd\ufffd😀") ∧
      (sourceOctets [0x5A, 0xC3, 0xBC]).text? "TEXT" = .ok (some "Zü") ∧
      (sourceOctets [0xE2, 0x82, 0x41, 0xED, 0xA0, 0x80]).text? "TEXT" =
        .ok (some "\ufffdA\ufffd\ufffd\ufffd") := by
  have octets : interleaved "Zü" [(0x80, "r€"), (0xC0, ""), (0xFF, "😀")] =
      [0x5A, 0xC3, 0xBC, 0x80, 0x72, 0xE2, 0x82, 0xAC, 0xC0, 0xFF, 0xF0, 0x9F, 0x98, 0x80] := by decide
  have beginNone : ∀ other ∈ [((0x80 : UInt8), "r€"), (0xC0, ""), (0xFF, "😀")],
      BeginsNone other.1 := by decide
  have reading : ReadsAs [0xE2, 0x82, 0x41, 0xED, 0xA0, 0x80] "\ufffdA\ufffd\ufffd\ufffd".toList :=
    readsAs_iff.mpr (by decide +kernel)
  refine ⟨?_, ?_, ?_⟩
  · exact (text?_octets (sourceOctets _) "TEXT").1 "Zü" _ beginNone (by rw [octets]; rfl)
  · exact (text?_octets (sourceOctets _) "TEXT").2.1 "Zü" rfl
  · obtain ⟨text, read, unique⟩ := (text?_octets (sourceOctets _) "TEXT").2.2.1 _ rfl
    rw [read, String.toList_inj.mp ((unique _).mp reading)]

end Row

end Syscat
