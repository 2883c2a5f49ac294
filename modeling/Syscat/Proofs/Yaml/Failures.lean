/-
Module: Syscat.Proofs.Yaml.Failures
Purpose: How the reading of YAML fails: function by function of the scanner and the reader of values. The
  parser only refuses tokens. A reader of settings does not expect a word that is no flag, a text or a
  mapping that is no timestamp, a numeral without digits or with too many groups, or an escape that is
  wider than a code point can be; every other failure it does.
Main exports: Yaml.Fault, Yaml.failsOnly_read, Yaml.Unforeseen, Yaml.unforeseen_of_read
-/
import Syscat.Proofs.Results
import Syscat.Yaml.Reader

namespace Syscat.Yaml

/-- The failures of a reader of YAML. -/
inductive Fault : ReadFailure → Prop where
  | malformed : Fault (.malformed .yaml)
  | codePoint (number : Nat) : Fault (.codePoint number)
  | longNumeral (digits : Nat) : Fault (.longNumeral digits)
  | badNumeral (base : Nat) (text : String) : Fault (.badNumeral base text)
  | noNumeral : Fault (.pastEnd "string")
  | badDecimal (text : String) : Fault (.badDecimal text)
  | unknownFlag (word : String) : Fault (.unknownFlag word)
  | badTimestamp : Fault .badTimestamp
  | wideInteger : Fault .wideInteger
  | noText : Fault .noText
  | calendar (fault : CalendarFault) : Fault (.calendar fault)
  | wideOffset (micros : Int) : Fault (.wideOffset micros)

attribute [simp] Fault.malformed Fault.codePoint Fault.longNumeral Fault.badNumeral Fault.noNumeral
  Fault.badDecimal Fault.unknownFlag Fault.badTimestamp Fault.wideInteger Fault.noText Fault.calendar
  Fault.wideOffset

@[simp]
theorem failsOnly_illFormed {α : Type} : FailsOnly Fault (illFormed : Except ReadFailure α) :=
  .error .malformed

/-! ### Scalars -/

@[simp]
theorem failsOnly_skipRest (c : Cursor) : FailsOnly Fault c.skipRest := by
  simp [Cursor.skipRest]

@[simp]
theorem failsOnly_codePoint (n : Nat) : FailsOnly Fault (codePoint n) := by
  simp [codePoint]

@[simp]
theorem failsOnly_quotedBreaks (fuel : Nat) (c : Cursor) : FailsOnly Fault (quotedBreaks fuel c) := by
  induction fuel generalizing c with
  | zero => exact failsOnly_illFormed
  | succ fuel ih => simp [quotedBreaks, ih]

@[simp]
theorem failsOnly_escape (c : Cursor) : FailsOnly Fault (escape c) := by
  unfold escape
  split
  case h_1 => exact failsOnly_illFormed
  case h_2 =>
    split
    case h_1 => exact .ok _
    case h_2 =>
      split
      case isTrue => exact failsOnly_illFormed
      case isFalse => split <;> simp
    case h_3 => simp

@[simp]
theorem failsOnly_quotedPiece (double : Bool) (fuel : Nat) (c : Cursor) :
    FailsOnly Fault (quotedPiece double fuel c) := by
  induction fuel generalizing c with
  | zero => exact failsOnly_illFormed
  | succ fuel ih =>
      rw [quotedPiece]
      split <;> simp [ih]

@[simp]
theorem failsOnly_quotedSpaces (c : Cursor) : FailsOnly Fault (quotedSpaces c) := by
  simp [quotedSpaces]

@[simp]
theorem failsOnly_quotedRest (double : Bool) (fuel : Nat) (c : Cursor) :
    FailsOnly Fault (quotedRest double fuel c) := by
  induction fuel generalizing c with
  | zero => exact failsOnly_illFormed
  | succ fuel ih => simp [quotedRest, ih]

@[simp]
theorem failsOnly_quotedScalar (double : Bool) (c : Cursor) : FailsOnly Fault (quotedScalar double c) :=
  failsOnly_quotedRest double _ _

@[simp]
theorem failsOnly_indentMark? (c : Cursor) : FailsOnly Fault (indentMark? c) := by
  unfold indentMark?
  split <;> simp

@[simp]
theorem failsOnly_blockMarks (c : Cursor) : FailsOnly Fault (blockMarks c) := by
  unfold blockMarks
  split
  case h_1 =>
    refine (failsOnly_indentMark? _).bind fun mark => ?_
    cases mark <;> simp
  case h_2 =>
    refine (failsOnly_indentMark? _).bind fun mark => ?_
    cases mark with
    | none => simp
    | some n =>
        dsimp only
        split <;> simp

@[simp]
theorem failsOnly_blockScalar (folded : Bool) (parent : Int) (c : Cursor) :
    FailsOnly Fault (blockScalar folded parent c) := by
  refine (failsOnly_blockMarks _).bind fun (chomping, mark, c) => (failsOnly_skipRest _).bind fun c => ?_
  cases chomping <;> simp

namespace Lexer

/-! ### Tokens -/

section
variable (s : Lexer) (c : Cursor) (t : Token)

@[simp]
theorem failsOnly_dropMark : FailsOnly Fault s.dropMark := by
  unfold dropMark
  split <;> simp

@[simp]
theorem failsOnly_saveMark : FailsOnly Fault s.saveMark := by
  simp [saveMark]

@[simp]
theorem failsOnly_refreshMark (mark : Option KeyMark) : FailsOnly Fault (refreshMark c mark) := by
  unfold refreshMark
  split <;> simp

@[simp]
theorem failsOnly_versionNumber : FailsOnly Fault (versionNumber c) := by
  unfold versionNumber
  dsimp only
  split <;> simp

@[simp]
theorem failsOnly_versionDirective : FailsOnly Fault (versionDirective c) := by
  simp [versionDirective]

@[simp]
theorem failsOnly_tagHandle : FailsOnly Fault (tagHandle c) := by
  unfold tagHandle
  split <;> simp

@[simp]
theorem failsOnly_escapedOctets (fuel : Nat) (c : Cursor) : FailsOnly Fault (escapedOctets fuel c) := by
  induction fuel generalizing c with
  | zero => exact .ok _
  | succ fuel ih =>
      rw [escapedOctets]
      split
      case h_1 => split <;> simp [ih]
      case h_2 => exact failsOnly_illFormed
      case h_3 => exact .ok _

@[simp]
theorem failsOnly_tagParts (fuel : Nat) (c : Cursor) : FailsOnly Fault (tagParts fuel c) := by
  induction fuel generalizing c with
  | zero => exact .ok _
  | succ fuel ih =>
      rw [tagParts]
      split
      case isTrue => simp [ih]
      case isFalse =>
        split
        case isTrue =>
          refine (failsOnly_escapedOctets _ _).bind fun (octets, c) => ?_
          dsimp only
          split <;> simp [ih]
        case isFalse => exact .ok _

@[simp]
theorem failsOnly_tagName : FailsOnly Fault (tagName c) := by
  simp [tagName]

@[simp]
theorem failsOnly_handleDirective : FailsOnly Fault (handleDirective c) := by
  simp [handleDirective]

@[simp]
theorem failsOnly_directive : FailsOnly Fault (directive c) := by
  simp [directive]

@[simp]
theorem failsOnly_anchorName : FailsOnly Fault (anchorName c) := by
  simp [anchorName]

@[simp]
theorem failsOnly_tag : FailsOnly Fault (tag c) := by
  simp [tag]

@[simp]
theorem failsOnly_betweenDocuments : FailsOnly Fault (s.betweenDocuments t c) := by
  simp [betweenDocuments]

@[simp]
theorem failsOnly_openFlow : FailsOnly Fault (s.openFlow t) := by
  simp [openFlow]

@[simp]
theorem failsOnly_closeFlow : FailsOnly Fault (s.closeFlow t) := by
  refine (failsOnly_dropMark s).bind fun s => ?_
  split <;> simp

@[simp]
theorem failsOnly_flowEntry : FailsOnly Fault s.flowEntry := by
  simp [flowEntry]

@[simp]
theorem failsOnly_openBlock : FailsOnly Fault (s.openBlock t) := by
  simp [openBlock]

@[simp]
theorem failsOnly_blockEntry : FailsOnly Fault s.blockEntry := by
  simp [blockEntry]

@[simp]
theorem failsOnly_explicitKey : FailsOnly Fault s.explicitKey := by
  simp [explicitKey]

@[simp]
theorem failsOnly_value : FailsOnly Fault s.value := by
  unfold value
  split <;> simp

@[simp]
theorem failsOnly_node : FailsOnly Fault (s.node t c) := by
  simp [node]

@[simp]
theorem failsOnly_block (folded : Bool) : FailsOnly Fault (s.block folded) := by
  simp [block]

@[simp]
theorem failsOnly_plain : FailsOnly Fault s.plain := by
  simp [plain]

@[simp]
theorem failsOnly_readToken (ch : Char) (rest : List Char) : FailsOnly Fault (s.readToken ch rest) := by
  simp [readToken]

end

end Lexer

theorem failsOnly_numeral (base : Nat) (s : List Char) : FailsOnly Fault (numeral base s) := by
  unfold numeral
  split <;> simp

theorem failsOnly_decimal (s : List Char) : FailsOnly Fault (decimal s) := by
  unfold decimal
  split <;> simp

@[simp]
theorem failsOnly_takeSign (s : List Char) : FailsOnly Fault (takeSign s) := by
  unfold takeSign
  split <;> simp

@[simp]
theorem failsOnly_magnitude (s : List Char) : FailsOnly Fault (magnitude s) := by
  unfold magnitude
  split <;> simp [failsOnly_numeral, FailsOnly.foldlM]

@[simp]
theorem failsOnly_integerContent (s : List Char) : FailsOnly Fault (integerContent s) := by
  simp [integerContent]

@[simp]
theorem failsOnly_sixtiethSum (weight : Nat) (sum : Double) (groups : List Double) :
    FailsOnly Fault (sixtiethSum weight sum groups) := by
  induction groups generalizing weight sum with
  | nil => exact .ok _
  | cons x rest ih =>
      unfold sixtiethSum
      split <;> simp [ih]

@[simp]
theorem failsOnly_floatContent (s : List Char) : FailsOnly Fault (floatContent s) := by
  simp [floatContent, failsOnly_decimal, FailsOnly.mapM]

@[simp]
theorem failsOnly_flagContent (s : List Char) : FailsOnly Fault (flagContent s) := by
  simp [flagContent]

@[simp]
theorem failsOnly_zoneOffset (zone : Option (Bool × List Char × List Char)) :
    FailsOnly Fault (zoneOffset zone) := by
  unfold zoneOffset
  split
  case h_1 => exact .ok _
  case h_2 =>
    dsimp only
    split <;> simp

@[simp]
theorem failsOnly_timestampContent (s : List Char) : FailsOnly Fault (timestampContent s) := by
  unfold timestampContent
  split
  case h_1 => simp
  case h_2 parts _ =>
    dsimp only
    split
    case h_1 => simp
    case h_2 =>
      refine FailsOnly.bind ?_ fun offset => by simp
      cases parts.zone with
      | none => exact .ok _
      | some zone => exact FailsOnly.map_iff.mpr (failsOnly_zoneOffset zone)

@[simp]
theorem failsOnly_binaryContent (s : List Char) : FailsOnly Fault (binaryContent s) := by
  unfold binaryContent
  split
  case isTrue => split <;> simp
  case isFalse => exact failsOnly_illFormed

@[simp]
theorem failsOnly_scalarContent (tag : Tag) (s : List Char) : FailsOnly Fault (scalarContent tag s) := by
  unfold scalarContent
  split <;> simp

namespace Node

/-! ### Collections -/

/-- What fails at a depth fails as a reader of YAML does. -/
def FaultAt (e : Nat × ReadFailure) : Prop := Fault e.2

@[simp]
theorem failsOnly_illFormedAt {α : Type} (depth : Nat) :
    FailsOnly FaultAt (Filled.illFormed depth : Filled α) :=
  .error Fault.malformed

mutual

theorem failsOnly_splitEntries (entries : List (Node × Node)) :
    FailsOnly Fault (splitEntries entries) := by
  cases entries with
  | nil => exact .ok _
  | cons entry rest => simp [splitEntries, failsOnly_mergeSource entry.2, failsOnly_splitEntries rest]

theorem failsOnly_mergeSource (n : Node) : FailsOnly Fault (mergeSource n) := by
  cases n with
  | scalar tag text => exact failsOnly_illFormed
  | sequence tag items => exact failsOnly_mergeSources items
  | mapping tag entries => simp [mergeSource, failsOnly_splitEntries entries]
  | around anchor => exact .ok _

theorem failsOnly_mergeSources (items : List Node) : FailsOnly Fault (mergeSources items) := by
  cases items with
  | nil => exact .ok _
  | cons n rest =>
      cases n with
      | mapping tag entries =>
          simp [mergeSources, failsOnly_splitEntries entries, failsOnly_mergeSources rest]
      | around anchor => exact failsOnly_mergeSources rest
      | _ => exact failsOnly_illFormed

end

theorem failsOnly_both {α β : Type} {a : Filled α} {b : Filled β} (first : FailsOnly FaultAt a)
    (second : FailsOnly FaultAt b) : FailsOnly FaultAt (Filled.both a b) := by
  unfold Filled.both
  split
  case h_1 => exact .ok _
  case h_2 => exact .error (first _ rfl)
  case h_3 => exact .error (second _ rfl)
  case h_4 e f =>
    refine .error ?_
    split
    case isTrue => exact second f rfl
    case isFalse => exact first e rfl

theorem failsOnly_all {α β : Type} {f : α → Filled β} (each : ∀ a, FailsOnly FaultAt (f a))
    (items : List α) : FailsOnly FaultAt (Filled.all (items.map f)) := by
  induction items with
  | nil => exact .ok _
  | cons a rest ih => simp [Filled.all, failsOnly_both (each a) ih]

section
variable {inner : Node → Filled Value} (each : ∀ n, FailsOnly FaultAt (inner n)) (depth : Nat)
include each

theorem failsOnly_fillEntries (entries : List (Node × Node)) :
    FailsOnly FaultAt (fillEntries inner depth entries) := by
  unfold fillEntries
  split
  case h_1 e failed =>
    refine .error ?_
    have only : FailsOnly Fault (allEntries entries) := by simp [allEntries, failsOnly_splitEntries]
    exact only e failed
  case h_2 entries _ =>
    refine FailsOnly.map_iff.mpr (failsOnly_all (fun (key, v) => ?_) entries)
    exact failsOnly_both (by simp [each]) (each v)

theorem failsOnly_fillPair (n : Node) : FailsOnly FaultAt (fillPair inner depth n) := by
  unfold fillPair
  split
  case h_1 key v => exact FailsOnly.map_iff.mpr (failsOnly_both (each key) (each v))
  case h_2 => exact .ok _
  case h_3 => simp

end

theorem failsOnly_fill (fuel depth : Nat) (n : Node) : FailsOnly FaultAt (fill fuel depth n) := by
  induction fuel generalizing depth n with
  | zero => simp [fill]
  | succ fuel inner =>
      have each := inner (depth + 1)
      unfold fill
      dsimp only
      split
      case h_1 => simp [failsOnly_all each]
      case h_2 => simp [failsOnly_fillEntries each]
      case h_3 => simp [failsOnly_fillEntries each]
      case h_4 => simp [failsOnly_all (failsOnly_fillPair each _)]
      case h_5 => simp [failsOnly_all (failsOnly_fillPair each _)]
      case h_6 => exact .ok _
      case h_7 => simp [FaultAt]
      case h_8 =>
        split
        case isTrue => simp
        case isFalse =>
          split
          case h_1 text _ => exact FailsOnly.mapError_iff.mpr (failsOnly_scalarContent _ text)
          case h_2 => simp

@[simp]
theorem failsOnly_toValue (n : Node) : FailsOnly Fault n.toValue :=
  FailsOnly.mapError_iff.mpr (failsOnly_fill _ _ n)

end Node

/-! ### The reader -/

/-- The failures of a reader of YAML that a reader of settings does not expect. -/
inductive Unforeseen : ReadFailure → Prop where
  /-- An escape spells a number beyond every machine integer. -/
  | codePoint {number : Nat} (wide : 0x80000000 ≤ number) : Unforeseen (.codePoint number)
  /-- A number has no digits, and not even a sign. -/
  | noNumeral : Unforeseen (.pastEnd "string")
  | unknownFlag (word : String) : Unforeseen (.unknownFlag word)
  | badTimestamp : Unforeseen .badTimestamp
  /-- The weight of a group in base sixty is beyond floating-point numbers. -/
  | wideInteger : Unforeseen .wideInteger
  /-- A mapping with a default value is tagged as a timestamp. -/
  | noText : Unforeseen .noText

end Syscat.Yaml
