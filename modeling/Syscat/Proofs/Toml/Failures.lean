/-
Module: Syscat.Proofs.Toml.Failures
Purpose: How the reading of TOML fails: function by function of the reader of lines, of values and of
  headers. A reader of settings expects only that a text is not well-formed. It does not expect that
  something is looked for behind an end or in a value without parts, nor an escape that is wider than a
  code point can be.
Main exports: Toml.Fault, Toml.failsOnly_read, Toml.Unforeseen, Toml.unforeseen_of_read
-/
import Syscat.Proofs.Results
import Syscat.Proofs.Toml.Escapes
import Syscat.Toml.Reader

namespace Syscat.Toml

/-- The failures of a reader of TOML that a reader of settings does not expect. -/
inductive Unforeseen : ReadFailure → Prop where
  /-- An escape spells a number beyond every machine integer. -/
  | codePoint {number : Nat} (wide : 0x80000000 ≤ number) : Unforeseen (.codePoint number)
  /-- The digits behind the point of a second spell an integer beyond floating-point numbers. -/
  | wideInteger : Unforeseen .wideInteger
  | pastEnd (sequence : String) : Unforeseen (.pastEnd sequence)
  | noParts (holder : Value) : Unforeseen (.noParts holder)
  | noMembers (holder : Value) : Unforeseen (.noMembers holder)
  | nameInSequence (holder : Value) : Unforeseen (.nameInSequence holder)
  | fixedText : Unforeseen .fixedText
  | notAppendable : Unforeseen .notAppendable
  | unnamedText : Unforeseen .unnamedText

/-- The failures of a reader of TOML. -/
inductive Fault : ReadFailure → Prop where
  | malformed : Fault (.malformed .toml)
  | unforeseen {e : ReadFailure} (unforeseen : Unforeseen e) : Fault e

attribute [simp] Fault.unforeseen Unforeseen.wideInteger Unforeseen.pastEnd Unforeseen.noParts
  Unforeseen.noMembers Unforeseen.nameInSequence Unforeseen.fixedText Unforeseen.notAppendable
  Unforeseen.unnamedText

@[simp]
theorem failsOnly_illFormed {α : Type} : FailsOnly Fault (illFormed : Except ReadFailure α) :=
  .error .malformed

/-! ### Lines -/

@[simp]
theorem failsOnly_startsPart (rest : List Char) : FailsOnly Fault (startsPart rest) := by
  unfold startsPart
  split <;> simp

@[simp]
theorem failsOnly_afterGap (rest : List Char) : FailsOnly Fault (afterGap rest) := by
  simp [afterGap]

section
variable (s : LineState) (c : Char) (rest : List Char)

@[simp]
theorem failsOnly_passName : FailsOnly Fault (passName s c rest) := by
  unfold passName
  split
  case isTrue => exact failsOnly_illFormed
  case isFalse => split <;> simp

@[simp]
theorem failsOnly_passLineEnd : FailsOnly Fault (passLineEnd s rest) := by
  simp [passLineEnd]

@[simp]
theorem failsOnly_passOther : FailsOnly Fault (passOther s c) := by
  simp [passOther]

@[simp]
theorem failsOnly_passChar : FailsOnly Fault (passChar s c rest) := by
  unfold passChar
  split
  case isTrue => exact .ok _
  case isFalse =>
    dsimp only
    split
    all_goals
      refine FailsOnly.bind (by simp) fun named => ?_
      cases named <;> simp

end

@[simp]
theorem failsOnly_passAll (s : LineState) (text : List Char) : FailsOnly Fault (passAll s text) := by
  induction text generalizing s with
  | nil => exact .ok _
  | cons c rest ih => simp [passAll, ih]

@[simp]
theorem failsOnly_lines (text : List Char) : FailsOnly Fault (lines text) := by
  simp [lines]

/-! ### Texts -/

@[simp]
theorem failsOnly_checkClosed (triple : Bool) (count : Nat) (closed : Bool) (parts : List (List Char)) :
    FailsOnly Fault (checkClosed triple count closed parts) := by
  induction parts generalizing count closed with
  | nil => exact .ok _
  | cons part parts ih => simp [checkClosed, ih]

@[simp]
theorem failsOnly_checkEscapes (escaped : Bool) (parts : List (List Char)) :
    FailsOnly Fault (checkEscapes escaped parts) := by
  fun_induction checkEscapes escaped parts <;> simp [*]

@[simp]
theorem failsOnly_codePoint (n : Nat) : FailsOnly Fault (codePoint n) := by
  unfold codePoint
  split
  case isTrue => exact .ok _
  case isFalse =>
    split
    case isTrue => exact .ok _
    case isFalse =>
      split
      case isTrue => exact failsOnly_illFormed
      case isFalse wide => exact .error (.unforeseen (.codePoint (Nat.le_of_not_lt wide)))

@[simp]
theorem failsOnly_hexEscape (width : Nat) (s : List Char) : FailsOnly Fault (hexEscape width s) := by
  unfold hexEscape
  dsimp only
  split
  case h_1 => exact failsOnly_illFormed
  case h_2 => simp
  case h_3 =>
    split
    case isTrue => split <;> simp
    case isFalse => simp

@[simp]
theorem failsOnly_replaceHexEscapes (mark : Char) (width : Nat) (literal : Bool)
    (parts : List (List Char)) : FailsOnly Fault (replaceHexEscapes mark width literal parts) := by
  induction parts generalizing literal with
  | nil => exact .ok _
  | cons part parts ih => simp [replaceHexEscapes, ih]

@[simp]
theorem failsOnly_readHexEscapes (mark : Char) (width : Nat) (s : List Char) :
    FailsOnly Fault (readHexEscapes mark width s) := by
  unfold readHexEscapes
  split <;> simp

@[simp]
theorem failsOnly_readLetterEscapes (s : List Char) : FailsOnly Fault (readLetterEscapes s) := by
  fun_induction readLetterEscapes s <;> simp [*]

@[simp]
theorem failsOnly_readEscapes (s : List Char) : FailsOnly Fault (readEscapes s) := by
  simp [readEscapes]

@[simp]
theorem failsOnly_readText (mark : Char) (s : List Char) : FailsOnly Fault (readText mark s) := by
  unfold readText
  extract_lets finish unescape
  have unescaped : ∀ u, FailsOnly Fault (unescape u) := fun u => by simp [unescape, finish]
  split <;> simp [unescaped]

/-! ### Simple values -/

theorem failsOnly_of_readClock? {s : List Char} {clock : Except ReadFailure Value}
    (found : readClock? s = some clock) : FailsOnly Fault clock := by
  obtain ⟨⟨hour, minute, second, micros⟩, -, rfl⟩ := Option.map_eq_some_iff.mp found
  dsimp only
  split <;> simp

@[simp]
theorem failsOnly_fractionMicros? (digits : List Char) : FailsOnly Fault (fractionMicros? digits) := by
  unfold fractionMicros?
  split
  case h_1 => exact .ok _
  case h_2 =>
    split
    case isTrue => exact .ok _
    case isFalse => split <;> simp

@[simp]
theorem failsOnly_readTail (s : List Char) : FailsOnly Fault (readTail s) := by
  unfold readTail
  split
  case h_1 => exact .ok _
  case h_2 =>
    dsimp only
    split
    case h_1 => exact .ok _
    case h_2 =>
      refine (failsOnly_fractionMicros? _).bind fun micros? => ?_
      cases micros? <;> simp
  case h_3 => exact .ok _

@[simp]
theorem failsOnly_readMoment? (s : List Char) : FailsOnly Fault (readMoment? s) := by
  simp [readMoment?]

@[simp]
theorem failsOnly_readUnsigned (s : List Char) : FailsOnly Fault (readUnsigned s) := by
  unfold readUnsigned
  extract_lets has word asFloat
  have float : FailsOnly Fault asFloat := by
    simp only [asFloat]
    split <;> simp
  split
  case isTrue => simp [float]
  case isFalse =>
    split
    case isTrue => exact float
    case isFalse => split <;> simp

@[simp]
theorem failsOnly_readNumber (s : List Char) : FailsOnly Fault (readNumber s) := by
  simp [readNumber]

/-! ### Arrays -/

@[simp]
theorem failsOnly_joinText (part : List Char) (parts : List (List Char)) :
    FailsOnly Fault (joinText part parts) := by
  induction parts generalizing part with
  | nil => simp [joinText]
  | cons next rest ih =>
      unfold joinText
      split
      case isTrue => split <;> simp [ih]
      case isFalse => exact ih _

@[simp]
theorem failsOnly_textParts (parts : List (List Char)) : FailsOnly Fault (textParts parts) := by
  unfold textParts
  split <;> simp

@[simp]
theorem failsOnly_itemParts (s : List Char) : FailsOnly Fault (itemParts s) := by
  unfold itemParts
  dsimp only
  split
  case isTrue =>
    split
    case isTrue => split <;> simp
    case isFalse => simp
  case isFalse => exact .ok _

/-! ### Entries -/

@[simp]
theorem failsOnly_isValueStart (s : List Char) : FailsOnly Fault (isValueStart s) := by
  unfold isValueStart
  split <;> simp

@[simp]
theorem failsOnly_findValue (line : List Char) (fuel count : Nat) (value : List Char) (strict : Bool) :
    FailsOnly Fault (findValue line fuel count value strict) := by
  induction fuel generalizing count value strict with
  | zero => exact failsOnly_illFormed
  | succ fuel ih => simp [findValue, ih]

@[simp]
theorem failsOnly_splitEntry (line : List Char) : FailsOnly Fault (splitEntry line) := by
  simp [splitEntry]

@[simp]
theorem failsOnly_readName (name : List Char) : FailsOnly Fault (readName name) := by
  unfold readName
  split
  case isTrue => split <;> simp
  case isFalse => split <;> simp

@[simp]
theorem failsOnly_lastText (text : List Char) (parts : List (List Char)) :
    FailsOnly Fault (lastText text parts) := by
  induction parts generalizing text with
  | nil => exact .ok _
  | cons part parts ih =>
      unfold lastText
      split <;> simp [ih]

@[simp]
theorem failsOnly_lastItem (s : List Char) : FailsOnly Fault (lastItem s) := by
  unfold lastItem
  split <;> simp

@[simp]
theorem failsOnly_openText? (s : List Char) : FailsOnly Fault (openText? s) := by
  unfold openText?
  split
  case isTrue => exact .ok _
  case isFalse =>
    dsimp only
    split
    all_goals
      refine FailsOnly.bind (by simp) fun text => ?_
      split
      case h_1 => simp
      case h_2 =>
        split
        case isTrue => simp
        case isFalse =>
          split
          case h_1 => simp
          case h_2 =>
            split
            case isTrue => simp
            case isFalse => split <;> simp

section
variable {α : Type} {go : Value → Except ReadFailure (Value × α)} (goes : ∀ v, FailsOnly Fault (go v))
include goes

theorem failsOnly_withTable (name : String) (v : Value) : FailsOnly Fault (withTable name v go) := by
  unfold withTable
  split <;> simp [goes]

theorem failsOnly_withTables (names : List String) (v : Value) :
    FailsOnly Fault (withTables names v go) := by
  induction names generalizing v with
  | nil => exact goes v
  | cons name rest ih => exact failsOnly_withTable ih name v

end

@[simp]
theorem failsOnly_putNew (name : String) (v table : Value) : FailsOnly Fault (putNew name v table) := by
  unfold putNew
  split
  case h_1 => split <;> simp
  case h_2 => exact failsOnly_illFormed

@[simp]
theorem failsOnly_checkNew (name : String) (table : Value) : FailsOnly Fault (checkNew name table) := by
  simp [checkNew]

@[simp]
theorem failsOnly_isWholeValue (s : List Char) : FailsOnly Fault (isWholeValue s) := by
  unfold isWholeValue
  split <;> simp

@[simp]
theorem failsOnly_joinEntries (part : List Char) (rest : List (List Char)) :
    FailsOnly Fault (joinEntries part rest) := by
  induction size : rest.length using Nat.strongRecOn generalizing part rest with
  | ind _ ih =>
      rw [joinEntries]
      split
      case isTrue => exact failsOnly_illFormed
      case isFalse =>
        refine (failsOnly_isWholeValue _).bind fun whole => ?_
        cases rest with
        | nil => cases whole <;> simp
        | cons next rest =>
            have later := ih rest.length (by simp [← size])
            cases whole <;> simp [later]

/-! ### Values -/

section
variable {read : ValueReader} (reads : ∀ s strict, FailsOnly Fault (read s strict))
include reads

theorem failsOnly_readItems (kind : Option Kind) (parts : List (List Char)) :
    FailsOnly Fault (readItems read kind parts) := by
  induction parts generalizing kind with
  | nil => exact .ok _
  | cons part parts ih => simp [readItems, reads, ih]

theorem failsOnly_readArray (s : List Char) : FailsOnly Fault (readArray read s) := by
  simp [readArray, failsOnly_readItems reads]

theorem failsOnly_putEntry (line : List Char) (table : Value) :
    FailsOnly Fault (putEntry read line table) := by
  refine (failsOnly_splitEntry line).bind fun (name, value, strict) =>
    (failsOnly_readName name).bind fun (outer, own) => failsOnly_withTables (fun inner => ?_) outer table
  refine (failsOnly_openText? value).bind fun text? => ?_
  cases text? <;> simp [reads]

theorem failsOnly_putEntries (table : Value) (entries : List (List Char)) :
    FailsOnly Fault (putEntries read table entries) := by
  induction entries generalizing table with
  | nil => exact .ok _
  | cons entry entries ih =>
      refine (failsOnly_putEntry reads entry table).bind fun (table, pending?) => ?_
      cases pending? <;> simp [ih]

theorem failsOnly_putInline (s : List Char) (table : Value) :
    FailsOnly Fault (putInline read s table) := by
  unfold putInline
  split <;> simp [failsOnly_putEntries reads]

theorem failsOnly_readWith (s : List Char) (strict : Bool) :
    FailsOnly Fault (readWith read s strict) := by
  unfold readWith
  dsimp only
  split
  case isTrue => exact .ok _
  case isFalse =>
    split
    case isTrue => exact .ok _
    case isFalse =>
      split
      case isTrue => exact failsOnly_illFormed
      case isFalse =>
        split
        case h_1 => exact failsOnly_illFormed
        case h_2 =>
          split
          case isTrue => simp
          case isFalse =>
            split
            case isTrue => simp [failsOnly_readArray reads]
            case isFalse =>
              split
              case isTrue => simp [failsOnly_putInline reads]
              case isFalse =>
                split
                case h_1 clock found => simp [failsOnly_of_readClock? found]
                case h_2 =>
                  refine (failsOnly_readMoment? _).bind fun moment? => ?_
                  cases moment? <;> simp

end

theorem failsOnly_readDeep (depth : Nat) (s : List Char) (strict : Bool) :
    FailsOnly Fault (readDeep depth s strict) := by
  induction depth generalizing s strict with
  | zero => exact failsOnly_illFormed
  | succ depth ih => exact failsOnly_readWith ih s strict

@[simp]
theorem failsOnly_readValue (s : List Char) (strict : Bool) : FailsOnly Fault (readValue s strict) :=
  failsOnly_readDeep _ s strict

/-! ### Headers -/

@[simp]
theorem failsOnly_joinName (part : List Char) (parts : List (List Char)) :
    FailsOnly Fault (joinName part parts) := by
  induction parts generalizing part with
  | nil => simp [joinName]
  | cons next rest ih => simp [joinName, ih]

@[simp]
theorem failsOnly_headerNames (fuel : Nat) (parts : List (List Char)) :
    FailsOnly Fault (headerNames fuel parts) := by
  induction fuel generalizing parts with
  | zero => exact failsOnly_illFormed
  | succ fuel ih =>
      cases parts with
      | nil => exact .ok _
      | cons part parts =>
          rw [headerNames]
          split <;> simp [ih]

@[simp]
theorem failsOnly_readHeader (line : List Char) : FailsOnly Fault (readHeader line) := by
  unfold readHeader
  split
  case h_1 => exact failsOnly_illFormed
  case h_2 =>
    dsimp only
    split <;> simp

@[simp]
theorem failsOnly_lastPart (v : Value) : FailsOnly Fault (lastPart v) := by
  unfold lastPart
  split
  case h_1 => split <;> simp
  case h_2 => split <;> simp
  case h_3 => simp

theorem failsOnly_goInto {go : Value → Except ReadFailure Opened} (goes : ∀ v, FailsOnly Fault (go v))
    (tables : Bool) (v : Value) : FailsOnly Fault (goInto tables v go) := by
  unfold goInto
  split <;> simp [goes]

@[simp]
theorem failsOnly_mentionAgain (tables isLast : Bool) (implicit : List String) (name : String)
    (v : Value) : FailsOnly Fault (mentionAgain tables isLast implicit name v) := by
  unfold mentionAgain
  split
  case isTrue => exact .ok _
  case isFalse =>
    split
    case isTrue => simp
    case isFalse =>
      split
      case isTrue => split <;> simp
      case isFalse => exact failsOnly_illFormed

@[simp]
theorem failsOnly_followNames (tables : Bool) (implicit names : List String) (v : Value) :
    FailsOnly Fault (followNames tables implicit names v) := by
  induction names generalizing implicit v with
  | nil => exact .ok _
  | cons name rest ih =>
      have goes : ∀ implicit v, FailsOnly Fault (goInto tables v (followNames tables implicit rest)) :=
        fun implicit => failsOnly_goInto (ih implicit) tables
      unfold followNames
      split
      case isTrue => exact failsOnly_illFormed
      case isFalse =>
        split
        case h_1 =>
          split
          case h_1 => simp [goes]
          case h_2 => simp [goes]
        case h_2 =>
          refine (failsOnly_lastPart _).bind fun last => ?_
          dsimp only
          split
          case h_1 => simp [goes]
          case h_2 => simp
          case h_3 => simp
          case h_4 => simp

theorem failsOnly_changeAt {α : Type} {change : Value → Except ReadFailure (Value × α)}
    (changes : ∀ v, FailsOnly Fault (change v)) (path : List Step) (v : Value) :
    FailsOnly Fault (changeAt change path v) := by
  fun_induction changeAt change path v <;> simp [*]

/-! ### The reader -/

namespace Reading

theorem failsOnly_change {α : Type} (r : Reading) {f : Value → Except ReadFailure (Value × α)}
    (changes : ∀ v, FailsOnly Fault (f v)) : FailsOnly Fault (r.change f) := by
  simp [change, failsOnly_changeAt changes]

@[simp]
theorem failsOnly_endsPending (first : Char) (line : List Char) :
    FailsOnly Fault (endsPending first line) := by
  unfold endsPending
  split <;> simp

@[simp]
theorem failsOnly_close (r : Reading) (p : Pending) (text : List Char) :
    FailsOnly Fault (r.close p text) := by
  refine (failsOnly_readValue text true).bind fun (v, kind) => ?_
  refine (failsOnly_change r fun table => ?_).bind fun _ => by simp
  split <;> simp

@[simp]
theorem failsOnly_extend (r : Reading) (p : Pending) (line : List Char) :
    FailsOnly Fault (r.extend p line) := by
  simp [extend]

@[simp]
theorem failsOnly_begin (r : Reading) (line : List Char) : FailsOnly Fault (r.begin line) := by
  unfold begin
  split
  case h_1 => exact .ok _
  case h_2 first rest =>
    have reads := failsOnly_readDeep ((first :: rest).length + 1)
    dsimp only
    split
    case isTrue => simp
    case isFalse =>
      split
      case isTrue =>
        have inline : ∀ table, FailsOnly Fault (do
            return (← putInline (readDeep ((first :: rest).length + 1)) (first :: rest) table, ())) :=
          fun table => (failsOnly_putInline reads _ table).bind fun _ => .ok _
        split
        case isTrue => exact failsOnly_illFormed
        case isFalse => exact (failsOnly_change r inline).bind fun _ => .ok _
      case isFalse =>
        split
        case isTrue =>
          exact (failsOnly_change r (failsOnly_putEntry reads _)).bind fun _ => .ok _
        case isFalse => exact .ok _

@[simp]
theorem failsOnly_readLine (r : Reading) (line : List Char) : FailsOnly Fault (r.readLine line) := by
  unfold readLine
  split <;> simp

end Reading

end Syscat.Toml
