/-
Module: Syscat.Proofs.Mapping.Codes
Purpose: The columns of a routine that hold codes: which of them a mapping consults, and what an unknown
  code in one of them does. Strictly it is the failure of the mapping, leniently it reads like null.
Main exports: CatalogCode.known?, CodeColumn, Row.unknownCode?, Row.consults, Row.fault?,
  Row.Spellable.result_code?, Row.eq_known?_of_code?, Row.result_code?_lenient
-/
import Syscat.Mapping
import Syscat.Proofs.Row.Access

namespace Syscat

/-! ### Looking up a text -/

namespace CatalogCode

section
variable {α : Type} [CatalogCode α]

/-- The codes that a table has. -/
def codes (α : Type) [CatalogCode α] : List String :=
  (literalTable α).map (·.1)

/-- The text, if it is neither empty nor one of the codes. -/
def unknownText? (codes : List String) : Option String → Option String
  | some text => if text = "" ∨ text ∈ codes then none else some text
  | none => none

/-- The member that a text stands for. -/
def known? : Option String → Option α
  | some text => if text = "" then none else ofLiteral? text
  | none => none

/-- A text stands for no member exactly if it is not among the codes. -/
theorem ofLiteral?_eq_none_iff (s : String) : (ofLiteral? s : Option α) = none ↔ s ∉ codes α := by
  simp only [ofLiteral?, codes, literalTable, List.find?_eq_none, List.mem_map, List.mem_filterMap,
    Option.map_eq_some_iff, beq_iff_eq]
  constructor
  · rintro absent ⟨_, ⟨m, inside, code, literal, rfl⟩, rfl⟩
    exact absent m inside literal
  · intro absent m inside literal
    exact absent ⟨(s, m), ⟨m, inside, s, literal, rfl⟩, rfl⟩

/-- An unknown code stands for nothing. -/
theorem known?_of_unknown {raw : Option String} {text : String}
    (unknown : unknownText? (codes α) raw = some text) : (known? raw : Option α) = none := by
  cases raw with
  | none => rfl
  | some s =>
      simp only [unknownText?] at unknown
      split at unknown
      case isTrue => cases unknown
      case isFalse strange =>
        rw [not_or] at strange
        rw [known?, if_neg strange.1, ofLiteral?_eq_none_iff]
        exact strange.2

/-- The failure of a mapping that meets an unknown code. -/
theorem unknown_text (column text : String) : unknown α column (.text text) =
    .mapping ⟨.unknownLiteral (title α) column (.text text), none⟩ := rfl

/-- Looking up a column's text fails for an unknown code only. -/
theorem lookupText_eq (column : String) (raw : Option String) :
    (lookupText column raw : Except Failure (Option α)) =
      match unknownText? (codes α) raw with
      | some text => .error (unknown α column (.text text))
      | none => .ok (known? raw) := by
  cases raw with
  | none => rfl
  | some s =>
      by_cases empty : s = ""
      · simp [lookupText, lookup, unknownText?, known?, empty]
      · cases found : (ofLiteral? s : Option α) with
        | none =>
            have absent := (ofLiteral?_eq_none_iff (α := α) s).mp found
            simp [lookupText, lookup, unknownText?, empty, found, absent]
        | some m =>
            have inside : s ∈ codes α := by
              by_contra absent
              rw [(ofLiteral?_eq_none_iff s).mpr absent] at found
              cases found
            simp [lookupText, lookup, unknownText?, known?, empty, found, inside]

/-- Strictly an unknown code is a failure. -/
theorem result_readCode_strict (column : String) (fallback : Option α) (raw : Option String) :
    (readCode .strict column fallback raw).result =
      match unknownText? (codes α) raw with
      | some text => .error (unknown α column (.text text))
      | none => .ok ((known? raw).or fallback) := by
  unfold readCode
  rw [lookupText_eq]
  cases unknownText? (codes α) raw <;> rfl

/-- Leniently an unknown code is as good as none. -/
theorem result_readCode_lenient (column : String) (fallback : Option α) (raw : Option String) :
    (readCode .lenient column fallback raw).result = .ok ((known? raw).or fallback) := by
  unfold readCode
  rw [lookupText_eq]
  cases unknown : unknownText? (codes α) raw with
  | none => rfl
  | some text =>
      rw [known?_of_unknown unknown]
      rfl

end

end CatalogCode

/-! ### The columns of a routine -/

/-- A column of a routine that holds codes. -/
inductive CodeColumn where
  | kind
  | ownerType
  | functionSubtype
  | origin
  | language
  | validity
deriving DecidableEq, Repr

namespace CodeColumn

/-- The name of a column. -/
def name : CodeColumn → String
  | kind => "ROUTINETYPE"
  | ownerType => "OWNERTYPE"
  | functionSubtype => "FUNCTIONTYPE"
  | origin => "ORIGIN"
  | language => "LANGUAGE"
  | validity => "VALID"

/-- The title of the table that a column's codes are in. -/
def table : CodeColumn → String
  | kind => CatalogCode.title RoutineKind
  | ownerType => CatalogCode.title OwnerType
  | functionSubtype => CatalogCode.title FunctionSubtype
  | origin => CatalogCode.title RoutineOrigin
  | language => CatalogCode.title RoutineLanguage
  | validity => CatalogCode.title ValidityState

/-- The codes that a column can hold. -/
def codes : CodeColumn → List String
  | kind => CatalogCode.codes RoutineKind
  | ownerType => CatalogCode.codes OwnerType
  | functionSubtype => CatalogCode.codes FunctionSubtype
  | origin => CatalogCode.codes RoutineOrigin
  | language => CatalogCode.codes RoutineLanguage
  | validity => CatalogCode.codes ValidityState

/-- Whether the codes of a column are padded with blanks. -/
def padded : CodeColumn → Bool
  | language => true
  | _ => false

/-- The columns in the order in which they are read. -/
def inOrder : List CodeColumn :=
  [kind, ownerType, functionSubtype, origin, language, validity]

theorem mem_inOrder (c : CodeColumn) : c ∈ inOrder := by
  cases c <;> decide

theorem name_injective : Function.Injective name := by
  intro c d same
  cases c <;> cases d <;> first | rfl | (revert same; decide)

end CodeColumn

namespace Row

/-- The text of a column that may be padded with blanks. -/
def codeText (row : Row) (column : String) (padded : Bool) : Option String :=
  if padded then (row.textAt column).map stripped else row.textAt column

/-- The text that is read from a code column of a row. -/
def code (row : Row) (c : CodeColumn) : Option String :=
  row.codeText c.name c.padded

/-- The unknown code that a column of a row holds, if it does. -/
def unknownCode? (row : Row) (c : CodeColumn) : Option String :=
  CatalogCode.unknownText? c.codes (row.code c)

/-- Whether the kind that a row names is that of a function. -/
def isFunction (row : Row) : Bool :=
  CatalogCode.known? (row.code .kind) == some RoutineKind.function

/-- Whether a column is consulted for a row. The type of the owner is there on some servers only, and so
is the subtype, which only a function has. -/
def consults (row : Row) (capabilities : Capabilities) : CodeColumn → Bool
  | .ownerType => capabilities.supports .ownerType
  | .functionSubtype => capabilities.supports .functionSubtype && row.isFunction
  | _ => true

/-- The unknown code in a column that is consulted. -/
def fault? (row : Row) (capabilities : Capabilities) (c : CodeColumn) : Option String :=
  if row.consults capabilities c then row.unknownCode? c else none

end Row

/-- The failure of a mapping that meets an unknown code in a column. -/
def CodeColumn.failure (c : CodeColumn) (text : String) : Failure :=
  .mapping ⟨.unknownLiteral c.table c.name (.text text), none⟩

/-! ### Reading a column -/

namespace Row

section
variable {α : Type} [CatalogCode α] {row row' : Row}

/-- The text of a code column is what is read from it, unless that cannot be printed. -/
theorem codeText_eq (row : Row) (column : String) (padded : Bool) :
    (if padded then row.trimmedText? column else row.text? column) = .ok (row.codeText column padded) ∨
      (if padded then row.trimmedText? column else row.text? column) = .error .longInteger ∧
        row.codeText column padded = none := by
  rcases text?_eq row column with ok | ⟨long, none⟩
  · left
    cases padded
    · exact ok
    · simp only [trimmedText?, ok, codeText, if_true]
      rfl
  · right
    cases padded
    · exact ⟨long, none⟩
    · simp only [trimmedText?, long, codeText, none, if_true]
      exact ⟨rfl, rfl⟩

/-- A column that can be read is looked up. -/
theorem result_code?_of_ok {codes : UnknownCodes} {column : String} {padded : Bool}
    {fallback : Option α} {raw : Option String}
    (read : (if padded then row.trimmedText? column else row.text? column) = .ok raw) :
    (row.code? codes column padded fallback).result = (readCode codes column fallback raw).result :=
  Logged.result_bind_of_ok _ read

/-- A column that cannot be read is a failure under either treatment. -/
theorem result_code?_of_error {codes : UnknownCodes} {column : String} {padded : Bool}
    {fallback : Option α} {f : Failure}
    (failed : (if padded then row.trimmedText? column else row.text? column) = .error f) :
    (row.code? codes column padded fallback).result = .error f := by
  rw [Row.code?, Logged.result_bind, Logged.result_ofExcept, failed]
  rfl

/-- Strictly a column that can be read fails for an unknown code only. -/
theorem Spellable.result_code? (spellable : row.Spellable) (column : String) (padded : Bool)
    (fallback : Option α) : (row.code? .strict column padded fallback).result =
      match CatalogCode.unknownText? (CatalogCode.codes α) (row.codeText column padded) with
      | some text => .error (CatalogCode.unknown α column (.text text))
      | none => .ok ((CatalogCode.known? (row.codeText column padded)).or fallback) := by
  have read : (if padded then row.trimmedText? column else row.text? column) =
      .ok (row.codeText column padded) := by
    cases padded
    · exact spellable.text? column
    · exact spellable.trimmedText? column
  rw [result_code?_of_ok read, CatalogCode.result_readCode_strict]

/-- Whatever a column is read as, the member is the one that its text stands for. -/
theorem eq_known?_of_code? {codes : UnknownCodes} {column : String} {padded : Bool}
    {fallback found : Option α} (read : (row.code? codes column padded fallback).result = .ok found) :
    found = (CatalogCode.known? (row.codeText column padded)).or fallback := by
  rcases codeText_eq row column padded with ok | ⟨long, _⟩
  · rw [result_code?_of_ok ok] at read
    cases codes with
    | lenient =>
        rw [CatalogCode.result_readCode_lenient] at read
        exact (Except.ok.inj read).symm
    | strict =>
        rw [CatalogCode.result_readCode_strict] at read
        split at read
        case h_1 => cases read
        case h_2 => exact (Except.ok.inj read).symm
  · rw [result_code?_of_error long] at read
    cases read

/-- Whether the subtype is consulted depends on the kind that was read. -/
theorem consults_functionSubtype {codes : UnknownCodes} {kind : Option RoutineKind}
    (capabilities : Capabilities)
    (read : (row.code? codes "ROUTINETYPE" false none).result = .ok kind) :
    (capabilities.supports .functionSubtype && kind == some .function) =
      row.consults capabilities .functionSubtype := by
  rw [eq_known?_of_code? read, Option.or_none]
  rfl

/-- Reading a column leniently gives what reading it strictly gives in a row where the column is null
if it holds an unknown code, and is the same otherwise. -/
theorem result_code?_lenient {column : String} {padded : Bool} (fallback : Option α)
    (null : ∀ text, CatalogCode.unknownText? (CatalogCode.codes α) (row.codeText column padded) =
      some text → row'.get column = .null)
    (same : CatalogCode.unknownText? (CatalogCode.codes α) (row.codeText column padded) = none →
      row'.get column = row.get column) :
    (row.code? .lenient column padded fallback).result =
      (row'.code? .strict column padded fallback).result := by
  cases unknown : CatalogCode.unknownText? (CatalogCode.codes α) (row.codeText column padded) with
  | none =>
      have text := text?_congr (same unknown)
      have trimmed := trimmedText?_congr (same unknown)
      rcases codeText_eq row column padded with ok | ⟨long, _⟩
      · rw [result_code?_of_ok ok, CatalogCode.result_readCode_lenient]
        rw [← text, ← trimmed] at ok
        rw [result_code?_of_ok ok, CatalogCode.result_readCode_strict, unknown]
      · rw [result_code?_of_error long]
        rw [← text, ← trimmed] at long
        rw [result_code?_of_error long]
  | some text =>
      have absent : row'.text? column = .ok none := by
        simp only [Row.text?, null text unknown]
      have read' : (if padded then row'.trimmedText? column else row'.text? column) = .ok none := by
        cases padded
        · exact absent
        · simp only [trimmedText?, absent, if_true]
          rfl
      rcases codeText_eq row column padded with ok | ⟨_, none⟩
      · rw [result_code?_of_ok ok, CatalogCode.result_readCode_lenient,
          CatalogCode.known?_of_unknown unknown, result_code?_of_ok read',
          CatalogCode.result_readCode_strict]
        rfl
      · rw [none] at unknown
        cases unknown

end

end Row

end Syscat
