/-
Module: Syscat.Proofs.Mapping.Failures
Purpose: Everything that can go wrong when a row is mapped. With a naming rule that answers or signals
  an ordinary failure, the failure is a mapping problem, or an integer in the way has too many digits
  to be printed. An unknown code is among the problems under the strict treatment only.
Main exports: NamingRule.Ordinary, Failure.OfMapping, Maps, reads_details, mapRoutine_eq,
  Routine.ReadFrom, mapRoutine_eq_ok, maps_mapRoutine, maps_mapParameter
-/
import Syscat.Proofs.Mapping.Codes
import Syscat.Proofs.Mapping.Source

namespace Syscat

/-! ### What a caller passes -/

/-- A naming rule gives an answer or signals an ordinary failure, and no request to stop. -/
def NamingRule.Ordinary (rule : NamingRule) : Prop :=
  ∀ owner name signal, rule owner name = .error signal → signal.ordinary = true

/-- Every integer in an answer of a naming rule has at most `digitLimit` digits. -/
def AnswerSpellable : Except Signal Value → Prop
  | .ok v => v.Spellable
  | .error signal => signal.Spellable

/-- The standard rule never asks to stop, and there is no integer in its answers. -/
theorem NamingRule.standard_ordinary : standard.Ordinary := by
  intro owner name signal signalled
  unfold standard at signalled
  split at signalled
  case h_1 => cases signalled
  case h_2 =>
    cases signalled
    rfl

theorem NamingRule.standard_spellable (owner : Owner) (name : String) :
    AnswerSpellable (standard owner name) := by
  unfold standard
  cases owner.qualifiedName? name with
  | none => exact trivial
  | some qualified => exact trivial

/-- Every integer in what a caller names as the owner has at most `digitLimit` digits. -/
def Owner.Spellable : Owner → Prop
  | container _ => True
  | other v => v.Spellable

theorem app_filled : "APP" ≠ "" := by decide

/-- The schema that owns the routines of the examples. -/
def Owner.app : Owner := .container (.schema ⟨⟨"APP", by decide⟩⟩)

/-- A row whose routine is of an unknown kind and has an unknown origin. -/
def strangeRow : RowSource :=
  .read ⟨[("ROUTINENAME", .text "PAY"), ("ROUTINETYPE", .text "Z"), ("ORIGIN", .text "Z")]⟩

theorem Owner.literal?_isSome {owner : Owner} (spellable : owner.Spellable) :
    owner.literal?.isSome := by
  cases owner with
  | container c => rfl
  | other v => exact (Value.literal?_isSome_iff v).mpr spellable

namespace MappingProblem

theorem message?_unresolvable {owner : Owner} (spellable : owner.Spellable) :
    (unresolvable owner).message?.isSome := by
  obtain ⟨literal, shown⟩ := Option.isSome_iff_exists.mp (Owner.literal?_isSome spellable)
  simp only [message?, shown, Option.bind_eq_bind, Option.bind_some]
  rfl

theorem message?_namingReturned (name : String) {v : Value} (spellable : v.Spellable) :
    (namingReturned name v).message?.isSome := by
  obtain ⟨literal, shown⟩ := spellable.literal?
  simp only [message?, shown, Option.bind_eq_bind, Option.bind_some]
  rfl

theorem message?_namingRaised (name : String) {signal : Signal} (spellable : signal.Spellable) :
    (namingRaised name signal).message?.isSome := by
  obtain ⟨message, shown⟩ := Option.isSome_iff_exists.mp (Signal.message?_isSome spellable)
  simp only [message?, shown, Option.bind_eq_bind, Option.bind_some]
  rfl

end MappingProblem

/-! ### Failures of a mapping -/

/-- The failures that a mapping can have under a treatment of unknown codes. If the integers at hand are
`short`, none of them is in the way. A request to stop passes if it `stops` the mapping. -/
def Failure.OfMapping (codes : UnknownCodes) (short : Prop) (stops : Signal → Prop) : Failure → Prop
  | longInteger => ¬ short
  | mapping e => codes = .lenient → e.problem.code ≠ "unknown_enum_literal"
  | signalled signal => stops signal
  | _ => False

section
variable {codes : UnknownCodes} {short : Prop} {stops : Signal → Prop}

/-- A mapping leaves only notices of reading and fails only as mappings can. -/
abbrev Maps {α : Type} (codes : UnknownCodes) (short : Prop) (stops : Signal → Prop)
    (x : Logged α) : Prop :=
  Logged.Confined Notice.OfReading (Failure.OfMapping codes short stops) x

theorem Failure.ofMapping_ofProblem {problem : MappingProblem}
    (other : problem.code ≠ "unknown_enum_literal") (printed : short → problem.message?.isSome) :
    (ofProblem problem).OfMapping codes short stops := by
  unfold ofProblem
  split
  case h_1 => exact fun _ => other
  case h_2 none =>
    intro short
    rw [none] at printed
    cases printed short

theorem Failure.OfMapping.withRowName {f : Failure} (expected : f.OfMapping codes short stops)
    (name : String) : (f.withRowName name).OfMapping codes short stops := by
  cases f with
  | mapping e => exact expected
  | longInteger => exact expected
  | signalled signal => exact expected
  | _ => exact expected.elim

/-- A reading is a part of a mapping. -/
theorem Maps.of_reads {α : Type} {x : Logged α} (reads : Row.Reads short x) :
    Maps codes short stops x := by
  refine reads.mono ?_
  rintro _ ⟨rfl, notShort⟩
  exact notShort

/-! ### Reading the columns -/

variable {row : Row} (spellable : short → row.Spellable)
include spellable

theorem reads_details : Row.Reads short row.details := by
  unfold Row.details
  refine (Row.reads_text? spellable _).bind fun sourceText => ?_
  refine (Row.reads_text? spellable _).bind fun externalName => ?_
  refine (Row.reads_trimmedText? spellable _).bind fun parameterStyle => ?_
  refine (Row.reads_flag? spellable _ _).bind fun deterministic => ?_
  refine (Row.reads_integer? spellable _).bind fun resultSets => ?_
  refine (Row.reads_text? spellable _).bind fun debugMode => ?_
  refine (Row.reads_text? spellable _).bind fun remarks => ?_
  refine (Row.reads_timestamp? spellable _).bind fun createdAt => ?_
  refine (Row.reads_timestamp? spellable _).bind fun alteredAt => ?_
  refine (Row.reads_timestamp? spellable _).bind fun lastRegeneratedAt => ?_
  refine (Row.reads_text? spellable _).bind fun ownerName => ?_
  exact .pure _

theorem reads_readJavaBinding : Row.Reads short (.ofExcept (readJavaBinding row)) := by
  simp only [readJavaBinding, Logged.ofExcept_bind]
  refine (Row.reads_text? spellable _).bind fun jarId => ?_
  refine (Row.reads_text? spellable _).bind fun jarSchema => ?_
  refine (Row.reads_text? spellable _).bind fun jarSignature => ?_
  refine (Row.reads_text? spellable _).bind fun className => ?_
  exact .pure _

omit spellable in
theorem maps_readCode {α : Type} [CatalogCode α] (column : String) (fallback : Option α)
    (raw : Option String) : Maps codes short stops (readCode codes column fallback raw) := by
  unfold readCode
  rw [CatalogCode.lookupText_eq]
  cases CatalogCode.unknownText? (CatalogCode.codes α) raw with
  | none => exact .pure _
  | some text =>
      cases codes with
      | strict => exact .fail nofun
      | lenient => exact (Logged.Confined.note trivial).bind fun _ => .pure _

theorem maps_code? {α : Type} [CatalogCode α] (column : String) (padded : Bool)
    (fallback : Option α) : Maps codes short stops (row.code? codes column padded fallback) := by
  unfold Row.code?
  refine Logged.Confined.bind ?_ fun raw => maps_readCode (α := α) column fallback raw
  cases padded
  · exact Maps.of_reads (Row.reads_text? spellable column)
  · exact Maps.of_reads (Row.reads_trimmedText? spellable column)

theorem maps_classification (capabilities : Capabilities) :
    Maps codes short stops (row.classification capabilities codes) := by
  unfold Row.classification
  refine (maps_code? spellable _ _ _).bind fun kind => ?_
  refine ((maps_code? spellable _ _ _).onlyIf _).bind fun ownerType => ?_
  refine ((Maps.of_reads (Row.reads_text? spellable _)).onlyIf _).bind fun dialect => ?_
  refine ((maps_code? spellable _ _ _).onlyIf _).bind fun functionSubtype => ?_
  exact .pure _

theorem maps_provenance : Maps codes short stops (row.provenance codes) := by
  unfold Row.provenance
  refine (maps_code? spellable _ _ _).bind fun origin => ?_
  refine (maps_code? spellable _ _ _).bind fun language => ?_
  refine (maps_code? spellable _ _ _).bind fun validity => ?_
  exact .pure _

theorem maps_readRoutine (name qualifiedName : FilledText) (container : Container) (schema : Schema)
    (capabilities : Capabilities) :
    Maps codes short stops (readRoutine row name qualifiedName container schema capabilities codes) := by
  unfold readRoutine
  refine (maps_classification spellable _).bind fun classification => ?_
  refine (Maps.of_reads (reads_readJavaBinding spellable)).bind fun javaBinding => ?_
  refine (Maps.of_reads (Row.reads_text? spellable _)).bind fun specificName => ?_
  refine (Maps.of_reads (Row.reads_integer? spellable _)).bind fun routineId => ?_
  refine (maps_provenance spellable).bind fun provenance => ?_
  refine (Maps.of_reads (reads_details spellable)).bind fun details => ?_
  exact .pure _

theorem maps_routineName : Maps codes short stops (.ofExcept (routineName row)) := by
  unfold routineName
  rw [Logged.ofExcept_bind]
  refine (Maps.of_reads (Row.reads_text? spellable _)).bind fun name => ?_
  by_cases empty : name.getD "" = ""
  · simp only [empty, dif_pos]
    exact .fail (Failure.ofMapping_ofProblem (by simp [MappingProblem.code]) fun _ => rfl)
  · simp only [empty, dif_neg, not_false_eq_true]
    exact .pure _

end

/-! ### Mapping a row -/

section
variable {codes : UnknownCodes} {short : Prop} {stops : Signal → Prop}

theorem maps_readRow {source : RowSource} (spellable : short → source.Spellable) :
    Maps codes short stops (.ofExcept (readRow source)) := by
  refine .ofExcept fun f failed => ?_
  rcases readRow_failure failed with rfl | ⟨v, _, rfl⟩
  · intro h
    cases unsupported : source.unsupported? with
    | some v =>
        rw [readRow_of_unsupported unsupported] at failed
        cases failed
    | none =>
        obtain ⟨row, read, _⟩ := (spellable h).readRow unsupported
        rw [failed] at read
        cases read
  · exact fun _ => by simp [MappingProblem.code]

theorem maps_resolveOwner {owner : Owner} (spellable : short → owner.Spellable) :
    Maps codes short stops (.ofExcept (resolveOwner owner)) := by
  unfold resolveOwner
  split
  case h_1 => exact .pure _
  case h_2 =>
    exact .fail (Failure.ofMapping_ofProblem (by simp [MappingProblem.code]) fun h =>
      MappingProblem.message?_unresolvable (spellable h))

theorem maps_overrideFields (overrides : Fields) (routine : Routine) :
    Maps codes short stops (.ofExcept (overrideFields overrides routine)) := by
  unfold overrideFields
  split
  case h_1 => exact .pure _
  case h_2 =>
    exact .fail (Failure.ofMapping_ofProblem (by simp [MappingProblem.code]) fun _ => rfl)

theorem maps_namingReturned (name : String) {v : Value} (spellable : short → v.Spellable) :
    (Failure.ofProblem (.namingReturned name v)).OfMapping codes short stops :=
  Failure.ofMapping_ofProblem (by simp [MappingProblem.code]) fun h =>
    MappingProblem.message?_namingReturned name (spellable h)

/-- An answer of a naming rule is a qualified name, a mapping problem or a request to stop. -/
theorem maps_namingAnswer (name : String) {answer : Except Signal Value}
    (stop : ∀ signal, answer = .error signal → signal.ordinary = false → stops signal)
    (spellable : short → AnswerSpellable answer) :
    Maps codes short stops (.ofExcept (namingAnswer name answer)) := by
  unfold namingAnswer
  split
  case h_1 =>
    split
    case isTrue => exact .fail (maps_namingReturned name spellable)
    case isFalse => exact .pure _
  case h_2 => exact .fail (maps_namingReturned name spellable)
  case h_3 signal =>
    split
    case isFalse request => exact .fail (stop signal rfl (Bool.eq_false_iff.mpr request))
    case isTrue =>
      exact .fail (Failure.ofMapping_ofProblem (by simp [MappingProblem.code]) fun h =>
        MappingProblem.message?_namingRaised name (spellable h))

theorem maps_readNamedRow {source : RowSource} {owner : Owner}
    (source_spellable : short → source.Spellable) (owner_spellable : short → owner.Spellable) :
    Maps codes short stops (.ofExcept (readNamedRow source owner)) := by
  simp only [readNamedRow, Logged.ofExcept_bind]
  refine (maps_readRow source_spellable).andThen fun row read => ?_
  refine (maps_routineName fun h => (source_spellable h).row_spellable read).bind fun name => ?_
  refine Logged.Confined.bind ?_ fun found => .pure _
  exact (maps_resolveOwner owner_spellable).mapFailure fun f expected => expected.withRowName name.val

theorem maps_describe {subject : NamedRow} (capabilities : Capabilities) (overrides : Fields)
    {answer : Except Signal Value} (row_spellable : short → subject.row.Spellable)
    (stop : ∀ signal, answer = .error signal → signal.ordinary = false → stops signal)
    (answer_spellable : short → AnswerSpellable answer) :
    Maps codes short stops (subject.describe capabilities codes overrides answer) := by
  refine Logged.Confined.mapFailure ?_ fun f expected => expected.withRowName subject.name.val
  refine (maps_namingAnswer _ stop answer_spellable).bind fun qualifiedName => ?_
  refine (maps_readRoutine row_spellable _ _ _ _ _).bind fun routine => ?_
  exact maps_overrideFields overrides routine

end

/-- Whoever knows which routine a row is about has read the row, the name and the owner. -/
theorem readNamedRow_eq_ok {source : RowSource} {owner : Owner} {subject : NamedRow}
    (named : readNamedRow source owner = .ok subject) :
    readRow source = .ok subject.row ∧ routineName subject.row = .ok subject.name ∧
      resolveOwner owner = .ok (subject.container, subject.schema) := by
  simp only [readNamedRow, bind_eq_ok_iff, mapError_eq_ok_iff] at named
  obtain ⟨row, read, name, found, ⟨container, schema⟩, resolved, same⟩ := named
  cases same
  exact ⟨read, found, resolved⟩

/-- A mapping finds out which routine a row is about, asks the naming rule and describes the routine. -/
theorem mapRoutine_eq (source : RowSource) (owner : Owner) (capabilities : Capabilities)
    (options : MappingOptions) : mapRoutine source owner capabilities options =
      Logged.ofExcept (readNamedRow source owner) >>= fun subject =>
        subject.describe capabilities options.unknownCodes options.overrides
          (options.naming owner subject.name.val) := by
  unfold mapRoutine mapRoutineAsking
  cases readNamedRow source owner <;> rfl

/-! ### Rows that are mapped -/

/-- The fields of a routine that its row decides on are read from the row. -/
structure Routine.ReadFrom (row : Row) (capabilities : Capabilities) (codes : UnknownCodes)
    (routine : Routine) : Prop where
  classification : (row.classification capabilities codes).result =
    .ok ⟨routine.kind, routine.ownerType, routine.dialect, routine.functionSubtype⟩
  javaBinding : readJavaBinding row = .ok routine.javaBinding
  specificName : row.text? "SPECIFICNAME" = .ok routine.specificName
  routineId : (row.integer? "ROUTINEID").result = .ok routine.routineId
  provenance : (row.provenance codes).result = .ok ⟨routine.origin, routine.language, routine.validity⟩
  details : row.details.result =
    .ok ⟨routine.sourceText, routine.externalName, routine.parameterStyle, routine.deterministic,
      routine.resultSets, routine.debugMode, routine.remarks, routine.createdAt, routine.alteredAt,
      routine.lastRegeneratedAt, routine.ownerName⟩

/-- A reading of a routine passes on the names and the container that it is given. -/
theorem readRoutine_eq_ok {row : Row} {name qualifiedName : FilledText} {container : Container}
    {schema : Schema} {capabilities : Capabilities} {codes : UnknownCodes} {routine : Routine}
    (read : (readRoutine row name qualifiedName container schema capabilities codes).result =
      .ok routine) :
    routine.ReadFrom row capabilities codes ∧ routine.name = name ∧
      routine.qualifiedName = qualifiedName ∧ routine.container = container ∧
      routine.effectiveSchema = schema := by
  simp only [readRoutine, Logged.result_bind, Logged.result_ofExcept, Logged.result_pure,
    bind_eq_ok_iff] at read
  obtain ⟨kinds, classified, binding, bound, specificName, readSpecificName, routineId, readRoutineId,
    origins, placed, details, readDetails, same⟩ := read
  cases same
  exact ⟨⟨classified, bound, readSpecificName, readRoutineId, placed, readDetails⟩, rfl, rfl, rfl, rfl⟩

/-- A descriptor that nothing is overridden in is as it was read. -/
theorem overrideFields_nil (routine : Routine) : overrideFields [] routine = .ok routine := rfl

/-- A routine that a row is mapped to without overrides is read from that row. The naming rule gives its
qualified name, and its owner the container. -/
theorem mapRoutine_eq_ok {source : RowSource} {owner : Owner} {capabilities : Capabilities}
    {options : MappingOptions} {routine : Routine} (plain : options.overrides = [])
    (mapped : (mapRoutine source owner capabilities options).result = .ok routine) :
    ∃ row, readRow source = .ok row ∧ routine.ReadFrom row capabilities options.unknownCodes ∧
      routineName row = .ok routine.name ∧
      resolveOwner owner = .ok (routine.container, routine.effectiveSchema) ∧
      namingAnswer routine.name.val (options.naming owner routine.name.val) =
        .ok routine.qualifiedName := by
  simp only [mapRoutine_eq, NamedRow.describe, plain, overrideFields_nil, Logged.result_bind,
    Logged.result_ofExcept, Logged.result_mapFailure, mapError_eq_ok_iff, bind_eq_ok_iff] at mapped
  obtain ⟨subject, identified, qualifiedName, answered, found, read, same⟩ := mapped
  cases same
  obtain ⟨rowRead, named, resolved⟩ := readNamedRow_eq_ok identified
  obtain ⟨readFrom, name, qualified, container, schema⟩ := readRoutine_eq_ok read
  refine ⟨subject.row, rowRead, readFrom, ?_, ?_, ?_⟩
  · rw [name, named]
  · rw [container, schema, resolved]
  · rw [name, qualified, answered]

section
variable {short : Prop} {stops : Signal → Prop} {source : RowSource}
  (source_spellable : short → source.Spellable)
include source_spellable

/-- What can go wrong when a routine is mapped. -/
theorem maps_mapRoutine {owner : Owner} {options : MappingOptions} (capabilities : Capabilities)
    (stop : ∀ name signal, options.naming owner name = .error signal → signal.ordinary = false →
      stops signal)
    (owner_spellable : short → owner.Spellable)
    (answer_spellable : short → ∀ name, AnswerSpellable (options.naming owner name)) :
    Maps options.unknownCodes short stops (mapRoutine source owner capabilities options) := by
  rw [mapRoutine_eq]
  refine (maps_readNamedRow source_spellable owner_spellable).andThen fun subject named => ?_
  have read := (readNamedRow_eq_ok named).1
  exact maps_describe capabilities options.overrides (fun h => (source_spellable h).row_spellable read)
    (stop subject.name.val) fun h => answer_spellable h subject.name.val

/-- No request to stop comes from an ordinary rule. -/
theorem maps_mapRoutine_of_ordinary {owner : Owner} {options : MappingOptions}
    (capabilities : Capabilities) (ordinary : options.naming.Ordinary)
    (owner_spellable : short → owner.Spellable)
    (answer_spellable : short → ∀ name, AnswerSpellable (options.naming owner name)) :
    Maps options.unknownCodes short (fun _ => False)
      (mapRoutine source owner capabilities options) := by
  refine maps_mapRoutine source_spellable capabilities ?_ owner_spellable answer_spellable
  intro name signal signalled request
  rw [ordinary owner name signal signalled] at request
  cases request

/-- What can go wrong when a parameter is mapped. -/
theorem maps_mapParameter (codes : UnknownCodes) :
    Maps codes short stops (mapParameter source codes) := by
  unfold mapParameter
  refine (maps_readRow source_spellable).andThen fun row read => ?_
  have spellable : short → row.Spellable := fun h => (source_spellable h).row_spellable read
  refine (Maps.of_reads (Row.reads_integer? spellable _)).bind fun ordinal => ?_
  split
  case h_2 =>
    exact .fail (Failure.ofMapping_ofProblem (by simp [MappingProblem.code]) fun _ => rfl)
  case h_1 ordinal =>
    refine (Maps.of_reads (Row.reads_text? spellable _)).bind fun name => ?_
    refine (maps_code? spellable _ _ _).bind fun mode => ?_
    refine (Maps.of_reads (Row.reads_trimmedText? spellable _)).bind fun typeSchema => ?_
    refine (Maps.of_reads (Row.reads_trimmedText? spellable _)).bind fun typeName => ?_
    refine (Maps.of_reads (Row.reads_integer? spellable _)).bind fun length => ?_
    refine (Maps.of_reads (Row.reads_integer? spellable _)).bind fun scale => ?_
    refine (Maps.of_reads (Row.reads_integer? spellable _)).bind fun codepage => ?_
    refine (Maps.of_reads (Row.reads_flag? spellable _ _)).bind fun isLocator => ?_
    refine (Maps.of_reads (Row.reads_text? spellable _)).bind fun defaultValue => ?_
    refine (Maps.of_reads (Row.reads_text? spellable _)).bind fun remarks => ?_
    exact .pure _

end

end Syscat
