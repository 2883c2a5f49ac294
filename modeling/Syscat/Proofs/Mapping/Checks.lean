/-
Module: Syscat.Proofs.Mapping.Checks
Purpose: What a mapping checks, and in which order. Each check is stated on its own. Under the strict
  treatment of unknown codes a row is mapped exactly if every check passes, and otherwise the first check
  that does not pass is the failure. The naming rule is asked once, and only for a routine whose name and
  container are known.
Main exports: Check, Check.inOrder, Check.problem?, NamingRule.recorded, decided_mapRoutine,
  mapRoutine_checks, not_forall_mapping_error
-/
import Syscat.Proofs.Mapping.Decided

namespace Syscat

/-! ### The checks -/

/-- The failure of a mapping that meets a problem. A problem that cannot be put into words because of an
integer's length gives way to that. -/
def MappingProblem.failure (problem : MappingProblem) (rowName : Option String) : Failure :=
  match problem.message? with
  | some _ => .mapping ⟨problem, rowName⟩
  | none => .longInteger

theorem MappingProblem.failure_withRowName (problem : MappingProblem) (name : String) :
    (problem.failure none).withRowName name = problem.failure (some name) := by
  unfold failure
  cases problem.message? <;> rfl

/-- The name of the routine that a row is about, empty if the row does not say. -/
def RowSource.routineName (source : RowSource) : String :=
  (source.cells.textAt "ROUTINENAME").getD ""

/-- What is wrong with an answer of a naming rule. -/
def answerProblem? (name : String) : Except Signal Value → Option MappingProblem
  | .ok (.text s) => if s = "" then some (.namingReturned name (.text s)) else none
  | .ok v => some (.namingReturned name v)
  | .error signal => some (.namingRaised name signal)

/-- What a mapping checks: that it is given a row, that this names a routine, that the owner belongs to a
schema, that the naming rule gives a name, and the columns that hold codes. -/
inductive Check where
  | rowType
  | name
  | container
  | naming
  | code (c : CodeColumn)

namespace Check

/-- The checks in the order in which they are made. -/
def inOrder : List Check :=
  [rowType, name, container, naming] ++ CodeColumn.inOrder.map code

/-- The checks before the naming rule is asked. -/
def beforeNaming : List Check := [rowType, name, container]

section
variable (source : RowSource) (owner : Owner) (capabilities : Capabilities) (rule : NamingRule)

/-- The problem that a check finds, whatever the others find. -/
def problem? : Check → Option MappingProblem
  | rowType => source.unsupported?.map .unsupportedRow
  | name => if source.routineName = "" then some (.missingColumn "Catalog" "ROUTINENAME") else none
  | container => if owner.schema?.isNone then some (.unresolvable owner) else none
  | naming => answerProblem? source.routineName (rule owner source.routineName)
  | code c => (source.cells.fault? capabilities c).map fun text =>
      .unknownLiteral c.table c.name (.text text)

/-- The name of the routine as far as a check knows it. -/
def rowName? : Check → Option String
  | rowType => none
  | name => none
  | _ => some source.routineName

/-- The failure of a mapping whose first problem is the one that a check finds. -/
def failure? (check : Check) : Option Failure :=
  (check.problem? source owner capabilities rule).map fun problem =>
    problem.failure (check.rowName? source)

end

end Check

/-! ### The mapping of a row -/

section
variable {source : RowSource} {owner : Owner}

/-- The owner is checked for a schema. -/
theorem decided_resolveOwner (owner : Owner) :
    Logged.Decided
      ((if owner.schema?.isNone then some (MappingProblem.unresolvable owner) else none).map
        fun problem => problem.failure none)
      (.ofExcept (resolveOwner owner)) := by
  cases resolved : owner.schema? with
  | none =>
      have unresolved : resolveOwner owner = .error (.ofProblem (.unresolvable owner)) := by
        cases owner <;> simp only [resolveOwner, resolved] <;> rfl
      rw [unresolved]
      rfl
  | some schema =>
      cases owner with
      | other v => cases resolved
      | container c =>
          refine ⟨(c, schema), ?_⟩
          simp only [Logged.result_ofExcept, resolveOwner, resolved]

/-- An answer that is no text is a problem. -/
theorem namingAnswer_of_no_text (name : String) {v : Value} (noText : ∀ s, v ≠ .text s) :
    answerProblem? name (.ok v) = some (.namingReturned name v) ∧
      namingAnswer name (.ok v) = .error (.ofProblem (.namingReturned name v)) := by
  cases v with
  | text s => exact absurd rfl (noText s)
  | _ => exact ⟨rfl, rfl⟩

/-- The answer of a naming rule is checked for a name. -/
theorem decided_namingAnswer (name : String) {answer : Except Signal Value}
    (ordinary : ∀ signal, answer = .error signal → signal.ordinary = true) :
    Logged.Decided ((answerProblem? name answer).map fun problem => problem.failure none)
      (.ofExcept (namingAnswer name answer)) := by
  cases answer with
  | error signal =>
      simp only [namingAnswer, ordinary signal rfl, if_true]
      rfl
  | ok v =>
      by_cases text : ∃ s, v = .text s
      · obtain ⟨s, rfl⟩ := text
        by_cases empty : s = ""
        · simp only [answerProblem?, namingAnswer, empty, if_true, dif_pos]
          rfl
        · simp only [answerProblem?, namingAnswer, empty, if_false, dif_neg, not_false_eq_true]
          exact ⟨_, rfl⟩
      · obtain ⟨problem, failed⟩ := namingAnswer_of_no_text name (not_exists.mp text)
        rw [problem, failed]
        rfl

/-- A source is checked for a row. -/
theorem decided_readRow (spellable : source.Spellable) (owner : Owner) (capabilities : Capabilities)
    (rule : NamingRule) :
    Logged.Decided (Check.rowType.failure? source owner capabilities rule)
      (.ofExcept (readRow source)) := by
  unfold Check.failure? Check.problem?
  cases unsupported : source.unsupported? with
  | some v => exact readRow_of_unsupported unsupported
  | none =>
      obtain ⟨row, read, _⟩ := spellable.readRow unsupported
      exact ⟨row, read⟩

/-- A row is checked for the name of a routine. -/
theorem decided_routineName {row : Row} (read : readRow source = .ok row)
    (spellable : row.Spellable) (owner : Owner) (capabilities : Capabilities) (rule : NamingRule) :
    Logged.Decided (Check.name.failure? source owner capabilities rule)
        (.ofExcept (routineName row)) ∧
      ∀ name, routineName row = .ok name → name.val = source.routineName := by
  have name_eq : routineName row =
      if h : source.routineName = "" then
        .error (.ofProblem (.missingColumn "Catalog" "ROUTINENAME"))
      else .ok ⟨source.routineName, h⟩ := by
    rw [routineName, spellable.text? "ROUTINENAME", ← cells_of_readRow read]
    rfl
  unfold Check.failure? Check.problem?
  by_cases empty : source.routineName = ""
  · rw [name_eq, dif_pos empty, if_pos empty]
    exact ⟨rfl, nofun⟩
  · rw [name_eq, dif_neg empty, if_neg empty]
    refine ⟨⟨_, rfl⟩, fun name named => ?_⟩
    rw [← Except.ok.inj named]

/-- What is asked of a row before the naming rule is. -/
theorem decided_readNamedRow (spellable : source.Spellable) (owner : Owner)
    (capabilities : Capabilities) (rule : NamingRule) :
    Logged.Decided (Check.beforeNaming.findSome? (Check.failure? source owner capabilities rule))
      (.ofExcept (readNamedRow source owner)) := by
  simp only [readNamedRow, Logged.ofExcept_bind, Check.beforeNaming, findSome?_cons_or,
    List.findSome?_nil, Option.or_none]
  refine (decided_readRow spellable owner capabilities rule).andThen fun row read => ?_
  obtain ⟨decided, val⟩ :=
    decided_routineName read (spellable.row_spellable read) owner capabilities rule
  refine decided.andThen fun name named => ?_
  have container : Check.container.failure? source owner capabilities rule =
      ((if owner.schema?.isNone then some (MappingProblem.unresolvable owner) else none).map
        fun problem => problem.failure none).map (Failure.withRowName name.val) := by
    simp only [Check.failure?, Check.problem?, Check.rowName?, Option.map_map, Function.comp_def,
      MappingProblem.failure_withRowName, val name named]
  rw [container, ← Option.or_none (o := Option.map (Failure.withRowName name.val) _)]
  exact ((decided_resolveOwner owner).mapFailure _).bind fun found => .pure _

theorem decided_describe {subject : NamedRow} (spellable : subject.row.Spellable)
    (capabilities : Capabilities) {answer : Except Signal Value}
    (ordinary : ∀ signal, answer = .error signal → signal.ordinary = true) :
    Logged.Decided
      ((((answerProblem? subject.name.val answer).map fun problem => problem.failure none).or
        (subject.row.firstFault? capabilities CodeColumn.inOrder)).map
          (Failure.withRowName subject.name.val))
      (subject.describe capabilities .strict [] answer) := by
  refine Logged.Decided.mapFailure ?_ _
  refine (decided_namingAnswer _ ordinary).bind fun qualifiedName => ?_
  rw [← Option.or_none (o := subject.row.firstFault? capabilities CodeColumn.inOrder)]
  refine (Row.decided_readRoutine spellable capabilities _ _ _ _).bind fun routine => ?_
  exact ⟨routine, rfl⟩

/-- The failure of a check of a code column is that of an unknown code in it. -/
theorem failure?_code (capabilities : Capabilities) (rule : NamingRule) (c : CodeColumn) :
    (Check.code c).failure? source owner capabilities rule =
      (source.cells.faultFailure? capabilities c).map (Failure.withRowName source.routineName) := by
  unfold Check.failure? Check.problem? Row.faultFailure?
  rw [Option.map_map, Option.map_map]
  rfl

/-- The failure that comes first is one of those before the naming rule is asked, or one of the answer and
the columns. -/
theorem firstFailure_eq (capabilities : Capabilities) (rule : NamingRule) :
    Check.inOrder.findSome? (Check.failure? source owner capabilities rule) =
      (Check.beforeNaming.findSome? (Check.failure? source owner capabilities rule)).or
        ((Check.naming.failure? source owner capabilities rule).or
          ((source.cells.firstFault? capabilities CodeColumn.inOrder).map
            (Failure.withRowName source.routineName))) := by
  have columns : (CodeColumn.inOrder.map Check.code).findSome?
      (Check.failure? source owner capabilities rule) =
        (source.cells.firstFault? capabilities CodeColumn.inOrder).map
          (Failure.withRowName source.routineName) := by
    rw [List.findSome?_map, Row.firstFault?, List.map_findSome?]
    exact congrArg (CodeColumn.inOrder.findSome? ·) (funext fun c => failure?_code capabilities rule c)
  have split : Check.inOrder =
      Check.beforeNaming ++ ([.naming] ++ CodeColumn.inOrder.map Check.code) := rfl
  rw [split, List.findSome?_append, List.findSome?_append, columns, findSome?_cons_or,
    List.findSome?_nil, Option.or_none]

/-- Strictly a mapping fails for the first check that finds a problem only. -/
theorem decided_mapRoutine (spellable : source.Spellable) (capabilities : Capabilities)
    {options : MappingOptions} (ordinary : options.naming.Ordinary)
    (strict : options.unknownCodes = .strict) (plain : options.overrides = []) :
    Logged.Decided
      (Check.inOrder.findSome? (Check.failure? source owner capabilities options.naming))
      (mapRoutine source owner capabilities options) := by
  rw [mapRoutine_eq, firstFailure_eq, strict, plain]
  refine (decided_readNamedRow spellable owner capabilities options.naming).andThen
    fun subject named => ?_
  obtain ⟨read, found, _⟩ := readNamedRow_eq_ok named
  have row_spellable := spellable.row_spellable read
  have name := (decided_routineName read row_spellable owner capabilities options.naming).2 _ found
  have decided := decided_describe row_spellable capabilities
    (ordinary owner subject.name.val)
  -- the check asks about the name in the row, the mapping about the name that it has read
  have naming : Check.naming.failure? source owner capabilities options.naming =
      ((answerProblem? subject.name.val (options.naming owner subject.name.val)).map
        fun problem => problem.failure none).map (Failure.withRowName subject.name.val) := by
    simp only [Check.failure?, Check.problem?, Check.rowName?, Option.map_map, Function.comp_def,
      MappingProblem.failure_withRowName, name]
  rw [Option.map_or, ← naming, ← cells_of_readRow read, name] at decided
  rwa [name]

end

/-! ### Asking the naming rule -/

/-- A naming rule that keeps a record of what it is asked. -/
def NamingRule.recorded (rule : NamingRule) (owner : Owner) (name : String) :
    StateM (List (Owner × String)) (Except Signal Value) := do
  modify (· ++ [(owner, name)])
  return rule owner name

/-- The rule is asked once if the checks before pass, and is not asked otherwise. -/
theorem mapRoutineAsking_recorded {source : RowSource} (spellable : source.Spellable) (owner : Owner)
    (capabilities : Capabilities) (options : MappingOptions) :
    (mapRoutineAsking options.naming.recorded source owner capabilities options.unknownCodes
      options.overrides).run [] =
        (mapRoutine source owner capabilities options,
          if (Check.beforeNaming.findSome?
            (Check.failure? source owner capabilities options.naming)).isNone then
            [(owner, source.routineName)]
          else []) := by
  have decided := decided_readNamedRow spellable owner capabilities options.naming
  unfold mapRoutine mapRoutineAsking
  cases first : Check.beforeNaming.findSome?
      (Check.failure? source owner capabilities options.naming) with
  | some f =>
      rw [first] at decided
      have failed : readNamedRow source owner = .error f := decided
      rw [failed]
      rfl
  | none =>
      rw [first] at decided
      obtain ⟨subject, named⟩ := decided
      have named : readNamedRow source owner = .ok subject := named
      obtain ⟨read, found, _⟩ := readNamedRow_eq_ok named
      have name := (decided_routineName read (spellable.row_spellable read) owner capabilities
        options.naming).2 _ found
      rw [named, ← name]
      rfl

/-! ### What a mapping comes to -/

section
variable {source : RowSource} {owner : Owner} {capabilities : Capabilities} {rule : NamingRule}

theorem failure?_eq_none_iff (check : Check) :
    check.failure? source owner capabilities rule = none ↔
      check.problem? source owner capabilities rule = none :=
  Option.map_eq_none_iff

/-- No failure comes first exactly if no check finds a problem. -/
theorem firstFailure_eq_none_iff (checks : List Check) :
    checks.findSome? (Check.failure? source owner capabilities rule) = none ↔
      ∀ c ∈ checks, c.problem? source owner capabilities rule = none := by
  simp only [List.findSome?_eq_none_iff, failure?_eq_none_iff]

/-- The first problem is the failure that comes first. -/
theorem firstFailure_eq_some {checks before after : List Check} {check : Check}
    {problem : MappingProblem} (split : checks = before ++ check :: after)
    (passes : ∀ c ∈ before, c.problem? source owner capabilities rule = none)
    (found : check.problem? source owner capabilities rule = some problem) :
    checks.findSome? (Check.failure? source owner capabilities rule) =
      some (problem.failure (check.rowName? source)) := by
  refine List.findSome?_eq_some_iff.mpr ⟨before, check, after, split, ?_, fun c inside => ?_⟩
  · rw [Check.failure?, found]
    rfl
  · exact (failure?_eq_none_iff c).mpr (passes c inside)

theorem message?_isSome_of_answerProblem? {name : String} {answer : Except Signal Value}
    {problem : MappingProblem} (found : answerProblem? name answer = some problem)
    (spellable : AnswerSpellable answer) : problem.message?.isSome := by
  unfold answerProblem? at found
  split at found
  case h_1 =>
    split at found
    case isTrue =>
      cases found
      exact MappingProblem.message?_namingReturned name spellable
    case isFalse => cases found
  case h_2 =>
    cases found
    exact MappingProblem.message?_namingReturned name spellable
  case h_3 =>
    cases found
    exact MappingProblem.message?_namingRaised name spellable

/-- A problem that a check finds can be put into words if the owner and the answer of the naming rule
can. -/
theorem message?_isSome_of_problem? {check : Check} {problem : MappingProblem}
    (found : check.problem? source owner capabilities rule = some problem)
    (owner_spellable : owner.Spellable)
    (answer_spellable : AnswerSpellable (rule owner source.routineName)) :
    problem.message?.isSome := by
  cases check with
  | rowType =>
      obtain ⟨v, _, rfl⟩ := Option.map_eq_some_iff.mp found
      rfl
  | name =>
      simp only [Check.problem?] at found
      split at found
      case isTrue =>
        cases found
        rfl
      case isFalse => cases found
  | container =>
      simp only [Check.problem?] at found
      split at found
      case isTrue =>
        cases found
        exact MappingProblem.message?_unresolvable owner_spellable
      case isFalse => cases found
  | naming => exact message?_isSome_of_answerProblem? found answer_spellable
  | code c =>
      obtain ⟨text, _, rfl⟩ := Option.map_eq_some_iff.mp found
      rfl

end

/-- Strictly a row that can be spelled out is mapped exactly if no check finds a problem. Otherwise the
first problem is the failure, which is put into words if the owner and the answer of the naming rule can
be spelled out. The naming rule is asked once if the checks before pass, and is not asked otherwise. -/
theorem mapRoutine_checks (source : RowSource) (owner : Owner) (capabilities : Capabilities)
    (options : MappingOptions) (spellable : source.Spellable) (ordinary : options.naming.Ordinary)
    (strict : options.unknownCodes = .strict) (plain : options.overrides = []) :
    ((∃ routine, (mapRoutine source owner capabilities options).result = .ok routine) ↔
      ∀ check ∈ Check.inOrder, check.problem? source owner capabilities options.naming = none) ∧
    (∀ before check after problem, Check.inOrder = before ++ check :: after →
      (∀ c ∈ before, c.problem? source owner capabilities options.naming = none) →
      check.problem? source owner capabilities options.naming = some problem →
        (mapRoutine source owner capabilities options).result =
            .error (problem.failure (check.rowName? source)) ∧
          (owner.Spellable → AnswerSpellable (options.naming owner source.routineName) →
            problem.failure (check.rowName? source) = .mapping ⟨problem, check.rowName? source⟩)) ∧
    (∃ asked, (mapRoutineAsking options.naming.recorded source owner capabilities options.unknownCodes
          options.overrides).run [] = (mapRoutine source owner capabilities options, asked) ∧
        ((∀ c ∈ Check.beforeNaming, c.problem? source owner capabilities options.naming = none) →
          asked = [(owner, source.routineName)]) ∧
        ((∃ c ∈ Check.beforeNaming, c.problem? source owner capabilities options.naming ≠ none) →
          asked = [])) := by
  have decided : Logged.Decided _ (mapRoutine source owner capabilities options) :=
    decided_mapRoutine spellable capabilities ordinary strict plain
  refine ⟨decided.ok_iff.trans (firstFailure_eq_none_iff _), ?_, ?_⟩
  · intro before check after problem split passes found
    rw [firstFailure_eq_some split passes found] at decided
    refine ⟨decided, fun owner_spellable answer_spellable => ?_⟩
    obtain ⟨message, shown⟩ := Option.isSome_iff_exists.mp
      (message?_isSome_of_problem? found owner_spellable answer_spellable)
    rw [MappingProblem.failure, shown]
  · refine ⟨_, mapRoutineAsking_recorded spellable owner capabilities options,
      fun passes => if_pos ?_, fun ⟨c, inside, found⟩ => if_neg ?_⟩
    · rw [Option.isNone_iff_eq_none, firstFailure_eq_none_iff]
      exact passes
    · rw [Option.isNone_iff_eq_none, firstFailure_eq_none_iff]
      exact fun passes => found (passes c inside)

/-- The kind is checked before the origin. -/
theorem mapRoutine_checks_strangeRow :
    strangeRow.Spellable ∧ MappingOptions.standard.naming.Ordinary ∧
      MappingOptions.standard.unknownCodes = .strict ∧ MappingOptions.standard.overrides = [] ∧
      (mapRoutine strangeRow .app default .standard).result =
        .error (.mapping
          ⟨.unknownLiteral "RoutineKind" "ROUTINETYPE" (.text "Z"), some "PAY"⟩) := by
  have spellable : strangeRow.Spellable := by
    simp [strangeRow, RowSource.Spellable, Row.Spellable, Value.Spellable]
  have ordinary : MappingOptions.standard.naming.Ordinary := NamingRule.standard_ordinary
  have passes : ∀ c ∈ [Check.rowType, .name, .container, .naming],
      c.problem? strangeRow .app default MappingOptions.standard.naming = none := by
    decide +kernel
  have found : (Check.code .kind).problem? strangeRow .app default MappingOptions.standard.naming =
      some (.unknownLiteral "RoutineKind" "ROUTINETYPE" (.text "Z")) := rfl
  have checks := mapRoutine_checks strangeRow .app default .standard spellable ordinary rfl rfl
  obtain ⟨failed, shown⟩ := checks.2.1 _ _ _ _ rfl passes found
  rw [shown trivial (NamingRule.standard_spellable .app _)] at failed
  exact ⟨spellable, ordinary, rfl, rfl, failed⟩

/-- An owner that is an integer too long to be printed is no mapping problem. -/
theorem not_forall_mapping_error : ¬ ∀ (source : RowSource) (owner : Owner)
    (capabilities : Capabilities) (options : MappingOptions), source.Spellable →
      options.naming.Ordinary → options.unknownCodes = .strict → options.overrides = [] →
      ∀ before check after problem, Check.inOrder = before ++ check :: after →
        (∀ c ∈ before, c.problem? source owner capabilities options.naming = none) →
        check.problem? source owner capabilities options.naming = some problem →
          (mapRoutine source owner capabilities options).result =
            .error (.mapping ⟨problem, check.rowName? source⟩) := by
  intro described
  have spellable : strangeRow.Spellable := by
    simp [strangeRow, RowSource.Spellable, Row.Spellable, Value.Spellable]
  have ordinary : MappingOptions.standard.naming.Ordinary := NamingRule.standard_ordinary
  have passes : ∀ c ∈ [Check.rowType, .name],
      c.problem? strangeRow (.other (.integer Value.leastLong)) default
        MappingOptions.standard.naming = none := by
    decide +kernel
  have problem := described strangeRow (.other (.integer Value.leastLong)) default .standard spellable
    ordinary rfl rfl [.rowType, .name] .container _ _ rfl passes rfl
  have silent : (MappingProblem.unresolvable (.other (.integer Value.leastLong))).message? = none := by
    rw [MappingProblem.message?, Owner.literal?, Value.literal?_leastLong]
    rfl
  have decided : Logged.Decided _
      (mapRoutine strangeRow (.other (.integer Value.leastLong)) default .standard) :=
    decided_mapRoutine spellable default ordinary rfl rfl
  have inOrder : Check.inOrder =
      [.rowType, .name] ++ .container :: .naming :: CodeColumn.inOrder.map .code := rfl
  rw [firstFailure_eq_some inOrder passes rfl, MappingProblem.failure, silent, Logged.decided_some,
    problem] at decided
  cases decided

end Syscat
