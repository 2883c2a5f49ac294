/-
Module: Syscat.Proofs.Mapping.Scan
Purpose: A scan keeps its rows apart. Each row has one outcome, which is what mapping that row alone comes
  to, and one notice more if it could not be mapped. The exception is an integer with too many digits to
  be printed: the first row that meets one ends the scan.
Main exports: OutcomesOf, IsScan, mapRoutines_append, mapRoutines_isolated, not_forall_isScan
-/
import Syscat.Proofs.Mapping.Failures

namespace Syscat

/-! ### What a scan is to come to -/

/-- Whether a notice tells of a row that was not mapped. -/
def Notice.isSkip : Notice → Bool
  | skipped _ _ _ => true
  | _ => false

/-- Whether a mapping gave a routine. -/
def Logged.succeeded {α : Type} (x : Logged α) : Bool :=
  match x.result with
  | .ok _ => true
  | .error _ => false

namespace RowOutcome

/-- The outcome of the row at `index` is what mapping the row alone comes to. -/
structure Tells (index : Nat) (mapped : Logged Routine) (outcome : RowOutcome) : Prop where
  index_eq : outcome.index = index
  result_eq : mapped.result = outcome.result.mapError Failure.mapping

/-- The notice that an outcome calls for. -/
def skip? (outcome : RowOutcome) : Option Notice :=
  match outcome.result with
  | .ok _ => none
  | .error e => some (.skipped outcome.index e.rowName (Failure.mapping e).message)

/-- The outcome of the same row behind `count` others. -/
def behind (count : Nat) (outcome : RowOutcome) : RowOutcome :=
  { outcome with index := count + outcome.index }

end RowOutcome

/-- One outcome for each row, in the order of the rows, which are counted from an index. -/
inductive OutcomesOf (mapRow : RowSource → Logged Routine) :
    Nat → List RowSource → List RowOutcome → Prop where
  | nil (index : Nat) : OutcomesOf mapRow index [] []
  | cons {index : Nat} {source : RowSource} {rows : List RowSource} {outcome : RowOutcome}
      {outcomes : List RowOutcome} (first : outcome.Tells index (mapRow source))
      (rest : OutcomesOf mapRow (index + 1) rows outcomes) :
      OutcomesOf mapRow index (source :: rows) (outcome :: outcomes)

/-- What a scan of rows comes to that keeps them apart. One notice is left for each row that was not
mapped, in the order of the rows, and only the last notice of all is no warning. -/
structure IsScan (mapRow : RowSource → Logged Routine) (rows : List RowSource)
    (scan : Logged (List RowOutcome)) (outcomes : List RowOutcome) : Prop where
  result_eq : scan.result = .ok outcomes
  outcomes_of : OutcomesOf mapRow 0 rows outcomes
  skips : scan.notices.filter Notice.isSkip = outcomes.filterMap RowOutcome.skip?
  closing : ∃ warnings, (∀ n ∈ warnings, n.level = .warning) ∧
    scan.notices = warnings ++ [.scanned (rows.countP fun row => (mapRow row).succeeded) rows.length]

/-! ### One row -/

section
variable {mapped : Logged Routine} {codes : UnknownCodes} {short : Prop}

/-- No notice of reading tells of a row that was not mapped, and each is a warning. -/
theorem Notice.OfReading.facts {n : Notice} (reading : n.OfReading) :
    n.isSkip = false ∧ n.level = .warning := by
  cases n with
  | nonInteger | unparsableTimestamp | downgraded => exact ⟨rfl, rfl⟩
  | skipped | scanned | settingsLoaded | fetchFailed => exact reading.elim

/-- A row has an outcome unless an integer is too long to be printed. -/
theorem outcomeOf_spec (index : Nat) (maps : Maps codes short (fun _ => False) mapped)
    (printed : mapped.result ≠ .error .longInteger) :
    ∃ outcome : RowOutcome, (outcomeOf index mapped).result = .ok outcome ∧
      outcome.Tells index mapped ∧
      (outcomeOf index mapped).notices.filter Notice.isSkip = outcome.skip?.toList ∧
      ∀ n ∈ (outcomeOf index mapped).notices, n.level = .warning := by
  have noSkips : mapped.notices.filter Notice.isSkip = [] := by
    rw [List.filter_eq_nil_iff]
    intro n left
    simp [(maps.notices n left).facts.1]
  have warnings : ∀ n ∈ mapped.notices, n.level = .warning :=
    fun n left => (maps.notices n left).facts.2
  unfold outcomeOf
  cases ended : mapped.result with
  | ok routine => exact ⟨_, rfl, ⟨rfl, ended⟩, noSkips, warnings⟩
  | error f =>
      have expected := maps.failure f ended
      cases f with
      | longInteger => exact absurd ended printed
      | mapping e =>
          refine ⟨_, rfl, ⟨rfl, ended⟩, ?_, fun n left => ?_⟩
          · rw [List.filter_append, noSkips]
            rfl
          · rcases List.mem_append.mp left with before | last
            · exact warnings n before
            · rw [List.mem_singleton.mp last]
              rfl
      | _ => exact expected.elim

theorem outcomeOf_of_longInteger (index : Nat) (long : mapped.result = .error .longInteger) :
    (outcomeOf index mapped).result = .error .longInteger := by
  unfold outcomeOf
  rw [long]

/-- The index of a row does not decide whether it has an outcome. -/
theorem outcomeOf_behind (count index : Nat) (mapped : Logged Routine) :
    (outcomeOf (count + index) mapped).result =
      (outcomeOf index mapped).result.map (RowOutcome.behind count) := by
  unfold outcomeOf
  split <;> rfl

end

/-! ### The rows of a scan -/

section
variable {owner : Owner} {capabilities : Capabilities} {options : MappingOptions}

/-- The outcome of a row goes before the outcomes of the rows behind it. -/
theorem outcomesFrom_cons (index : Nat) (source : RowSource) (rows : List RowSource) :
    outcomesFrom owner capabilities options index (source :: rows) =
      outcomeOf index (mapRoutine source owner capabilities options) >>= fun outcome =>
        outcomesFrom owner capabilities options (index + 1) rows >>= fun outcomes =>
          pure (outcome :: outcomes) := rfl

/-- Rows have outcomes unless an integer in one of them is too long to be printed. -/
theorem outcomesFrom_spec (ordinary : options.naming.Ordinary) (rows : List RowSource) (index : Nat)
    (printed : ∀ source ∈ rows,
      (mapRoutine source owner capabilities options).result ≠ .error .longInteger) :
    ∃ outcomes, (outcomesFrom owner capabilities options index rows).result = .ok outcomes ∧
      OutcomesOf (mapRoutine · owner capabilities options) index rows outcomes ∧
      (outcomesFrom owner capabilities options index rows).notices.filter Notice.isSkip =
        outcomes.filterMap RowOutcome.skip? ∧
      ∀ n ∈ (outcomesFrom owner capabilities options index rows).notices, n.level = .warning := by
  -- along the rows, and for every index, since the rows behind the first are counted from the next one
  induction rows generalizing index with
  | nil => exact ⟨[], rfl, .nil index, rfl, nofun⟩
  | cons source rows ih =>
      have maps : Maps options.unknownCodes False (fun _ => False)
          (mapRoutine source owner capabilities options) :=
        maps_mapRoutine_of_ordinary nofun capabilities ordinary nofun nofun
      obtain ⟨outcome, first, tells, firstSkips, firstWarnings⟩ :=
        outcomeOf_spec index maps (printed source List.mem_cons_self)
      obtain ⟨outcomes, rest, restOf, restSkips, restWarnings⟩ :=
        ih (index + 1) fun other inside => printed other (List.mem_cons_of_mem source inside)
      have notices : (outcomesFrom owner capabilities options index (source :: rows)).notices =
          (outcomeOf index (mapRoutine source owner capabilities options)).notices ++
            (outcomesFrom owner capabilities options (index + 1) rows).notices := by
        rw [outcomesFrom_cons, Logged.notices_bind_of_ok _ first, Logged.notices_bind_of_ok _ rest,
          Logged.notices_pure, List.append_nil]
      refine ⟨outcome :: outcomes, ?_, .cons tells restOf, ?_, fun n left => ?_⟩
      · rw [outcomesFrom_cons, Logged.result_bind_of_ok _ first, Logged.result_bind_of_ok _ rest,
          Logged.result_pure]
      · rw [notices, List.filter_append, firstSkips, restSkips, List.filterMap_cons]
        cases outcome.skip? <;> rfl
      · rw [notices] at left
        exact (List.mem_append.mp left).elim (firstWarnings n) (restWarnings n)

/-- The first row with an integer too long to be printed ends the scan. -/
theorem outcomesFrom_of_longInteger (ordinary : options.naming.Ordinary) {rows : List RowSource}
    {source : RowSource} (inside : source ∈ rows)
    (long : (mapRoutine source owner capabilities options).result = .error .longInteger)
    (index : Nat) :
    (outcomesFrom owner capabilities options index rows).result = .error .longInteger := by
  induction rows generalizing index with
  | nil => cases inside
  | cons head rows ih =>
      rw [outcomesFrom_cons, Logged.result_bind]
      by_cases first : (mapRoutine head owner capabilities options).result = .error .longInteger
      · rw [outcomeOf_of_longInteger index first]
        rfl
      · -- the first row has an outcome, so the integer is in a row behind it
        have maps : Maps options.unknownCodes False (fun _ => False)
            (mapRoutine head owner capabilities options) :=
          maps_mapRoutine_of_ordinary nofun capabilities ordinary nofun nofun
        obtain ⟨outcome, ok, _⟩ := outcomeOf_spec index maps first
        have behind : source ∈ rows := by
          rcases List.mem_cons.mp inside with rfl | behind
          · exact absurd long first
          · exact behind
        rw [ok]
        change (_ >>= _ : Logged (List RowOutcome)).result = _
        rw [Logged.result_bind, ih behind (index + 1)]
        rfl

/-- The rows behind others have the same outcomes, with greater indices. -/
theorem outcomesFrom_behind (count index : Nat) (rows : List RowSource) :
    (outcomesFrom owner capabilities options (count + index) rows).result =
      (outcomesFrom owner capabilities options index rows).result.map
        (List.map (RowOutcome.behind count)) := by
  induction rows generalizing index with
  | nil => rfl
  | cons source rows ih =>
      have next := ih (index + 1)
      rw [← Nat.add_assoc] at next
      simp only [outcomesFrom_cons, Logged.result_bind, outcomeOf_behind, next, Logged.result_pure]
      cases (outcomeOf index (mapRoutine source owner capabilities options)).result with
      | error e => rfl
      | ok outcome =>
          cases (outcomesFrom owner capabilities options (index + 1) rows).result <;> rfl

/-- The outcomes of rows followed by others are theirs followed by those of the others. -/
theorem outcomesFrom_append (rows rows' : List RowSource) (index : Nat) :
    (outcomesFrom owner capabilities options index (rows ++ rows')).result = do
      let outcomes ← (outcomesFrom owner capabilities options index rows).result
      let outcomes' ← (outcomesFrom owner capabilities options (rows.length + index) rows').result
      return outcomes ++ outcomes' := by
  induction rows generalizing index with
  | nil =>
      rw [List.nil_append, List.length_nil, Nat.zero_add]
      change _ = (outcomesFrom owner capabilities options index rows').result >>= fun outcomes' =>
        Except.ok outcomes'
      cases (outcomesFrom owner capabilities options index rows').result <;> rfl
  | cons source rows ih =>
      have here : rows.length + (index + 1) = (source :: rows).length + index := by
        rw [List.length_cons]
        omega
      have next := ih (index + 1)
      rw [here] at next
      simp only [List.cons_append, outcomesFrom_cons, Logged.result_bind, next, Logged.result_pure]
      cases (outcomeOf index (mapRoutine source owner capabilities options)).result with
      | error e => rfl
      | ok outcome =>
          cases (outcomesFrom owner capabilities options (index + 1) rows).result with
          | error e => rfl
          | ok outcomes =>
              cases (outcomesFrom owner capabilities options ((source :: rows).length + index)
                rows').result <;> rfl

/-! ### A scan -/

/-- A scan gives the outcomes of its rows. -/
theorem result_mapRoutines (rows : List RowSource) :
    (mapRoutines rows owner capabilities options).result =
      (outcomesFrom owner capabilities options 0 rows).result := by
  unfold mapRoutines
  rw [Logged.result_bind]
  cases (outcomesFrom owner capabilities options 0 rows).result <;> rfl

/-- As many outcomes are mapped as there are rows that can be mapped. -/
theorem OutcomesOf.count {mapRow : RowSource → Logged Routine} {index : Nat} {rows : List RowSource}
    {outcomes : List RowOutcome} (outcomesOf : OutcomesOf mapRow index rows outcomes) :
    (outcomes.filter RowOutcome.isMapped).length =
        rows.countP (fun row => (mapRow row).succeeded) ∧
      outcomes.length = rows.length := by
  induction outcomesOf with
  | nil index => exact ⟨rfl, rfl⟩
  | @cons index source rows outcome outcomes first rest ih =>
      have same : outcome.isMapped = (mapRow source).succeeded := by
        rw [RowOutcome.isMapped, Logged.succeeded, first.result_eq]
        cases outcome.result <;> rfl
      rw [List.countP_cons, List.filter_cons, ← same, ← ih.1, List.length_cons, List.length_cons, ih.2]
      cases outcome.isMapped <;> exact ⟨rfl, rfl⟩

/-- A scan goes through unless an integer in a row is too long to be printed. -/
theorem isScan_mapRoutines (ordinary : options.naming.Ordinary) {rows : List RowSource}
    (printed : ∀ source ∈ rows,
      (mapRoutine source owner capabilities options).result ≠ .error .longInteger) :
    ∃ outcomes, IsScan (mapRoutine · owner capabilities options) rows
      (mapRoutines rows owner capabilities options) outcomes := by
  obtain ⟨outcomes, ok, outcomesOf, skips, warnings⟩ := outcomesFrom_spec ordinary rows 0 printed
  have notices : (mapRoutines rows owner capabilities options).notices =
      (outcomesFrom owner capabilities options 0 rows).notices ++
        [.scanned (outcomes.filter RowOutcome.isMapped).length outcomes.length] := by
    unfold mapRoutines
    rw [Logged.notices_bind_of_ok _ ok]
    rfl
  refine ⟨outcomes, ⟨(result_mapRoutines rows).trans ok, outcomesOf, ?_, ?_⟩⟩
  · rw [notices, List.filter_append, skips]
    exact List.append_nil _
  · rw [outcomesOf.count.1, outcomesOf.count.2] at notices
    exact ⟨_, warnings, notices⟩

/-- A scan of rows and others is a scan of the rows followed by one of the others, whose indices go
on. -/
theorem mapRoutines_append (rows rows' : List RowSource) :
    (mapRoutines (rows ++ rows') owner capabilities options).result = do
      let outcomes ← (mapRoutines rows owner capabilities options).result
      let outcomes' ← (mapRoutines rows' owner capabilities options).result
      return outcomes ++ outcomes'.map (RowOutcome.behind rows.length) := by
  simp only [result_mapRoutines, outcomesFrom_append, outcomesFrom_behind]
  cases (outcomesFrom owner capabilities options 0 rows).result with
  | error e => rfl
  | ok outcomes => cases (outcomesFrom owner capabilities options 0 rows').result <;> rfl

end

/-- A scan keeps its rows apart unless an integer in the way of one of them is too long to be printed,
which ends the scan. No such integer is in the way if those in the rows, in the owner and in the answers
of the naming rule have at most `digitLimit` digits. Two scans in a row are one scan. -/
theorem mapRoutines_isolated (owner : Owner) (capabilities : Capabilities) (options : MappingOptions)
    (ordinary : options.naming.Ordinary) :
    (∀ rows : List RowSource,
      (∀ source ∈ rows, (mapRoutine source owner capabilities options).result ≠ .error .longInteger) →
        ∃ outcomes, IsScan (mapRoutine · owner capabilities options) rows
          (mapRoutines rows owner capabilities options) outcomes) ∧
    (∀ rows : List RowSource, ∀ source ∈ rows,
      (mapRoutine source owner capabilities options).result = .error .longInteger →
        (mapRoutines rows owner capabilities options).result = .error .longInteger) ∧
    (owner.Spellable → (∀ name, AnswerSpellable (options.naming owner name)) →
      ∀ source : RowSource, source.Spellable →
        (mapRoutine source owner capabilities options).result ≠ .error .longInteger) ∧
    (∀ rows rows' : List RowSource,
      (mapRoutines (rows ++ rows') owner capabilities options).result = do
        let outcomes ← (mapRoutines rows owner capabilities options).result
        let outcomes' ← (mapRoutines rows' owner capabilities options).result
        return outcomes ++ outcomes'.map (RowOutcome.behind rows.length)) := by
  refine ⟨fun rows printed => isScan_mapRoutines ordinary printed, ?_, ?_, mapRoutines_append⟩
  · intro rows source inside long
    rw [result_mapRoutines]
    exact outcomesFrom_of_longInteger ordinary inside long 0
  · intro ownerSpellable answerSpellable source spellable long
    have maps : Maps options.unknownCodes True (fun _ => False)
        (mapRoutine source owner capabilities options) :=
      maps_mapRoutine_of_ordinary (fun _ => spellable) capabilities ordinary (fun _ => ownerSpellable)
        fun _ => answerSpellable
    exact maps.failure _ long trivial

/-- A row without a name and a value that is no row take nothing from the row between them. -/
theorem mapRoutines_isolated_threeRows :
    MappingOptions.standard.naming.Ordinary ∧
      ∃ outcomes, IsScan (mapRoutine · .app default .standard)
        [.read ⟨[]⟩, .read ⟨[("ROUTINENAME", .text "PAY")]⟩, .value .null]
        (mapRoutines [.read ⟨[]⟩, .read ⟨[("ROUTINENAME", .text "PAY")]⟩, .value .null] .app default
          .standard)
        outcomes := by
  have ordinary : MappingOptions.standard.naming.Ordinary := NamingRule.standard_ordinary
  have isolated := mapRoutines_isolated .app default .standard ordinary
  refine ⟨ordinary, isolated.1 _ fun source inside => isolated.2.2.1 trivial ?_ source ?_⟩
  · exact NamingRule.standard_spellable .app
  · simp only [List.mem_cons, List.not_mem_nil, or_false] at inside
    rcases inside with rfl | rfl | rfl <;> simp [RowSource.Spellable, Row.Spellable, Value.Spellable]

/-- A failure to read the name of a routine is the failure of the mapping. -/
theorem mapRoutine_of_text?_error {row : Row} {f : Failure} {owner : Owner}
    {capabilities : Capabilities} {options : MappingOptions}
    (failed : row.text? "ROUTINENAME" = .error f) :
    (mapRoutine (.read row) owner capabilities options).result = .error f := by
  have name : routineName row = .error f := by
    rw [routineName, failed]
    rfl
  have subject : readNamedRow (.read row) owner = .error f := by
    change (routineName row >>= _) = _
    rw [name]
    rfl
  rw [mapRoutine_eq, subject]
  rfl

/-- A row whose routine's name is the least integer that is too long to be printed. -/
def longNameRow : Row := ⟨[("ROUTINENAME", .integer Value.leastLong)]⟩

theorem text?_longNameRow : longNameRow.text? "ROUTINENAME" = .error .longInteger := by
  have upper : uppercased "ROUTINENAME" = "ROUTINENAME" := by decide +kernel
  have value : longNameRow.get "ROUTINENAME" = .integer Value.leastLong := by
    simp [Row.get, longNameRow, upper]
  have text : Row.textOf? (.integer Value.leastLong) = none := Value.text?_leastLong
  simp only [Row.text?, value, text]
  rfl

/-- A routine's name that is such an integer ends the scan, and the row before is lost with it. -/
theorem not_forall_isScan : ¬ ∀ (rows : List RowSource) (owner : Owner) (capabilities : Capabilities)
    (options : MappingOptions), options.naming.Ordinary →
      ∃ outcomes, IsScan (mapRoutine · owner capabilities options) rows
        (mapRoutines rows owner capabilities options) outcomes := by
  intro isolated
  have ordinary : MappingOptions.standard.naming.Ordinary := NamingRule.standard_ordinary
  obtain ⟨outcomes, scan⟩ := isolated
    [.read ⟨[("ROUTINENAME", .text "PAY")]⟩, .read longNameRow] .app default .standard ordinary
  have inside : RowSource.read longNameRow ∈
      [.read ⟨[("ROUTINENAME", .text "PAY")]⟩, .read longNameRow] :=
    List.mem_cons_of_mem _ List.mem_cons_self
  have ends := scan.result_eq
  rw [result_mapRoutines, outcomesFrom_of_longInteger ordinary inside
    (mapRoutine_of_text?_error text?_longNameRow)] at ends
  cases ends

end Syscat
