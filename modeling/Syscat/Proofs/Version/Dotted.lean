/-
Module: Syscat.Proofs.Version.Dotted
Purpose: Which texts are versions and which numbers they denote. A version is made of runs of digits
  with single points between them; a line end may stand behind the last run, and nothing else may
  stand anywhere.
Main exports: Version.Dotted, Version.Dotted.Spells, Version.parse_text, Version.parse_dotted,
  Version.not_forall_unended
-/
import Syscat.Proofs.Number.Grouped
import Syscat.Proofs.Results
import Syscat.Proofs.Text.Part
import Syscat.Version

namespace Syscat

namespace Version

/-! ### Versions and their texts -/

theorem parse_eq_ok_iff {s : String} {v : Version} :
    parse s = .ok v ↔ v.text = s ∧ components s = .ok v.numbers := by
  obtain ⟨text, numbers, denotes⟩ := v
  unfold parse
  constructor
  · intro read
    split at read
    case h_1 => cases read; exact ⟨rfl, denotes⟩
    case h_2 => cases read
  · rintro ⟨rfl, found⟩
    split
    case h_1 other same => cases found.symm.trans same; rfl
    case h_2 e failed => cases found.symm.trans failed

/-- A version is read back from its text. -/
theorem parse_text (v : Version) : parse v.text = .ok v :=
  parse_eq_ok_iff.mpr ⟨rfl, v.denotes⟩

theorem parse_eq_error {s : String} {e : VersionError} (failed : components s = .error e) :
    parse s = .error e := by
  unfold parse
  split
  case h_1 numbers read => cases failed.symm.trans read
  case h_2 e' failed' => rw [Except.error.inj (failed.symm.trans failed')]

/-! ### Runs of digits -/

/-- The number that a run of digits of any script stands for, the digit in front being the most
significant. -/
def runValue (run : List Char) : Nat :=
  Nat.ofDigits 10 (run.filterMap digitValue?).reverse

/-- Runs of digits: one at least, and none that is empty. -/
structure Dotted where
  runs : List (List Char)
  any : runs ≠ []
  filled : ∀ run ∈ runs, run ≠ []
  digits : ∀ run ∈ runs, ∀ c ∈ run, isDigit c = true

namespace Dotted

/-- The runs with single points between them. -/
def chars (d : Dotted) : List Char :=
  ['.'].intercalate d.runs

/-- The numbers of the runs in order. -/
def numbers (d : Dotted) : List Nat :=
  d.runs.map runValue

/-- No run has more digits than can be read. -/
def Short (d : Dotted) : Prop :=
  ∀ run ∈ d.runs, run.length ≤ digitLimit

/-- A text is made of the runs, with or without a line end behind them. -/
def Spells (d : Dotted) (s : String) : Prop :=
  s.toList = d.chars ∨ s.toList = d.chars ++ ['\n']

end Dotted

/-- Reading digits one by one gives the number that they stand for. -/
theorem ofDigits_filterMap (run : List Char) :
    Numeral.ofDigits (run.filterMap digitValue?) = runValue run :=
  Numeral.ofDigits_eq_value _

theorem component_of_short {run : List Char} (short : run.length ≤ digitLimit) :
    component run = .ok (runValue run) := by
  rw [component, if_neg (Nat.not_lt.mpr short), ofDigits_filterMap]

theorem component_of_long {run : List Char} (long : digitLimit < run.length) :
    component run = .error (.tooLong run.length) :=
  if_pos long

theorem mapM_component_of_short {runs : List (List Char)}
    (short : ∀ run ∈ runs, run.length ≤ digitLimit) :
    runs.mapM component = .ok (runs.map runValue) := by
  induction runs with
  | nil => rfl
  | cons run rest ih =>
      have others := ih fun r inside => short r (List.mem_cons_of_mem run inside)
      rw [List.mapM_cons, component_of_short (short run List.mem_cons_self), ok_bind, others]
      rfl

/-- The first run with too many digits is the one that is reported. -/
theorem mapM_component_of_long {runs : List (List Char)} (long : ∃ run ∈ runs, digitLimit < run.length) :
    ∃ run ∈ runs, digitLimit < run.length ∧ runs.mapM component = .error (.tooLong run.length) := by
  induction runs with
  | nil => simp at long
  | cons run rest ih =>
      by_cases here : digitLimit < run.length
      · refine ⟨run, List.mem_cons_self, here, ?_⟩
        rw [List.mapM_cons, component_of_long here]
        rfl
      · obtain ⟨r, among, longer⟩ := long
        obtain rfl | behind := List.mem_cons.mp among
        · exact absurd longer here
        · obtain ⟨first, inside, most, failed⟩ := ih ⟨r, behind, longer⟩
          refine ⟨first, List.mem_cons_of_mem run inside, most, ?_⟩
          rw [List.mapM_cons, component_of_short (Nat.not_lt.mp here), ok_bind, failed]
          rfl

/-! ### Texts made of runs -/

theorem isDigit_point : isDigit '.' = false := by decide

theorem isDigit_newline : isDigit '\n' = false := by decide

namespace Dotted

variable {d : Dotted} {s : String}

theorem point_not_mem {run : List Char} (inside : run ∈ d.runs) : '.' ∉ run := by
  intro point
  have digit := d.digits run inside '.' point
  rw [isDigit_point] at digit
  cases digit

theorem mem_chars {c : Char} (inside : c ∈ d.chars) : c = '.' ∨ isDigit c = true := by
  obtain point | ⟨run, among, found⟩ := mem_intercalate inside
  · exact .inl point
  · exact .inr (d.digits run among c found)

/-- Taking off the line end leaves the runs. -/
theorem withoutLineEnd_of_spells (spelled : d.Spells s) : withoutLineEnd s.toList = d.chars := by
  rcases spelled with same | ended
  · rw [same, withoutLineEnd_of_ne]
    rintro c last rfl
    rcases mem_chars (List.mem_of_getLast? last) with point | digit
    · cases point
    · rw [isDigit_newline] at digit
      cases digit
  · rw [ended, withoutLineEnd_concat]

/-- The runs are found again in their text. -/
theorem splitOn_of_spells (spelled : d.Spells s) : splitOn '.' (withoutLineEnd s.toList) = d.runs := by
  rw [withoutLineEnd_of_spells spelled]
  exact splitOn_intercalate d.any fun run inside => point_not_mem inside

theorem components_of_spells (spelled : d.Spells s) : components s = d.runs.mapM component := by
  have allRuns : d.runs.all (fun run => !run.isEmpty && run.all isDigit) = true := by
    rw [List.all_eq_true]
    intro run inside
    rw [Bool.and_eq_true, Bool.not_eq_true', List.isEmpty_eq_false_iff, List.all_eq_true]
    exact ⟨d.filled run inside, d.digits run inside⟩
  unfold components
  rw [splitOn_of_spells spelled]
  exact if_pos allRuns

/-- A run that is too long is reported. -/
theorem components_of_long (spelled : d.Spells s) (notShort : ¬ d.Short) :
    ∃ run ∈ d.runs, digitLimit < run.length ∧ components s = .error (.tooLong run.length) := by
  rw [components_of_spells spelled]
  apply mapM_component_of_long
  simpa [Short] using notShort

/-- Any text is made of runs, or it is malformed. -/
theorem exists_spells_or_malformed (s : String) :
    (∃ d : Dotted, d.Spells s) ∨ components s = .error (.malformed (.text s)) := by
  obtain ⟨part, parts, split⟩ := exists_splitOn '.' (withoutLineEnd s.toList)
  by_cases allRuns : (part :: parts).all (fun run => !run.isEmpty && run.all isDigit) = true
  · left
    have each : ∀ run ∈ part :: parts, run ≠ [] ∧ ∀ c ∈ run, isDigit c = true := by
      simpa [List.all_eq_true] using allRuns
    let d : Dotted := ⟨part :: parts, List.cons_ne_nil _ _, fun run inside => (each run inside).1,
      fun run inside => (each run inside).2⟩
    have joined : d.chars = withoutLineEnd s.toList := by
      rw [← intercalate_splitOn '.' (withoutLineEnd s.toList), split]
      rfl
    refine ⟨d, ?_⟩
    rw [Spells, joined]
    exact withoutLineEnd_cases s.toList
  · right
    unfold components
    rw [split]
    exact if_neg allRuns

/-- The numbers of a version are those of the runs that its text is made of. -/
theorem numbers_of_spells {v : Version} (spelled : d.Spells v.text) :
    d.Short ∧ v.numbers = d.numbers := by
  have read := v.denotes
  by_cases short : d.Short
  · rw [components_of_spells spelled, mapM_component_of_short short] at read
    exact ⟨short, (Except.ok.inj read).symm⟩
  · obtain ⟨run, _, _, failed⟩ := components_of_long spelled short
    cases failed.symm.trans read

end Dotted

/-! ### Reading -/

/-- A version is read exactly from a text that is made of runs of digits, of which none is too long,
with single points between them; it has the numbers of the runs. A line end is tolerated behind the
last run. If a run is too long, the failure is about such a run, and any other text is malformed. -/
theorem parse_dotted (s : String) :
    (∀ v, parse s = .ok v ↔
      ∃ d : Dotted, d.Spells s ∧ d.Short ∧ v.text = s ∧ v.numbers = d.numbers) ∧
    (∀ d : Dotted, d.Spells s → ¬ d.Short →
      ∃ run ∈ d.runs, digitLimit < run.length ∧ parse s = .error (.tooLong run.length)) ∧
    ((∀ d : Dotted, ¬ d.Spells s) → parse s = .error (.malformed (.text s))) := by
  refine ⟨fun v => ?_, fun d spelled notShort => ?_, fun none => ?_⟩
  · rw [parse_eq_ok_iff]
    constructor
    · rintro ⟨rfl, found⟩
      obtain ⟨d, spelled⟩ | malformed := Dotted.exists_spells_or_malformed v.text
      · obtain ⟨short, numbers⟩ := Dotted.numbers_of_spells spelled
        exact ⟨d, spelled, short, rfl, numbers⟩
      · cases found.symm.trans malformed
    · rintro ⟨d, spelled, short, text, numbers⟩
      rw [Dotted.components_of_spells spelled, mapM_component_of_short short, numbers]
      exact ⟨text, rfl⟩
  · obtain ⟨run, inside, longer, failed⟩ := Dotted.components_of_long spelled notShort
    exact ⟨run, inside, longer, parse_eq_error failed⟩
  · obtain ⟨d, spelled⟩ | malformed := Dotted.exists_spells_or_malformed s
    · exact absurd spelled (none d)
    · exact parse_eq_error malformed

/-- Runs with leading zeros. -/
def zeroPadded : Dotted :=
  ⟨[['0', '9'], ['0', '0', '7']], by decide, by decide, fun run inside => List.all_eq_true.mp
    (List.all_eq_true.mp (show [['0', '9'], ['0', '0', '7']].all (·.all isDigit) =
      true by decide) run inside)⟩

/-- Leading zeros do not count. -/
theorem parse_dotted_zeroPadded :
    zeroPadded.Spells "09.007" ∧ zeroPadded.Short ∧
      ∃ v, parse "09.007" = .ok v ∧ v.numbers = [9, 7] := by
  have spelled : zeroPadded.Spells "09.007" := .inl rfl
  have short : zeroPadded.Short := by unfold Dotted.Short; decide
  refine ⟨spelled, short, ⟨"09.007", [9, 7], rfl⟩, ?_, rfl⟩
  exact ((parse_dotted "09.007").1 _).mpr ⟨zeroPadded, spelled, short, rfl, rfl⟩

/-- A text that is read as a version may end with a line end, which no runs have. -/
theorem not_forall_unended :
    ¬ ∀ s v, parse s = .ok v → ∃ d : Dotted, s.toList = d.chars ∧ v.numbers = d.numbers := by
  intro every
  obtain ⟨d, same, _⟩ := every _ _ (parse_text ⟨"9.7\n", [9, 7], rfl⟩)
  have inside : '\n' ∈ d.chars := by
    rw [← same]
    decide
  rcases Dotted.mem_chars inside with point | digit
  · cases point
  · rw [isDigit_newline] at digit
    cases digit

end Version

end Syscat
