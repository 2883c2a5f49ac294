/-
Module: Syscat.Proofs.Time.Iso
Purpose: Timestamps are read back from their texts in the notation of ISO 8601, whatever character
  stands between date and time. An offset of less than a second is the exception: it is taken for
  none.
Main exports: Offset.asRead, Timestamp.asRead, Iso.readIso?_dated, Iso.readIso?_chars,
  Iso.readIso?_exported
-/
import Syscat.Proofs.Text.Span
import Syscat.Proofs.Time.Padded

namespace Syscat

/-! ### Parts within their bounds -/

theorem daysInMonth_le (year month : Nat) : daysInMonth year month ≤ 31 := by
  unfold daysInMonth
  split
  · split <;> decide
  all_goals decide

namespace Date

theorem bounds (d : Date) : d.year < 10000 ∧ d.month < 100 ∧ d.day < 100 := by
  have most := daysInMonth_le d.year d.month
  have inside := d.inCalendar
  omega

theorem ofParts?_self (d : Date) : ofParts? d.year d.month d.day = some d :=
  dif_pos d.inCalendar

/-- The ten characters of a date. The third group of digits and the second are told from a week by
their first character. -/
theorem exists_chars (d : Date) :
    ∃ y₁ y₂ y₃ y₄ m₁ m₂ d₁ d₂, d.chars = [y₁, y₂, y₃, y₄, '-', m₁, m₂, '-', d₁, d₂] ∧ m₁ ≠ 'W' := by
  obtain ⟨yearShort, monthShort, dayShort⟩ := d.bounds
  obtain ⟨y₁, y₂, y₃, y₄, year⟩ := exists_padded_four yearShort
  obtain ⟨m₁, m₂, month⟩ := exists_padded_two monthShort
  obtain ⟨d₁, d₂, day⟩ := exists_padded_two dayShort
  have digit : m₁.isDigit = true := isDigit_of_mem_padded (month ▸ List.mem_cons_self)
  refine ⟨y₁, y₂, y₃, y₄, m₁, m₂, d₁, d₂, ?_, ne_of_isDigit digit 'W' rfl⟩
  rw [chars, year, month, day]
  rfl

end Date

theorem Clock.ofParts?_self (c : Clock) : ofParts? c.hour c.minute c.second c.micro = some c :=
  dif_pos c.inDay

namespace Iso

/-! ### Dates -/

/-- A date with hyphens is read number by number. -/
theorem readDate?_hyphenated {s t u v : List Char} {c : Char} {year month day : Nat}
    (readYear : takeNumber? 0 4 s = some (year, '-' :: c :: t)) (noWeek : c ≠ 'W')
    (readMonth : takeNumber? 0 2 (c :: t) = some (month, '-' :: u))
    (readDay : takeNumber? 0 2 u = some (day, v)) : readDate? s = Date.ofParts? year month day := by
  simp only [readDate?, readYear, Option.bind_eq_bind, Option.bind_some]
  split
  case h_1 same => exact absurd (List.cons.inj same).1 noWeek
  case h_2 => simp [readMonth, readDay]

/-- A date is read back. -/
theorem readDate?_chars (d : Date) : readDate? d.chars = some d := by
  obtain ⟨yearShort, monthShort, dayShort⟩ := d.bounds
  obtain ⟨a, b, digits⟩ := exists_padded_two monthShort
  have noWeek : a ≠ 'W' :=
    ne_of_isDigit (isDigit_of_mem_padded (digits ▸ List.mem_cons_self)) 'W' rfl
  have readYear := takeNumber?_padded 4 (by decide) yearShort
    ('-' :: padded 2 d.month ++ '-' :: padded 2 d.day)
  have readMonth := takeNumber?_padded 2 (by decide) monthShort ('-' :: padded 2 d.day)
  have readDay := takeNumber?_padded 2 (by decide) dayShort []
  rw [List.append_nil] at readDay
  rw [digits] at readYear readMonth
  rw [Date.chars, List.append_assoc, digits]
  exact (readDate?_hyphenated readYear noWeek readMonth readDay).trans d.ofParts?_self

/-- A date and any character behind it, and then a time, are a timestamp. -/
theorem readIso?_dated (d : Date) (separator : Char) (rest : List Char) :
    readIso? (d.chars ++ separator :: rest) =
      (readTime? rest).map fun time => ⟨d, time.1, time.2⟩ := by
  have date := readDate?_chars d
  obtain ⟨y₁, y₂, y₃, y₄, m₁, m₂, d₁, d₂, same, noWeek⟩ := d.exists_chars
  rw [same] at date ⊢
  have length : dateLength? ([y₁, y₂, y₃, y₄, '-', m₁, m₂, '-', d₁, d₂] ++
      separator :: rest) = some 10 := by
    simp [dateLength?, noWeek]
  rw [readIso?, length, if_neg (by simp)]
  simp [date]
  cases readTime? rest <;> rfl

/-! ### Numbers of a time -/

section
variable {n micro k : Nat} {colons : Option Bool}

theorem readFraction?_padded (short : micro < 1000000) :
    readFraction? (padded 6 micro) = some (micro, false) := by
  have read := takeNumber?_padded 6 (by decide) short []
  rw [List.append_nil] at read
  simp [readFraction?, length_padded 6 (by decide) short, read, isLeft]

/-- The last number of a time is read with the fraction behind it. -/
theorem readNumbers?_last (short : n < 100) (microShort : micro < 1000000) :
    readNumbers? colons (k + 1) (padded 2 n ++ Clock.fraction micro) = some ([n], micro, false) := by
  rw [readNumbers?, takeNumber?_padded 2 (by decide) short]
  unfold Clock.fraction
  split
  case isTrue zero => simp [zero]
  case isFalse => simp [padded_ne_nil, readFraction?_padded microShort]

/-- A number in front of a colon is read, and then the others. -/
theorem readNumbers?_colon (short : n < 100) {rest : List Char} (more : rest ≠ [])
    (joined : colons.getD true = true) :
    readNumbers? colons (k + 1) (padded 2 n ++ ':' :: rest) =
      (readNumbers? (some true) k rest).map fun read => (n :: read.1, read.2) := by
  rw [readNumbers?, takeNumber?_padded 2 (by decide) short]
  simp [more, joined]
  cases readNumbers? (some true) k rest <;> rfl

end

/-! ### Times of day -/

section
variable {hour minute second micro : Nat}

/-- Hour, minute and second are read back, and the fraction if there is one. -/
theorem readClockParts?_seconds (hours : hour < 100) (minutes : minute < 100) (seconds : second < 100)
    (micros : micro < 1000000) :
    readClockParts? (padded 2 hour ++ ':' :: (padded 2 minute ++ ':' :: (padded 2 second ++
      Clock.fraction micro))) = some ⟨hour, minute, second, micro, false⟩ := by
  have more : padded 2 second ++ Clock.fraction micro ≠ [] :=
      List.append_ne_nil_of_left_ne_nil padded_ne_nil _
  rw [readClockParts?, readNumbers?_colon hours (by simp) rfl, readNumbers?_colon minutes more rfl,
    readNumbers?_last seconds micros]
  rfl

/-- Hour and minute are read back. -/
theorem readClockParts?_minutes (hours : hour < 100) (minutes : minute < 100) :
    readClockParts? (padded 2 hour ++ ':' :: padded 2 minute) = some ⟨hour, minute, 0, 0, false⟩ := by
  have last := @readNumbers?_last minute 0 1 (some true) minutes (by decide)
  rw [show Clock.fraction 0 = [] from rfl, List.append_nil] at last
  rw [readClockParts?, readNumbers?_colon hours padded_ne_nil rfl, last]
  rfl

end

/-! ### What a time is written with -/

/-- The characters of a time of day. -/
def TimeChar (c : Char) : Prop :=
  c.isDigit = true ∨ c = ':' ∨ c = '.'

namespace TimeChar

variable {c : Char}

theorem ascii (inTime : TimeChar c) : c.toNat < 128 := by
  obtain digit | rfl | rfl := inTime
  · have := toNat_of_isDigit digit
    omega
  all_goals decide

/-- An offset begins with none of them. -/
theorem beginsOffset_eq_false (inTime : TimeChar c) : beginsOffset c = false := by
  obtain digit | rfl | rfl := inTime
  · simp only [beginsOffset, Bool.or_eq_false_iff, beq_eq_false_iff_ne]
    exact ⟨⟨ne_of_isDigit digit '+' rfl, ne_of_isDigit digit '-' rfl⟩, ne_of_isDigit digit 'Z' rfl⟩
  all_goals rfl

theorem of_mem_padded {width n : Nat} (inside : c ∈ padded width n) : TimeChar c :=
  .inl (isDigit_of_mem_padded inside)

theorem of_mem_fraction {micro : Nat} (inside : c ∈ Clock.fraction micro) : TimeChar c := by
  unfold Clock.fraction at inside
  split at inside
  · cases inside
  · obtain rfl | digit := List.mem_cons.mp inside
    · exact .inr (.inr rfl)
    · exact of_mem_padded digit

theorem of_mem_clock {clock : Clock} (inside : c ∈ clock.chars) : TimeChar c := by
  simp only [Clock.chars, List.append_assoc, List.cons_append, List.mem_append, List.mem_cons] at inside
  obtain hour | rfl | minute | rfl | second | fraction := inside
  · exact of_mem_padded hour
  · exact .inr (.inl rfl)
  · exact of_mem_padded minute
  · exact .inr (.inl rfl)
  · exact of_mem_padded second
  · exact of_mem_fraction fraction

end TimeChar

end Iso

/-! ### Offsets -/

namespace Offset

/-- What is read where an offset is written: less than a second is taken for universal time. -/
def asRead (o : Offset) : Offset :=
  if o.micros.natAbs < 1000000 then zero else o

/-- Only what is less than a second, but not zero, is read as something else. -/
theorem asRead_eq_iff {o : Offset} : o.asRead = o ↔ o = zero ∨ 1000000 ≤ o.micros.natAbs := by
  unfold asRead
  split
  case isTrue short =>
    refine ⟨fun same => .inl same.symm, ?_⟩
    rintro (same | long)
    · exact same.symm
    · exact absurd short (Nat.not_lt.mpr long)
  case isFalse long => exact iff_of_true rfl (.inr (Nat.not_lt.mp long))

/-- The sign of an offset. -/
def sign (o : Offset) : Char :=
  if o.micros < 0 then '-' else '+'

/-- Hours and minutes of an offset, and as far as they are not zero seconds and their fraction. -/
def unsigned (o : Offset) : List Char :=
  o.chars.tail

theorem chars_eq (o : Offset) : o.chars = o.sign :: o.unsigned := rfl

variable (o : Offset)

theorem sign_cases : o.sign = '-' ∨ o.sign = '+' := by
  unfold sign
  split
  · exact .inl rfl
  · exact .inr rfl

theorem beginsOffset_sign : Iso.beginsOffset o.sign = true := by
  obtain minus | plus := o.sign_cases
  · rw [minus]
    rfl
  · rw [plus]
    rfl

/-- The sign and the size make the offset. -/
theorem signed_eq : (if o.sign == '-' then -(o.micros.natAbs : Int) else o.micros.natAbs) = o.micros := by
  unfold sign
  by_cases negative : o.micros < 0
  · rw [if_pos negative, if_pos (beq_self_eq_true '-')]
    omega
  · rw [if_neg negative, if_neg (by decide)]
    omega

theorem ofMicros?_self : ofMicros? o.micros = some o :=
  dif_pos o.withinDay

/-- An offset is written with the characters of a time behind its sign. -/
theorem timeChar_of_mem_unsigned {c : Char} (inside : c ∈ o.unsigned) : Iso.TimeChar c := by
  simp only [unsigned, chars, List.tail_cons, List.mem_append, List.mem_cons] at inside
  obtain (hour | rfl | minute) | rest := inside
  · exact .of_mem_padded hour
  · exact .inr (.inl rfl)
  · exact .of_mem_padded minute
  · split at rest
    · cases rest
    · simp only [List.cons_append, List.mem_cons, List.mem_append] at rest
      obtain rfl | second | fraction := rest
      · exact .inr (.inl rfl)
      · exact .of_mem_padded second
      · exact .of_mem_fraction fraction

/-- The numbers of an offset are read back, those that are left off being zero. -/
theorem readClockParts?_unsigned :
    Iso.readClockParts? o.unsigned = some ⟨o.micros.natAbs / 1000000 / 3600,
      o.micros.natAbs / 1000000 / 60 % 60, o.micros.natAbs / 1000000 % 60,
      o.micros.natAbs % 1000000, false⟩ := by
  have withinDay := o.withinDay
  rw [microsPerDay] at withinDay
  rw [unsigned, chars, List.tail_cons]
  split
  case isTrue whole =>
    rw [List.append_nil, whole.1, whole.2]
    exact Iso.readClockParts?_minutes (by omega) (by omega)
  case isFalse =>
    simp only [List.append_assoc, List.cons_append]
    exact Iso.readClockParts?_seconds (by omega) (by omega) (by omega) (by omega)

/-- An offset is read back unless it is less than a second. -/
theorem readOffset?_unsigned : Iso.readOffset? o.sign o.unsigned = some o.asRead := by
  have letter : (o.sign == 'Z') = false := by
    obtain minus | plus := o.sign_cases
    · rw [minus]
      rfl
    · rw [plus]
      rfl
  have size : o.micros.natAbs / 1000000 / 3600 * 3600 + o.micros.natAbs / 1000000 / 60 % 60 * 60 +
      o.micros.natAbs / 1000000 % 60 = o.micros.natAbs / 1000000 := by omega
  rw [Iso.readOffset?, letter, if_neg Bool.false_ne_true, readClockParts?_unsigned]
  simp only [Option.bind_eq_bind, Option.bind_some, Bool.false_eq_true, if_false, size]
  unfold asRead
  by_cases short : o.micros.natAbs < 1000000
  · have none : o.micros.natAbs / 1000000 = 0 := by omega
    rw [if_pos none, if_pos short]
    split <;> rfl
  · have some : ¬ o.micros.natAbs / 1000000 = 0 := by omega
    rw [if_neg some, if_neg short, Nat.div_add_mod', signed_eq, ofMicros?_self]

/-- An offset of whole minutes is exported as it is written, and as the letter for universal time if
it is zero. -/
theorem exported_of_minutes {o : Offset} (minutes : (60000000 : Int) ∣ o.micros) :
    o.exported = if o.micros = 0 then ['Z'] else o.chars := by
  obtain ⟨count, whole⟩ := minutes
  have seconds : Int.fdiv o.micros 1000000 = 60 * count := by
    rw [Int.fdiv_eq_ediv_of_nonneg _ (by decide)]
    omega
  rw [exported, chars, seconds]
  by_cases none : o.micros = 0
  · rw [if_pos none, if_pos (by omega)]
  · have size : o.micros.natAbs / 1000000 = (60 * count).natAbs := by omega
    have noTail : (60 * count).natAbs % 60 = 0 ∧ o.micros.natAbs % 1000000 = 0 := by omega
    have sign : o.micros < 0 ↔ 60 * count < 0 := by omega
    have some : ¬ 60 * count = 0 := by omega
    simp only [if_neg some, if_neg none, if_pos noTail, List.append_nil, size, sign]

end Offset

/-! ### Timestamps -/

namespace Iso

theorem widen_eq {s : List Char} (ascii : ∀ c ∈ s, c.toNat < 128) : widen s = s := by
  induction s with
  | nil => rfl
  | cons c s ih =>
      rw [widen, List.flatMap_cons, if_pos (ascii c List.mem_cons_self)]
      exact congrArg (c :: ·) (ih fun d inside => ascii d (List.mem_cons_of_mem c inside))

/-- A time of day is read back, and then what stands behind it: nothing, or an offset. -/
theorem readTime?_clock (c : Clock) {rest : List Char} (ascii : ∀ x ∈ rest, x.toNat < 128)
    (begins : ∀ x ∈ rest.head?, beginsOffset x = true) :
    readTime? (c.chars ++ rest) =
      (match rest with
        | [] => some none
        | mark :: rest => (readOffset? mark rest).map some).map fun offset => (c, offset) := by
  have narrow : widen (c.chars ++ rest) = c.chars ++ rest := by
    refine widen_eq fun x inside => ?_
    obtain time | behind := List.mem_append.mp inside
    · exact (TimeChar.of_mem_clock time).ascii
    · exact ascii x behind
  have run : ∀ x ∈ c.chars, (!beginsOffset x) = true := fun x inside =>
    (TimeChar.of_mem_clock inside).beginsOffset_eq_false ▸ rfl
  have stop : ∀ x ∈ rest.head?, (!beginsOffset x) = false := fun x first => begins x first ▸ rfl
  have parts : readClockParts? c.chars = some ⟨c.hour, c.minute, c.second, c.micro, false⟩ := by
    obtain ⟨hour, minute, second, micro⟩ := c.inDay
    rw [Clock.chars, List.append_assoc, List.append_assoc]
    exact readClockParts?_seconds (by omega) (by omega) (by omega) micro
  rw [readTime?, narrow, takeWhile_run run stop, dropWhile_run run stop, parts]
  simp only [Option.bind_eq_bind, Option.bind_some, Clock.ofParts?_self, Bool.false_eq_true, if_false]
  cases rest with
  | nil => rfl
  | cons mark rest =>
      dsimp only
      cases readOffset? mark rest <;> rfl

/-- A time of day without an offset is read back. -/
theorem readTime?_local (c : Clock) : readTime? c.chars = some (c, none) := by
  have read := @readTime?_clock c [] (by simp) (by simp)
  rwa [List.append_nil] at read

/-- A time of day and an offset are read back. -/
theorem readTime?_offset (c : Clock) (o : Offset) :
    readTime? (c.chars ++ o.chars) = some (c, some o.asRead) := by
  have ascii : ∀ x ∈ o.sign :: o.unsigned, x.toNat < 128 := by
    intro x inside
    obtain rfl | behind := List.mem_cons.mp inside
    · obtain minus | plus := o.sign_cases
      · rw [minus]
        decide
      · rw [plus]
        decide
    · exact (o.timeChar_of_mem_unsigned behind).ascii
  have begins : ∀ x ∈ (o.sign :: o.unsigned).head?, beginsOffset x = true := by
    rintro x ⟨⟩
    exact o.beginsOffset_sign
  rw [o.chars_eq, readTime?_clock c ascii begins]
  exact congrArg (Option.map (c, ·)) (congrArg (Option.map some) o.readOffset?_unsigned)

/-- The letter behind a time of day is read as universal time. -/
theorem readTime?_universal (c : Clock) : readTime? (c.chars ++ ['Z']) = some (c, some Offset.zero) := by
  have ascii : ∀ x ∈ ['Z'], x.toNat < 128 := forall_mem_of_all (by decide)
  have begins : ∀ x ∈ ['Z'].head?, beginsOffset x = true := by
    rintro x ⟨⟩
    rfl
  exact readTime?_clock c ascii begins

end Iso

namespace Timestamp

/-- What is read where a timestamp is written. -/
def asRead (t : Timestamp) : Timestamp :=
  { t with offset := t.offset.map Offset.asRead }

theorem asRead_eq_iff {t : Timestamp} :
    t.asRead = t ↔ ∀ o ∈ t.offset, o = Offset.zero ∨ 1000000 ≤ o.micros.natAbs := by
  obtain ⟨date, clock, offset⟩ := t
  cases offset with
  | none => exact iff_of_true rfl fun o here => nomatch here
  | some o =>
      simp only [asRead, Option.map_some, Timestamp.mk.injEq, true_and, Option.some.injEq, Option.mem_def,
        forall_eq', Offset.asRead_eq_iff]

end Timestamp

namespace Iso

/-- A timestamp is read back, whatever stands between its date and its time of day. -/
theorem readIso?_chars (separator : Char) (t : Timestamp) :
    readIso? (t.chars separator) = some t.asRead := by
  obtain ⟨date, clock, offset⟩ := t
  rw [Timestamp.chars, List.append_assoc, List.cons_append, readIso?_dated]
  cases offset with
  | none => rw [Option.map_none, Option.getD_none, List.append_nil, readTime?_local]; rfl
  | some o => rw [Option.map_some, Option.getD_some, readTime?_offset]; rfl

/-- A timestamp is read back from an exported document if its offset, where it has one, is of whole
minutes. -/
theorem readIso?_exported {t : Timestamp} (minutes : ∀ o ∈ t.offset, (60000000 : Int) ∣ o.micros) :
    readIso? t.exported.toList = some t.asRead := by
  obtain ⟨date, clock, offset⟩ := t
  rw [Timestamp.exported, String.toList_ofList, List.append_assoc, List.cons_append, readIso?_dated]
  cases offset with
  | none => rw [Option.map_none, Option.getD_none, List.append_nil, readTime?_local]; rfl
  | some o =>
      rw [Option.map_some, Option.getD_some, Offset.exported_of_minutes (minutes o rfl)]
      split
      case isTrue none =>
        have zero : o = Offset.zero := by
          cases o
          cases none
          rfl
        rw [readTime?_universal, zero]
        rfl
      case isFalse => rw [readTime?_offset]; rfl

end Iso

end Syscat
