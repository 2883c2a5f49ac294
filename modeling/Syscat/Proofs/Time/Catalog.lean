/-
Module: Syscat.Proofs.Time.Catalog
Purpose: Timestamps are read back from the form in which the catalog writes them. The reading of ISO
  8601, which is tried first, never takes that form for its own: behind the hour stands a point, and a
  fraction is cut short by the next one.
Main exports: Iso.readIso?_catalogChars, readCatalogTimestamp?_catalogChars, readTimestamp?_chars,
  readTimestamp?_exported, readTimestamp?_catalogChars
-/
import Syscat.Proofs.Time.Iso

namespace Syscat

/-! ### Numbers in the catalog's form -/

theorem readMonth?_padded {n : Nat} (some : 1 ≤ n) (short : n < 13) :
    readMonth? (padded 2 n) = .some n := by
  have all : ∀ n < 13, 1 ≤ n → readMonth? (padded 2 n) = .some n := by decide +kernel
  exact all n short some

theorem readDay?_padded {n : Nat} (some : 1 ≤ n) (short : n < 32) : readDay? (padded 2 n) = .some n := by
  have all : ∀ n < 32, 1 ≤ n → readDay? (padded 2 n) = .some n := by decide +kernel
  exact all n short some

theorem readHour?_padded {n : Nat} (short : n < 24) : readHour? (padded 2 n) = some n := by
  have all : ∀ n < 24, readHour? (padded 2 n) = some n := by decide +kernel
  exact all n short

theorem readSixtieth?_padded {n : Nat} (short : n < 60) : readSixtieth? (padded 2 n) = some n := by
  have all : ∀ n < 60, readSixtieth? (padded 2 n) = some n := by decide +kernel
  exact all n short

/-! ### Cutting at separators -/

section
variable {separator : Char} {w : List Char}

theorem splitAt?_append (without : separator ∉ w) (rest : List Char) :
    splitAt? separator (w ++ separator :: rest) = some (w, rest) := by
  have run : ∀ c ∈ w, (c != separator) = true := fun c inside =>
    bne_iff_ne.mpr fun same => without (same ▸ inside)
  have stop : ∀ c ∈ (separator :: rest).head?, (c != separator) = false := by
    rintro c ⟨⟩
    exact bne_self_eq_false separator
  rw [splitAt?, takeWhile_run run stop, dropWhile_run run stop]

theorem splitAt?_eq_none (without : separator ∉ w) : splitAt? separator w = none := by
  have run : ∀ c ∈ w, (c != separator) = true := fun c inside =>
    bne_iff_ne.mpr fun same => without (same ▸ inside)
  have nothing := @dropWhile_run _ _ w [] run (by simp)
  rw [List.append_nil] at nothing
  rw [splitAt?, nothing]

/-- A numeral holds no separator. -/
theorem not_mem_padded {width n : Nat} (mark : separator.isDigit = false) :
    separator ∉ padded width n := by
  intro inside
  rw [isDigit_of_mem_padded inside] at mark
  cases mark

end

/-! ### The two readings -/

variable {t : Timestamp}

/-- The parts of a timestamp are read back from their numerals. -/
theorem readParts?_padded (date : Date) (clock : Clock) :
    (do
      let date ← Date.ofParts? (← readYear? (padded 4 date.year)) (← readMonth? (padded 2 date.month))
        (← readDay? (padded 2 date.day))
      let clock ← Clock.ofParts? (← readHour? (padded 2 clock.hour))
        (← readSixtieth? (padded 2 clock.minute)) (← readSixtieth? (padded 2 clock.second)) clock.micro
      return ⟨date, clock, none⟩) = some (⟨date, clock, none⟩ : Timestamp) := by
  obtain ⟨_, year, someMonth, month, someDay, day⟩ := date.inCalendar
  obtain ⟨hour, minute, second, _⟩ := clock.inDay
  have most := daysInMonth_le date.year date.month
  rw [readYear?_padded (by omega), readMonth?_padded someMonth (by omega),
    readDay?_padded someDay (by omega), readHour?_padded hour, readSixtieth?_padded minute,
    readSixtieth?_padded second]
  simp only [Option.bind_eq_bind, Option.bind_some, Date.ofParts?_self,
    Clock.ofParts?_self, Option.pure_def]

/-- A timestamp is read back from the catalog's form, without its fraction if that is zero. -/
theorem readCatalogTimestamp?_catalogChars (noOffset : t.offset = none) {fraction : Bool}
    (kept : fraction = true ∨ t.clock.micro = 0) :
    readCatalogTimestamp? (t.catalogChars fraction) = some t := by
  obtain ⟨date, clock, offset⟩ := t
  obtain rfl : offset = none := noOffset
  rw [Timestamp.catalogChars, Date.chars]
  simp only [List.append_assoc, List.cons_append]
  refine Option.bind_eq_some_iff.mpr ⟨_, splitAt?_append (not_mem_padded rfl) _, ?_⟩
  refine Option.bind_eq_some_iff.mpr ⟨_, splitAt?_append (not_mem_padded rfl) _, ?_⟩
  refine Option.bind_eq_some_iff.mpr ⟨_, splitAt?_append (not_mem_padded rfl) _, ?_⟩
  refine Option.bind_eq_some_iff.mpr ⟨_, splitAt?_append (not_mem_padded rfl) _, ?_⟩
  refine Option.bind_eq_some_iff.mpr ⟨_, splitAt?_append (not_mem_padded rfl) _, ?_⟩
  -- The seconds are cut from a fraction if there is one.
  cases fraction with
  | true =>
      rw [if_pos rfl]
      dsimp only
      rw [splitAt?_append (not_mem_padded rfl)]
      have micros := readMicros?_padded clock.inDay.2.2.2
      exact Option.bind_eq_some_iff.mpr ⟨_, congrArg (Option.map _) micros, readParts?_padded date clock⟩
  | false =>
      have zero : clock.micro = 0 := kept.resolve_left Bool.false_ne_true
      have built := readParts?_padded date clock
      rw [if_neg Bool.false_ne_true, List.append_nil]
      dsimp only
      rw [splitAt?_eq_none (not_mem_padded rfl)]
      rw [zero] at built
      exact built

namespace Iso

/-- Digits are missing where something else stands too early. -/
theorem takeNumber?_eq_none {digits : List Char} (all : ∀ c ∈ digits, c.isDigit = true) {c : Char}
    (other : asciiDigit? c = none) (acc : Nat) {count : Nat} (early : digits.length < count)
    (rest : List Char) : takeNumber? acc count (digits ++ c :: rest) = none := by
  induction digits generalizing acc count with
  | nil =>
      obtain ⟨count, rfl⟩ := Nat.exists_eq_succ_of_ne_zero (Nat.ne_of_gt early)
      rw [List.nil_append, takeNumber?, other]
  | cons d digits ih =>
      obtain ⟨count, rfl⟩ := Nat.exists_eq_succ_of_ne_zero (Nat.ne_of_gt (Nat.zero_lt_of_lt early))
      rw [List.cons_append, takeNumber?, asciiDigit?_of_isDigit (all d List.mem_cons_self)]
      exact ih (fun e inside => all e (List.mem_cons_of_mem d inside)) _ (Nat.lt_of_succ_lt_succ early)

/-- An hour, a point and a minute with another point behind it are no time of day. -/
theorem readClockParts?_points {hour minute : Nat} (hours : hour < 100) (minutes : minute < 100)
    (rest : List Char) :
    readClockParts? (padded 2 hour ++ '.' :: (padded 2 minute ++ '.' :: rest)) = none := by
  have two : (padded 2 minute).length = 2 := length_padded 2 (by decide) minutes
  have noFraction : readFraction? (padded 2 minute ++ '.' :: rest) = none := by
    have early : (padded 2 minute).length < min 6 (padded 2 minute ++ '.' :: rest).length := by
      rw [List.length_append, List.length_cons, two]
      omega
    rw [readFraction?, takeNumber?_eq_none (fun _ => isDigit_of_mem_padded) rfl 0 early]
    rfl
  rw [readClockParts?, readNumbers?, takeNumber?_padded 2 (by decide) hours]
  simp [noFraction]

/-- Without its numbers a time of day is not read. -/
theorem readTime?_eq_none {s : List Char} (inTime : ∀ c ∈ s, TimeChar c)
    (noParts : readClockParts? s = none) : readTime? s = none := by
  have narrow : widen s = s := widen_eq fun c inside => (inTime c inside).ascii
  have run : ∀ c ∈ s, (!beginsOffset c) = true :=
    fun c inside => (inTime c inside).beginsOffset_eq_false ▸ rfl
  have whole := @takeWhile_run _ _ s [] run (by simp)
  rw [List.append_nil] at whole
  rw [readTime?, narrow, whole, noParts]
  rfl

/-- The characters of a time of day in the catalog's form. -/
theorem TimeChar.of_mem_points {hour minute second micro : Nat} {fraction : Bool} {c : Char}
    (inside : c ∈ padded 2 hour ++ '.' :: (padded 2 minute ++ '.' :: (padded 2 second ++
      if fraction then '.' :: padded 6 micro else []))) : TimeChar c := by
  simp only [List.mem_append, List.mem_cons] at inside
  obtain hour | rfl | minute | rfl | second | behind := inside
  · exact .of_mem_padded hour
  · exact .inr (.inr rfl)
  · exact .of_mem_padded minute
  · exact .inr (.inr rfl)
  · exact .of_mem_padded second
  · split at behind
    · obtain rfl | digit := List.mem_cons.mp behind
      · exact .inr (.inr rfl)
      · exact .of_mem_padded digit
    · cases behind

/-- A timestamp in the catalog's form is no timestamp of ISO 8601. -/
theorem readIso?_catalogChars (fraction : Bool) (t : Timestamp) :
    readIso? (t.catalogChars fraction) = none := by
  obtain ⟨hour, minute, _⟩ := t.clock.inDay
  have noParts := readClockParts?_points (Nat.lt_trans hour (by decide)) (Nat.lt_trans minute (by decide))
    (padded 2 t.clock.second ++ if fraction then '.' :: padded 6 t.clock.micro else [])
  rw [Timestamp.catalogChars]
  simp only [List.append_assoc, List.cons_append]
  rw [readIso?_dated, readTime?_eq_none (fun c => TimeChar.of_mem_points) noParts]
  rfl

end Iso

/-! ### Timestamps of either form -/

/-- What is read as ISO 8601 is not read in another way. -/
theorem readTimestamp?_of_iso {s : List Char} (read : Iso.readIso? s = some t) :
    readTimestamp? s = some t := by
  rw [readTimestamp?, read]
  rfl

/-- A timestamp is read back from its text in the notation of ISO 8601. -/
theorem readTimestamp?_chars (separator : Char) (t : Timestamp) :
    readTimestamp? (t.chars separator) = some t.asRead :=
  readTimestamp?_of_iso (Iso.readIso?_chars separator t)

/-- A timestamp is read back from an exported document if its offset, where it has one, is of whole
minutes. -/
theorem readTimestamp?_exported (minutes : ∀ o ∈ t.offset, (60000000 : Int) ∣ o.micros) :
    readTimestamp? t.exported.toList = some t.asRead :=
  readTimestamp?_of_iso (Iso.readIso?_exported minutes)

/-- A timestamp is read back from the catalog's form. -/
theorem readTimestamp?_catalogChars (noOffset : t.offset = none) {fraction : Bool}
    (kept : fraction = true ∨ t.clock.micro = 0) : readTimestamp? (t.catalogChars fraction) = some t := by
  rw [readTimestamp?, Iso.readIso?_catalogChars, readCatalogTimestamp?_catalogChars noOffset kept]
  rfl

end Syscat
