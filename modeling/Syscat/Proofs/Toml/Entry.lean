/-
Module: Syscat.Proofs.Toml.Entry
Purpose: Entries whose values are flags, integers or texts that come back from their quotation marks: such
  an entry is taken as it is and puts its value into the table that is open.
Main exports: Toml.Shown, Toml.Shown.passes, Toml.Shown.putEntry
-/
import Syscat.Proofs.Document.Tree
import Syscat.Proofs.Number.Based
import Syscat.Proofs.Toml.Escapes
import Syscat.Proofs.Toml.Passing
import Syscat.Toml.Entry

namespace Syscat.Toml

/-- A simple value and what it is written as. -/
inductive Shown : Document → List Char → Prop where
  | flag (b : Bool) : Shown (.flag b) (if b then "true".toList else "false".toList)
  | integer {n : Int} {part : List Char} (written : integerDigits n = .ok part) : Shown (.integer n) part
  | text {s : String} (faithful : Faithful s.toList) :
      Shown (.text s) ('\x22' :: (s.toList.flatMap (quotedChar '\x22') ++ ['\x22']))

/-- Other characters make up another text. -/
theorem ofList_beq_eq_false {s : List Char} {word : String} (other : s ≠ word.toList) :
    (String.ofList s == word) = false := by
  refine beq_eq_false_iff_ne.mpr fun same => other ?_
  rw [← same, String.toList_ofList]

/-! ### Integers -/

/-- The digits of an integer, without a zero in front of others. -/
structure Digits (n : Int) (digits : List Char) : Prop where
  filled : digits ≠ []
  all : ∀ c ∈ digits, c.isDigit = true
  read : Based.readSpelled digits = .ok n.natAbs
  leading : digits.head? = some '0' → n = 0 ∧ digits = ['0']

/-- An integer is written as its digits behind a sign. -/
theorem exists_digits {n : Int} {part : List Char} (written : integerDigits n = .ok part) :
    ∃ digits, part = integerSign n ++ digits ∧ Digits n digits := by
  obtain ⟨short, same⟩ := integerDigits_eq_ok written
  refine ⟨_, same, Nat.toDigits_ne_nil, fun c => isDigit_of_mem_digits,
    Based.readSpelled_toDigits short, ?_⟩
  intro zero
  rcases Nat.eq_zero_or_pos n.natAbs with none | positive
  · rw [none]
    exact ⟨Int.natAbs_eq_zero.mp none, rfl⟩
  · obtain ⟨c, tail, digits, nonzero⟩ := toDigits_eq_cons positive
    rw [digits] at zero
    exact absurd (Option.some.inj zero) nonzero

/-- A text without points and without hyphens behind its front is no date. -/
theorem readMoment?_eq_none {c : Char} {more : List Char} (noPoint : '.' ∉ c :: more)
    (noDate : '-' ∉ more) : readMoment? (c :: more) = .ok none := by
  obtain ⟨⟨micros, offset⟩, read⟩ : ∃ tail, readTail ((c :: more).drop 19) = .ok tail := by
    cases behind : (c :: more).drop 19 with
    | nil => exact ⟨_, rfl⟩
    | cons d rest =>
        have other : d ≠ '.' := by
          rintro rfl
          exact noPoint (List.mem_of_mem_drop (behind ▸ List.mem_cons_self))
        exact ⟨_, readTail.eq_3 _ nofun fun rest same => other (List.cons.inj same).1⟩
  have other : momentWith? micros offset (c :: more) = none := by
    rw [momentWith?, if_pos (by simpa using noDate)]
  rw [readMoment?, read, ok_bind]
  dsimp only
  rw [other]
  rfl

namespace Digits

variable {n : Int} {digits : List Char} (own : Digits n digits)
include own

theorem not_mem {c : Char} (other : c.isDigit = false) : c ∉ digits := fun inside =>
  absurd (own.all c inside) (by rw [other]; exact Bool.false_ne_true)

theorem not_mem_part {c : Char} (other : c.isDigit = false) (noSign : c ≠ '-') :
    c ∉ integerSign n ++ digits := by
  unfold integerSign
  split
  case isTrue => simpa using ⟨noSign, own.not_mem other⟩
  case isFalse => exact own.not_mem other

/-- Nothing is blank in the text of an integer. -/
theorem strip_part : strip (integerSign n ++ digits) = integerSign n ++ digits := by
  have last : isBlank (digits.getLast own.filled) = false :=
    isBlank_of_isDigit (own.all _ (List.getLast_mem _))
  unfold integerSign
  split
  case isTrue =>
    refine @strip_eq _ _ _ ('-' :: digits.dropLast) ?_ (by decide +kernel) last
    rw [List.cons_append, List.dropLast_concat_getLast]
    rfl
  case isFalse => exact strip_digits own.all

theorem getLast?_ne : (integerSign n ++ digits).getLast? ≠ some '_' := fun last =>
  own.not_mem_part rfl (by decide) (List.mem_of_getLast? last)

/-- The text of an integer is a strict numeral. -/
theorem isStrictNumeral : isStrictNumeral (' ' :: (integerSign n ++ digits)) = true := by
  have front : strip (' ' :: (integerSign n ++ digits)) = integerSign n ++ digits := by
    rw [strip_blank_cons (by decide +kernel), own.strip_part]
  have noPoint : hasPair '_' '.' (integerSign n ++ digits) = false :=
    hasPair_of_not_mem (own.not_mem_part rfl (by decide))
  have noUnderscore : hasPair '.' '_' (integerSign n ++ digits) = false :=
    hasPair_of_not_mem (own.not_mem_part rfl (by decide))
  have single : hasPair '_' '_' digits = false := hasPair_of_not_mem (own.not_mem rfl)
  have last := own.getLast?_ne
  obtain ⟨d, more, same⟩ := List.exists_cons_of_ne_nil own.filled
  have digit : d.isDigit = true := own.all d (by rw [same]; exact List.mem_cons_self)
  have noSign : d ≠ '+' ∧ d ≠ '-' ∧ d ≠ '_' :=
    ⟨ne_of_isDigit digit _ rfl, ne_of_isDigit digit _ rfl, ne_of_isDigit digit _ rfl⟩
  have leading : d = '0' → n = 0 ∧ more = [] := fun zero => by
    have alone := own.leading (by rw [same, zero]; rfl)
    exact ⟨alone.1, (List.cons.inj (same.symm.trans alone.2)).2⟩
  rw [Toml.isStrictNumeral, front]
  unfold integerSign at noPoint noUnderscore last ⊢
  split at noPoint
  case isTrue negative =>
    rw [if_pos negative] at noUnderscore last ⊢
    have nonzero : d ≠ '0' := fun zero => absurd (leading zero).1 (by omega)
    rw [same] at noPoint noUnderscore single last ⊢
    simp only [List.cons_append, List.nil_append] at noPoint noUnderscore last ⊢
    have last : (('-' :: d :: more).getLast? != some '_') = true := by simpa using last
    simp only [noPoint, noUnderscore, last]
    simp [nonzero, single]
  case isFalse positive =>
    rw [if_neg positive] at noUnderscore last ⊢
    rw [same] at noPoint noUnderscore single last ⊢
    cases more with
    | nil => simpa using noSign.2.2
    | cons second rest =>
        have nonzero : d ≠ '0' := fun zero => absurd (leading zero).2 (by simp)
        simp only [List.nil_append] at noPoint noUnderscore last ⊢
        have last : ((d :: second :: rest).getLast? != some '_') = true := by simpa using last
        simp only [noPoint, noUnderscore, last]
        simp [nonzero, noSign, single]

theorem map_toLower : (integerSign n ++ digits).map Char.toLower = integerSign n ++ digits := by
  have plain : digits.map Char.toLower = digits := by
    rw [List.map_congr_left fun c inside => toLower_of_isDigit (own.all c inside), List.map_id']
  rw [List.map_append, plain, integerSign]
  split <;> rfl

/-- A word with a letter is no text of an integer. -/
theorem beq_word {word : String} {c : Char} (inside : c ∈ word.toList) (letter : c.isDigit = false)
    (noSign : c ≠ '-') : (String.ofList (integerSign n ++ digits) == word) = false := by
  refine ofList_beq_eq_false fun same => own.not_mem_part letter noSign ?_
  rwa [same]

/-- Digits are read as a number without a sign. -/
theorem readUnsigned : readUnsigned digits = .ok (.integer n.natAbs, .integer) := by
  have without : ∀ c : Char, c.isDigit = false → digits.contains c = false := fun c other => by
    simpa using own.not_mem other
  have lower : digits.map Char.toLower = digits := by
    rw [List.map_congr_left fun c inside => toLower_of_isDigit (own.all c inside), List.map_id']
  have word : ∀ w : String, ∀ c ∈ w.toList, c.isDigit = false → (String.ofList digits == w) = false :=
    fun w c inside letter => ofList_beq_eq_false fun same => own.not_mem letter (same ▸ inside)
  have read := own.read
  unfold Toml.readUnsigned
  simp only [without '.' rfl, without 'x' rfl, without 'e' rfl, without 'E' rfl, lower,
    word "inf" 'i' (by decide) rfl, word "nan" 'n' (by decide) rfl, read]
  rfl

/-- The text of an integer is read as a number. -/
theorem readNumber : readNumber (integerSign n ++ digits) = .ok (.integer n, .integer) := by
  have kept : digits.filter (· != '_') = digits := by
    refine List.filter_eq_self.mpr fun c inside => ?_
    simpa using ne_of_isDigit (own.all c inside) '_' rfl
  unfold integerSign
  split
  case isTrue negative =>
    show (Toml.readUnsigned (digits.filter (· != '_')) >>= fun read =>
      Except.ok (negated read.1, read.2)) = _
    rw [kept, own.readUnsigned, ok_bind]
    have same : -(n.natAbs : Int) = n := by omega
    rw [negated, same]
  case isFalse positive =>
    have same : (n.natAbs : Int) = n := by omega
    have noSign : ∀ c : Char, c.isDigit = false → ∀ rest, digits = c :: rest → False :=
      fun c other rest front =>
      own.not_mem other (by rw [front]; exact List.mem_cons_self)
    rw [List.nil_append, Toml.readNumber.eq_3 _ (noSign '-' rfl) (noSign '+' rfl), kept,
      own.readUnsigned, ok_bind, same]
    rfl

/-- The text of an integer begins with a character that opens nothing. -/
theorem exists_cons : ∃ c more, integerSign n ++ digits = c :: more ∧
    (c ≠ '\x22' ∧ c ≠ '\x27' ∧ c ≠ '[' ∧ c ≠ '\x7b') ∧ '-' ∉ more := by
  unfold integerSign
  split
  case isTrue => exact ⟨'-', digits, rfl, by decide, own.not_mem rfl⟩
  case isFalse =>
    obtain ⟨d, more, same⟩ := List.exists_cons_of_ne_nil own.filled
    have digit : d.isDigit = true := own.all d (by rw [same]; exact List.mem_cons_self)
    refine ⟨d, more, same, ⟨ne_of_isDigit digit _ rfl, ne_of_isDigit digit _ rfl,
      ne_of_isDigit digit _ rfl, ne_of_isDigit digit _ rfl⟩, fun inside => own.not_mem (c := '-') rfl ?_⟩
    rw [same]
    exact List.mem_cons_of_mem d inside

/-- The text of an integer is read as an integer. -/
theorem readWith (read : ValueReader) :
    readWith read (integerSign n ++ digits) true = .ok (.integer n, .integer) := by
  have number := own.readNumber
  have noTime : ':' ∉ integerSign n ++ digits := own.not_mem_part rfl (by decide)
  have noTrue : (String.ofList (integerSign n ++ digits) == "true") = false :=
    own.beq_word (c := 't') (by decide) rfl (by decide)
  have noFalse : (String.ofList (integerSign n ++ digits) == "false") = false :=
    own.beq_word (c := 'f') (by decide) rfl (by decide)
  have lower := own.map_toLower
  obtain ⟨c, more, same, ⟨noDouble, noSingle, noBracket, noBrace⟩, noDate⟩ := own.exists_cons
  rw [same] at number noTime noTrue noFalse lower ⊢
  have noClock : clockDigits? (c :: more) = none := by
    have third : ((c :: more)[2]? == some ':') = false := by
      refine beq_eq_false_iff_ne.mpr fun here => noTime ?_
      exact List.mem_of_getElem? here
    rw [clockDigits?]
    simp only [third, Bool.and_false, Bool.false_and, Bool.false_eq_true, if_false]
  have noPoint : '.' ∉ c :: more := same ▸ own.not_mem_part rfl (by decide)
  have noMoment := readMoment?_eq_none noPoint noDate
  rw [Toml.readWith]
  simp only [lower, noTrue, noFalse]
  simp [noDouble, noSingle, noBracket, noBrace, readClock?, noClock, noMoment, number]

end Digits

/-! ### Values -/

/-- A value that does not begin with a mark or a bracket ends on its line. -/
theorem openText?_word {c : Char} (other : c ≠ '\x22' ∧ c ≠ '\x27' ∧ c ≠ '[') (s : List Char) :
    openText? (c :: s) = .ok none := by
  obtain ⟨noDouble, noSingle, noBracket⟩ := other
  rw [openText?]
  split
  case isTrue => rfl
  case isFalse => simp [noDouble, noSingle, noBracket]

/-- A text in quotation marks ends on its line. -/
theorem openText?_text {s : List Char} (body : Body s) :
    openText? ('\x22' :: (s ++ ['\x22'])) = .ok none := by
  cases body with
  | nil => rfl
  | plain noMark => simp [openText?, noMark]
  | escape => simp [openText?]

namespace Shown

variable {d : Document} {part : List Char} (shown : Shown d part)
include shown

theorem simpleText? : simpleText? d = some (.ok part) := by
  cases shown with
  | flag => rfl
  | integer written => rw [Toml.simpleText?, written]
  | text faithful => rw [Toml.simpleText?, quote_eq faithful.toSpelled]

/-- The value is taken as it is up to the end of its line. -/
theorem passes (before rest : List Char) (long : 2 ≤ before.length) :
    passAll (inLine (' ' :: before)) (part ++ '\n' :: rest) =
      passAll (atLine ('\n' :: (part.reverse ++ ' ' :: before))) rest := by
  cases shown with
  | flag b => exact passAll_word (forall_mem_of_all (by cases b <;> decide)) _ _
  | integer written =>
      obtain ⟨digits, rfl, own⟩ := exists_digits written
      refine passAll_word (fun c inside => ?_) _ _
      rw [List.mem_append] at inside
      rcases inside with sign | digit
      · unfold integerSign at sign
        split at sign
        case isTrue => rw [List.mem_singleton.mp sign]; decide
        case isFalse => cases sign
      · exact forall_isDigit (P := fun c => isCommon c = true) (by decide) (own.all c digit)
  | text faithful =>
      have text := passAll_text (body_flatMap faithful.shown) long ('\n' :: rest)
      rw [List.cons_append, List.append_assoc, List.singleton_append, text, List.reverse_cons,
        List.reverse_append, List.append_assoc, List.singleton_append]
      rfl

theorem unbroken : Unbroken part := by
  cases shown with
  | flag b => cases b <;> decide
  | integer written =>
      obtain ⟨digits, rfl, own⟩ := exists_digits written
      exact ⟨own.not_mem_part rfl (by decide), own.not_mem_part rfl (by decide)⟩
  | text faithful => simpa [Unbroken] using (body_flatMap faithful.shown).noBreak

/-- The value does not end with a blank. -/
theorem last : ∃ front d, part = front ++ [d] ∧ isBlank d = false := by
  cases shown with
  | flag b =>
      cases b
      · exact ⟨"fals".toList, 'e', rfl, by decide +kernel⟩
      · exact ⟨"tru".toList, 'e', rfl, by decide +kernel⟩
  | @integer n _ written =>
      obtain ⟨digits, rfl, own⟩ := exists_digits written
      refine ⟨integerSign n ++ digits.dropLast, digits.getLast own.filled, ?_,
        isBlank_of_isDigit (own.all _ (List.getLast_mem _))⟩
      rw [List.append_assoc, List.dropLast_concat_getLast]
  | text => exact ⟨_, '\x22', (List.cons_append ..).symm, by decide +kernel⟩

/-- The value is not blank at its ends. -/
theorem strip_eq : strip part = part := by
  cases shown with
  | flag b => cases b <;> decide +kernel
  | integer written =>
      obtain ⟨digits, rfl, own⟩ := exists_digits written
      exact own.strip_part
  | text => exact Syscat.strip_eq (List.cons_append ..).symm (by decide +kernel) (by decide +kernel)

/-- No single quotation mark stands in front of the first double one. -/
theorem quotes : ∃ front parts, splitOn '\x22' part = front :: parts ∧ '\x27' ∉ front := by
  cases shown with
  | flag b => cases b <;> exact ⟨_, _, rfl, by decide⟩
  | integer written =>
      obtain ⟨digits, rfl, own⟩ := exists_digits written
      exact ⟨_, _, splitOn_eq (own.not_mem_part rfl (by decide)), own.not_mem_part rfl (by decide)⟩
  | text => exact ⟨[], _, by rw [splitOn, if_pos (by decide)], List.not_mem_nil⟩

/-- The value ends on its line. -/
theorem openText? : openText? part = .ok none := by
  cases shown with
  | flag b => cases b <;> rfl
  | integer written =>
      obtain ⟨digits, rfl, own⟩ := exists_digits written
      obtain ⟨c, more, same, ⟨noDouble, noSingle, noBracket, _⟩, _⟩ := own.exists_cons
      rw [same]
      exact openText?_word ⟨noDouble, noSingle, noBracket⟩ more
  | text faithful => exact openText?_text (body_flatMap faithful.shown)

/-- The value is read back. -/
theorem readWith (read : ValueReader) :
    ∃ kind, readWith read part (isStrictNumeral (' ' :: part)) = .ok (d.toValue, kind) := by
  cases shown with
  | flag b => cases b <;> exact ⟨_, rfl⟩
  | integer written =>
      obtain ⟨digits, rfl, own⟩ := exists_digits written
      rw [own.isStrictNumeral]
      exact ⟨_, own.readWith read⟩
  | @text s faithful =>
      have back := readText_quote faithful
      rw [String.ofList_toList] at back
      generalize hbody : s.toList.flatMap (quotedChar '\x22') ++ ['\x22'] = body at back ⊢
      have word : ∀ w : String, w.toList.head? ≠ some '\x22' →
          (String.ofList ('\x22' :: body) == w) = false :=
        fun w other => ofList_beq_eq_false fun same => other (by rw [← same]; rfl)
      have lower : ∀ w : String, w.toList.head? ≠ some '\x22' →
          (String.ofList (('\x22' :: body).map Char.toLower) == w) = false :=
        fun w other => ofList_beq_eq_false fun same => other (by rw [← same]; rfl)
      rw [Toml.readWith]
      simp only [word "true" (by decide), word "false" (by decide), lower "true" (by decide),
        lower "false" (by decide)]
      simp only [Bool.false_eq_true, if_false, Bool.or_self, beq_self_eq_true, Bool.true_or,
        if_true, back, ok_bind]
      exact ⟨_, rfl⟩

end Shown

/-! ### Entries -/

/-- What the characters of a name are not. -/
theorem nameChars_apart :
    ∀ c ∈ nameChars, c ≠ '\x22' ∧ c ≠ '\x27' ∧ c ≠ '=' ∧ c ≠ '.' ∧ isBlank c = false :=
  forall_mem_of_all (by decide +kernel)

theorem Bare.not_mem {name : String} (bare : Bare name) {c : Char} (other : c ∉ nameChars) :
    c ∉ name.toList :=
  fun inside => other (bare.2 c inside)

theorem Bare.visible {name : String} (bare : Bare name) :
    ∀ c ∈ name.toList, isBlank c = false := fun c inside =>
  (nameChars_apart c (bare.2 c inside)).2.2.2.2

theorem Bare.strip_eq {name : String} (bare : Bare name) : strip name.toList = name.toList := by
  obtain ⟨first, more, same⟩ := List.exists_cons_of_ne_nil bare.1
  have visible := bare.visible
  rw [same] at visible ⊢
  exact Syscat.strip_eq (List.dropLast_concat_getLast (List.cons_ne_nil _ _)).symm
    (visible first List.mem_cons_self) (visible _ (List.getLast_mem _))

theorem Bare.strip_concat {name : String} (bare : Bare name) :
    strip (name.toList ++ [' ']) = name.toList := by
  obtain ⟨first, more, same⟩ := List.exists_cons_of_ne_nil bare.1
  have alone := bare.strip_eq
  have visible := bare.visible
  rw [same] at visible alone ⊢
  rw [strip_concat_blank (visible first List.mem_cons_self) (by decide +kernel), alone]

/-- Without a single quotation mark in front of the first double one, the double ones separate. -/
theorem splitOnQuotes_eq {s front : List Char} {parts : List (List Char)}
    (split : splitOn '\x22' s = front :: parts) (noSingle : '\x27' ∉ front) :
    splitOnQuotes s = front :: parts := by
  have whole := splitOn_eq noSingle
  rw [splitOnQuotes, split]
  cases parts with
  | nil => simp [whole]
  | cons second more => simp [noSingle, whole]

/-- The first equals sign is the one behind the name. -/
theorem cutAtEquals_one {front : List Char} (without : '=' ∉ front) (value : List Char) :
    cutAtEquals 1 (front ++ '=' :: value) = (front, value) := by
  obtain ⟨part, parts, split⟩ := exists_splitOn '=' value
  have whole := intercalate_splitOn '=' value
  rw [split] at whole
  rw [cutAtEquals, splitOn_append without, split]
  simp [whole]

theorem findValue_blank (line : List Char) (fuel : Nat) (value : List Char) (strict : Bool) :
    findValue line (fuel + 1) 1 (' ' :: value) strict =
      .ok ((cutAtEquals 1 line).1, ' ' :: value, strict) := by
  have starts : isValueStart (' ' :: value) = .ok true := by
    rw [isValueStart, if_pos (by simp)]
  rw [findValue, starts, ok_bind]
  rfl

/-- An entry is split at its equals sign, whatever stands in its value. -/
theorem splitEntry_eq {name : String} (bare : Bare name) {d : Document} {part : List Char}
    (shown : Shown d part) : splitEntry (name.toList ++ " = ".toList ++ part) =
      .ok (name.toList, part, isStrictNumeral (' ' :: part)) := by
  obtain ⟨front, parts, split, noSingle⟩ := shown.quotes
  have shape : name.toList ++ " = ".toList ++ part = (name.toList ++ [' ']) ++ '=' :: (' ' :: part) := by
    simp
  have quotes : splitOnQuotes (name.toList ++ " = ".toList ++ part) =
      (name.toList ++ " = ".toList ++ front) :: parts := by
    refine splitOnQuotes_eq (splitOn_append_part ?_ split) ?_
    · simpa using bare.not_mem (c := '\x22') (by decide)
    · simpa using ⟨bare.not_mem (c := '\x27') (by decide), noSingle⟩
  have cut := @cutAtEquals_one (name.toList ++ [' '])
    (by simpa using bare.not_mem (c := '=') (by decide)) (' ' :: part)
  rw [← shape] at cut
  have first : countQuoted (fun part => part.count '=') false
      ((name.toList ++ " = ".toList ++ front) :: parts) = 0 := by
    rw [countQuoted, if_pos]
    simp [List.count_pos_iff]
  have noDigit : withoutUnderscores (' ' :: part) = ' ' :: part := rfl
  rw [splitEntry, quotes]
  simp only [first, Nat.add_zero, cut, noDigit, findValue_blank, ok_bind]
  rw [bare.strip_concat, strip_blank_cons (by decide +kernel), shown.strip_eq]
  rfl

theorem readName_bare {name : String} (bare : Bare name) : readName name.toList = .ok ([], name) := by
  obtain ⟨first, more, same⟩ := List.exists_cons_of_ne_nil bare.1
  obtain ⟨noDouble, noSingle, _⟩ :=
    nameChars_apart first (bare.2 first (by rw [same]; exact List.mem_cons_self))
  have back : String.ofList (first :: more) = name := by rw [← same, String.ofList_toList]
  unfold readName
  rw [if_neg (by simpa using bare.not_mem (c := '.') (by decide)), same]
  simp [noDouble, noSingle, back]

/-- An entry puts its value into the table under a name that the table does not have. -/
theorem putEntry_shown {name : String} (bare : Bare name) {d : Document} {part : List Char}
    (shown : Shown d part) (read : List Char → Bool → Except ReadFailure (Value × Kind))
    {entries : List (Value × Value)} (fresh : Value.entry? name entries = none) :
    putEntry (readWith read) (name.toList ++ " = ".toList ++ part) (.table entries) =
      .ok (.table (Value.insertEntry (.text name) d.toValue entries), none) := by
  obtain ⟨kind, value⟩ := shown.readWith read
  rw [putEntry, splitEntry_eq bare shown, ok_bind]
  dsimp only
  rw [readName_bare bare, ok_bind]
  dsimp only
  rw [withTables, shown.openText?, ok_bind]
  dsimp only
  rw [value, ok_bind]
  dsimp only
  rw [putNew, fresh]
  rfl

end Syscat.Toml
