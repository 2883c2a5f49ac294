/-
Module: Syscat.Proofs.Toml.Opened
Purpose: What the lines of a record in the list of routines do to what has been read: a header opens a new
  table, and an entry puts a value into the table that is open.
Main exports: Toml.Within, Toml.openedAt, Toml.readLine_header, Toml.readLine_entry, Toml.readLine_record
-/
import Syscat.Proofs.Toml.Layout
import Syscat.Toml.Reader

namespace Syscat

namespace Value

section
variable {name : String} {entries : List (Value × Value)} (fresh : entry? name entries = none)
include fresh

/-! ### Names that entries do not have -/

theorem equal_eq_false_of_fresh : ∀ e ∈ entries, equal e.1 (.text name) = false := by
  simpa [ entry?, List.find?_eq_none] using fresh

theorem entry?_append (more : List (Value × Value)) :
    entry? name (entries ++ more) = entry? name more := by
  have none : entries.find? (fun e => equal e.1 (.text name)) = none := by simpa [ entry?] using fresh
  rw [ entry?, List.find?_append, none]
  rfl

theorem insertEntry_append (v : Value) (more : List (Value × Value)) :
    insertEntry (.text name) v (entries ++ more) = entries ++ insertEntry (.text name) v more := by
  have other := equal_eq_false_of_fresh fresh
  clear fresh
  induction entries with
  | nil => rfl
  | cons e entries ih =>
      obtain ⟨first, later⟩ := List.forall_mem_cons.mp other
      rw [List.cons_append, insertEntry, first, if_neg Bool.false_ne_true, ih later]
      rfl

/-- A new entry is put behind the others. -/
theorem insertEntry_fresh (v : Value) :
    insertEntry (.text name) v entries = entries ++ [(.text name, v)] := by
  have put := insertEntry_append fresh v []
  rwa [List.append_nil] at put

end

section
variable {name : String}

theorem equal_text (name : String) : equal (.text name) (.text name) = true := by simp [equal]

theorem entry?_cons_self (v : Value) (more : List (Value × Value)) :
    entry? name ((.text name, v) :: more) = some v := by
  rw [ entry?, List.find?_cons, equal_text]
  rfl

theorem insertEntry_cons_self (v w : Value) (more : List (Value × Value)) :
    insertEntry (.text name) v ((.text name, w) :: more) = (.text name, v) :: more := by
  rw [insertEntry, equal_text]
  rfl

end

end Value

namespace Toml

open Value

/-! ### Tables inside a table -/

/-- How the entries of a table stand in those of an outer one, at the end of a path. -/
inductive Within : List String → (List (Value × Value) → List (Value × Value)) → Prop where
  | here : Within [] id
  | inner {name : String} {path : List String} {place : List (Value × Value) → List (Value × Value)}
      {before : List (Value × Value)} (fresh : entry? name before = none) (after : List (Value × Value))
      (deeper : Within path place) :
      Within (name :: path) fun entries => before ++ (.text name, .table (place entries)) :: after

section
variable {path : List String} {place : List (Value × Value) → List (Value × Value)}
  (within : Within path place)
include within

/-- A table in a table at the end of a path is at the end of a longer path. -/
theorem Within.concat {name : String} {before : List (Value × Value)} (fresh : entry? name before = none)
    (after : List (Value × Value)) :
    Within (path ++ [name]) fun entries => place (before ++ (.text name, .table entries) :: after) := by
  induction within with
  | here => exact .inner fresh after .here
  | inner own behind _ ih => exact .inner own behind ih

/-- To follow the path and change the table there changes it in its place. -/
theorem changeAt_within {α : Type} {change : Value → Except ReadFailure (Value × α)}
    {entries entries' : List (Value × Value)} {result : α}
    (changed : change (.table entries) = .ok (.table entries', result)) :
    changeAt change (path.map Step.name) (.table (place entries)) =
      .ok (.table (place entries'), result) := by
  induction within with
  | here => exact changed
  | @inner name path place before fresh after _ ih =>
      rw [List.map_cons, changeAt, entry?_append fresh, entry?_cons_self, Option.getD_some, ih, ok_bind]
      dsimp only
      rw [insertEntry_append fresh, insertEntry_cons_self]
      rfl

/-- A header with a new name behind the path puts an empty table there. -/
theorem followNames_within {name : String} (filled : name ≠ "") (named : ∀ n ∈ path, n ≠ "")
    {entries : List (Value × Value)} (fresh : entry? name entries = none) :
    followNames false [] (path ++ [name]) (.table (place entries)) =
      .ok ⟨.table (place (entries ++ [(.text name, .table [])])),
        (path ++ [name]).map Step.name, []⟩ := by
  have some : ∀ n : String, n ≠ "" → n.isEmpty = false := fun n other => by
    simpa [String.isEmpty_iff] using other
  induction within with
  | here =>
      rw [List.nil_append, followNames, some name filled, if_neg Bool.false_ne_true]
      dsimp only
      rw [id, fresh]
      show Except.ok _ = Except.ok _
      rw [insertEntry_fresh fresh]
      rfl
  | @inner first path place before own after _ ih =>
      obtain ⟨notEmpty, later⟩ := List.forall_mem_cons.mp named
      have more : (path ++ [name]).isEmpty = false := by simp
      rw [List.cons_append, followNames, some first notEmpty, if_neg Bool.false_ne_true]
      dsimp only
      rw [entry?_append own, entry?_cons_self, more]
      dsimp only
      have again : mentionAgain false false [] first (.table (place entries)) =
          .ok (.table (place entries), []) := rfl
      rw [again, ok_bind]
      dsimp only
      rw [goInto, ih later, ok_bind]
      dsimp only
      rw [insertEntry_append own, insertEntry_cons_self]
      rfl

end

/-! ### The list of routines -/

/-- A document whose only entry is the list of routines. -/
def routinesTable (items : List Value) : Value :=
  .table [(.text "routines", .list items)]

/-- What has been read when the table at the end of a path is open, inside the last routine. -/
def openedAt (items : List Value) (last : List (Value × Value)) (path : List String) : Reading :=
  ⟨⟨routinesTable (items ++ [.table last]), .name "routines" :: .last :: path.map Step.name, []⟩, none⟩

theorem lastPart_concat (items : List Value) (v : Value) : lastPart (.list (items ++ [v])) = .ok v := by
  rw [lastPart, List.getLast?_concat]

theorem noTable (items : List Value) (entries : List (Value × Value)) :
    Value.list items = .table entries → False := nofun

theorem replaceLast_concat (items : List Value) (v w : Value) :
    replaceLast v (.list (items ++ [w])) = .list (items ++ [v]) := by
  rw [replaceLast, List.dropLast_concat]

section
variable {path : List String} {place : List (Value × Value) → List (Value × Value)}
  (within : Within path place)
  (items : List Value)
include within

/-- The table that is open can be changed. -/
theorem change_openedAt {α : Type} {change : Value → Except ReadFailure (Value × α)}
    {entries entries' : List (Value × Value)} {result : α}
    (changed : change (.table entries) = .ok (.table entries', result)) :
    (openedAt items (place entries) path).change change =
      .ok (openedAt items (place entries') path, result) := by
  have inner := changeAt_within within changed
  have list : changeAt change (.last :: path.map Step.name) (.list (items ++ [.table (place entries)])) =
      .ok (.list (items ++ [.table (place entries')]), result) := by
    rw [changeAt, lastPart_concat, ok_bind, inner, ok_bind]
    dsimp only
    rw [replaceLast_concat]
    rfl
  have value : changeAt change (.name "routines" :: .last :: path.map Step.name)
      (routinesTable (items ++ [.table (place entries)])) =
      .ok (routinesTable (items ++ [.table (place entries')]), result) := by
    rw [routinesTable, changeAt, entry?_cons_self, Option.getD_some, list, ok_bind]
    dsimp only
    rw [insertEntry_cons_self]
    rfl
  rw [Reading.change, openedAt]
  dsimp only
  rw [value]
  rfl

/-- A header with a new name opens an empty table inside the last routine. -/
theorem followNames_openedAt {name : String} (filled : name ≠ "") (named : ∀ n ∈ path, n ≠ "")
    {entries : List (Value × Value)} (fresh : entry? name entries = none) :
    followNames false [] ("routines" :: (path ++ [name]))
      (routinesTable (items ++ [.table (place entries)])) =
      .ok (openedAt items (place (entries ++ [(.text name, .table [])])) (path ++ [name])).opened := by
  have some : ∀ n : String, n ≠ "" → n.isEmpty = false := fun n other => by
    simpa [String.isEmpty_iff] using other
  have list : followNames false [] (path ++ [name]) (.list (items ++ [.table (place entries)])) =
      .ok ⟨.list (items ++ [.table (place (entries ++ [(.text name, .table [])]))]),
        .last :: (path ++ [name]).map Step.name, []⟩ := by
    cases within with
    | here =>
        rw [List.nil_append, followNames.eq_3 _ _ _ _ _ (noTable _), some name filled,
          if_neg Bool.false_ne_true]
        dsimp only
        rw [lastPart_concat, ok_bind]
        dsimp only
        rw [id, fresh]
        show Except.ok _ = Except.ok _
        rw [insertEntry_fresh fresh, replaceLast_concat]
        rfl
    | @inner first path place before own after deeper =>
        obtain ⟨notEmpty, later⟩ := List.forall_mem_cons.mp named
        have follow := followNames_within deeper filled later fresh
        rw [List.cons_append, followNames.eq_3 _ _ _ _ _ (noTable _), some first notEmpty,
          if_neg Bool.false_ne_true]
        dsimp only
        rw [lastPart_concat, ok_bind]
        dsimp only
        rw [entry?_append own, entry?_cons_self, Option.getD_some, goInto, follow, ok_bind]
        dsimp only
        rw [insertEntry_append own, insertEntry_cons_self, replaceLast_concat]
        rfl
  have more : (path ++ [name]).isEmpty = false := by simp
  have again : mentionAgain false false [] "routines" (.list (items ++ [.table (place entries)])) =
      .ok (.list (items ++ [.table (place entries)]), []) := rfl
  rw [routinesTable, followNames, some "routines" (by decide), if_neg Bool.false_ne_true]
  dsimp only
  rw [entry?_cons_self, more]
  dsimp only
  rw [again, ok_bind]
  dsimp only
  rw [goInto, list, ok_bind]
  dsimp only
  rw [insertEntry_cons_self]
  rfl

end

/-- The header of a routine opens an empty table behind the others. -/
theorem followNames_routine (items : List Value) :
    followNames true [] ["routines"] (routinesTable items) = .ok (openedAt items [] []).opened := by
  have again : mentionAgain true true [] "routines" (.list items) =
      .ok (.list (items ++ [.table []]), []) := rfl
  have filled : ("routines" : String).isEmpty = false := by decide
  have inside : goInto true (.list (items ++ [.table []])) (followNames true [] []) =
      .ok ⟨.list (items ++ [.table []]), [.last], []⟩ := by
    rw [goInto.eq_3 _ _ (noTable _), lastPart_concat, ok_bind, followNames, ok_bind]
    dsimp only
    rw [replaceLast_concat]
    rfl
  rw [routinesTable, followNames, filled, if_neg Bool.false_ne_true]
  dsimp only
  rw [entry?_cons_self]
  dsimp only
  rw [show List.isEmpty ([] : List String) = true from rfl, again, ok_bind]
  dsimp only
  rw [inside, ok_bind]
  dsimp only
  rw [insertEntry_cons_self]
  rfl

theorem followNames_first :
    followNames true [] ["routines"] (.table []) = .ok (openedAt [] [] []).opened := rfl

/-! ### Headers -/

theorem countOccurrences_concat (c : Char) (s : List Char) : 0 < countOccurrences [c] (s ++ [c]) := by
  induction s with
  | nil => simp [countOccurrences]
  | cons d s ih =>
      cases s with
      | nil => simp [countOccurrences]
      | cons e s =>
          rw [List.cons_append, List.cons_append, countOccurrences]
          exact Nat.lt_of_lt_of_le ih (Nat.le_add_left _ _)

theorem cutAtBracket?_concat {c : Char} {s : List Char} (without : c ∉ s) :
    cutAtBracket? [c] 1 (s ++ [c]) = some (s, []) := by
  induction s with
  | nil => simp [cutAtBracket?]
  | cons d s ih =>
      obtain ⟨other, later⟩ : c ≠ d ∧ c ∉ s := by simpa using without
      rw [List.cons_append, cutAtBracket?, if_neg (by simpa using other), ih later]
      rfl

/-- The names of a path are the parts of its text. -/
theorem splitOn_pathText {path : List String} (filled : path ≠ []) (bare : ∀ name ∈ path, Bare name) :
    splitOn '.' (pathText path) = path.map String.toList := by
  induction path with
  | nil => exact absurd rfl filled
  | cons first rest ih =>
      have without := (bare first List.mem_cons_self).not_mem (c := '.') (by decide)
      cases rest with
      | nil => simpa [pathText] using splitOn_eq without
      | cons second rest =>
          have later := ih (List.cons_ne_nil _ _) fun name inside =>
            bare name (List.mem_cons_of_mem _ inside)
          rw [pathText, List.map_cons, List.map_cons, List.intercalate_cons_cons, List.append_assoc,
            List.singleton_append, splitOn_append without]
          exact congrArg (first.toList :: ·) later

theorem isBareChar_nameChars : ∀ c ∈ nameChars, isBareChar c = true :=
  forall_mem_of_all (by decide)

theorem headerNames_bare {path : List String} (bare : ∀ name ∈ path, Bare name) :
    headerNames (path.length + 1) (path.map String.toList) = .ok path := by
  induction path with
  | nil => rfl
  | cons name rest ih =>
      obtain ⟨own, later⟩ := List.forall_mem_cons.mp bare
      have all : name.toList.all isBareChar = true :=
        List.all_eq_true.mpr fun c inside => isBareChar_nameChars c (own.2 c inside)
      have strip := own.strip_eq
      have back := String.ofList_toList (s := name)
      obtain ⟨first, more, same⟩ := List.exists_cons_of_ne_nil own.1
      obtain ⟨noDouble, noSingle, _⟩ :=
        nameChars_apart first (own.2 first (by rw [same]; exact List.mem_cons_self))
      rw [List.map_cons, List.length_cons, headerNames, strip]
      rw [same] at all back ⊢
      dsimp only
      rw [if_neg (by simp [noDouble, noSingle]), if_pos all, ih later, ok_bind, back]
      rfl

/-- A header is read as its path. -/
theorem readHeader_header {path : List String} (filled : path ≠ []) (bare : ∀ name ∈ path, Bare name) :
    readHeader (header path) = .ok (false, path) := by
  have common := isCommon_pathText bare
  have without : ∀ c : Char, isCommon c = false → c ∉ pathText path := fun c mark inside =>
    absurd (common c inside) (by rw [mark]; exact Bool.false_ne_true)
  have quotes : splitOnQuotes (pathText path ++ [']']) = [pathText path ++ [']']] :=
    splitOnQuotes_eq (splitOn_eq (by simpa using without '\x22' (by decide)))
      (by simpa using without '\x27' (by decide))
  have first : countQuoted (countOccurrences [']']) false [pathText path ++ [']']] = 0 := by
    rw [countQuoted, if_pos (by simpa using countOccurrences_concat ']' _)]
  have cut := cutAtBracket?_concat (without ']' (by decide))
  have parts := splitOn_pathText filled bare
  have names := headerNames_bare bare
  have blank : (strip []).isEmpty = true := rfl
  obtain ⟨second, more, same⟩ := List.exists_cons_of_ne_nil (pathText_ne_nil filled bare)
  have single : (second == '[') = false := by
    refine beq_eq_false_iff_ne.mpr fun bracket => without '[' (by decide) ?_
    rw [same, bracket]
    exact List.mem_cons_self
  rw [header, readHeader, List.drop_one, List.tail_cons]
  rw [same, List.cons_append] at quotes first cut ⊢
  rw [same] at parts
  dsimp only
  simp only [single, Bool.false_eq_true, if_false, quotes, first, Nat.add_zero, cut, blank,
    Bool.not_true, parts, List.length_map, names, ok_bind]
  rfl

/-! ### Lines -/

/-- A line that begins with a bracket and ends with one is a header. -/
theorem readLine_bracket {r : Reading} (calm : r.pending = none) {s : List Char} {tables : Bool}
    {names : List String} (header : readHeader ('[' :: (s ++ [']'])) = .ok (tables, names))
    {opened : Opened}
    (followed : followNames tables r.opened.implicit names r.opened.value = .ok opened) :
    r.readLine ('[' :: (s ++ [']'])) = .ok { r with opened } := by
  have stripped : strip ('[' :: (s ++ [']'])) = '[' :: (s ++ [']']) :=
    strip_eq (List.cons_append ..).symm (by decide +kernel) (by decide +kernel)
  rw [Reading.readLine, calm]
  dsimp only
  rw [stripped, Reading.begin]
  dsimp only
  rw [if_pos (by decide), header, ok_bind]
  dsimp only
  rw [followed, ok_bind, calm]
  rfl

/-- The header of a routine opens an empty table behind the routines before. -/
theorem readLine_recordsHeader (items : List Value) (last : List (Value × Value)) (path : List String) :
    (openedAt items last path).readLine recordsHeader =
      .ok (openedAt (items ++ [.table last]) [] []) := by
  have header : readHeader recordsHeader = .ok (true, ["routines"]) :=
    eq_ok_of_toOption (by decide +kernel)
  exact readLine_bracket (s := "[routines]".toList) rfl header (followNames_routine _)

/-- So does the first line of all. -/
theorem readLine_first : Reading.start.readLine recordsHeader = .ok (openedAt [] [] []) := by
  have header : readHeader recordsHeader = .ok (true, ["routines"]) :=
    eq_ok_of_toOption (by decide +kernel)
  exact readLine_bracket (s := "[routines]".toList) rfl header followNames_first

section
variable {path : List String} {place : List (Value × Value) → List (Value × Value)}
  (within : Within path place)
  (items : List Value) {name : String} (bare : Bare name) {entries : List (Value × Value)}
  (fresh : entry? name entries = none)
include within bare fresh

/-- The header of a table opens an empty one behind the entries of the table around it, whichever
table was open before. -/
theorem readLine_header (named : ∀ n ∈ path, Bare n) (before : List String) :
    (openedAt items (place entries) before).readLine (header ("routines" :: (path ++ [name]))) =
      .ok (openedAt items (place (entries ++ [(.text name, .table [])])) (path ++ [name])) := by
  have notEmpty : ∀ n : String, Bare n → n ≠ "" := fun n own none => own.1 (by rw [none]; rfl)
  have all : ∀ n ∈ "routines" :: (path ++ [name]), Bare n := by
    refine List.forall_mem_cons.mpr ⟨by decide, fun n inside => ?_⟩
    rcases List.mem_append.mp inside with front | last
    · exact named n front
    · rw [List.mem_singleton.mp last]
      exact bare
  exact readLine_bracket rfl (readHeader_header (List.cons_ne_nil _ _) all)
    (followNames_openedAt within items (notEmpty name bare) (fun n inside =>
      notEmpty n (named n inside)) fresh)

/-- An entry puts its value behind the others of the table that is open. -/
theorem readLine_entry {d : Document} {part : List Char} (shown : Shown d part) :
    (openedAt items (place entries) path).readLine (name.toList ++ " = ".toList ++ part) =
      .ok (openedAt items (place (entries ++ [(.text name, d.toValue)])) path) := by
  obtain ⟨first, more, same⟩ := List.exists_cons_of_ne_nil bare.1
  obtain ⟨front, last, ends, visible⟩ := shown.last
  have letter : first ∈ nameChars := bare.2 first (by rw [same]; exact List.mem_cons_self)
  have noBracket : (first == '[') = false ∧ (first == '\x7b') = false := by
    constructor <;> refine beq_eq_false_iff_ne.mpr ?_ <;> rintro rfl <;> exact absurd letter (by decide)
  generalize whole : name.toList ++ " = ".toList ++ part = line
  have begins : ∃ rest, line = first :: rest := ⟨_, by rw [← whole, same]; rfl⟩
  obtain ⟨rest, rfl⟩ := begins
  have stripped : strip (first :: rest) = first :: rest :=
    strip_eq (by rw [← whole, ends, ← List.append_assoc]) (nameChars_apart first letter).2.2.2.2 visible
  have equals : (first :: rest).contains '=' = true := by
    rw [← whole]
    simp
  have put := putEntry_shown bare shown (readDeep (first :: rest).length) fresh
  rw [whole, insertEntry_fresh fresh] at put
  rw [Reading.readLine]
  show (openedAt items (place entries) path).begin (strip (first :: rest)) = _
  rw [stripped, Reading.begin]
  dsimp only
  rw [noBracket.1, noBracket.2, equals]
  have changed := change_openedAt within items put
  rw [show readWith (readDeep (first :: rest).length) =
    readDeep ((first :: rest).length + 1) from rfl] at changed
  simp only [Bool.false_eq_true, if_false, if_true, changed, ok_bind]
  rfl

end

end Toml

end Syscat
