/-
Module: Syscat.Proofs.Yaml.Tokens
Purpose: How the tokens of a text in block style are read one after the other: gaps, the ends of blocks,
  keys, scalars and the hyphens of items.
Main exports: Yaml.Scans, Yaml.Scans.key, Yaml.Scans.scalar, Yaml.Scans.item
-/
import Syscat.Proofs.Yaml.Scalars
import Syscat.Yaml.Token

namespace Syscat.Yaml

namespace Lexer

/-- A state outside of brackets in which no key may have begun. -/
def outside (c : Cursor) (keyAllowed : Bool) (indent : Int) (outerIndents : List Int)
    (tokens : List Token) : Lexer :=
  ⟨c, indent, outerIndents, none, [], keyAllowed, tokens⟩

/-- No gap stands at the front of a text, not even a comment. -/
structure Settled (s : List Char) : Prop where
  ungapped : Ungapped s
  noComment : ∀ c ∈ s.head?, c ≠ '#'

section
variable {c : Cursor} {rest : List Char} {keyAllowed : Bool} {indent : Int} {outer : List Int}
  {tokens : List Token}

/-! ### Gaps -/

/-- A token is read, and then those behind it. -/
theorem readTokens_of_advance {s t : Lexer} (token : s.advance = .ok (t, false)) (fuel : Nat) :
    readTokens (fuel + 1) s = readTokens fuel t := by
  rw [readTokens, token]

/-- The tokens that are read depend on the next one that is. -/
theorem map_readTokens_congr {s t : Lexer} {all : List Token} (same : s.advance = t.advance) {fuel : Nat}
    (read : (readTokens (fuel + 1) t).map Lexer.tokens = .ok all) :
    (readTokens (fuel + 1) s).map Lexer.tokens = .ok all := by
  rw [readTokens, same]
  rw [readTokens] at read
  cases token : t.advance with
  | error e =>
      rw [token] at read
      cases read
  | ok next =>
      obtain ⟨next, last⟩ := next
      rw [token] at read
      cases last <;> exact read

/-- What is read next depends on what is left behind a gap. -/
theorem advance_congr {s t : Lexer}
    (same : s.skipGap (s.cursor.rest.length + 1) = t.skipGap (t.cursor.rest.length + 1)) :
    s.advance = t.advance := by
  rw [advance, advance, same]

/-- No gap is passed where none stands. -/
theorem skipGap_settled {s : Lexer} (settled : Settled s.cursor.rest) (fuel : Nat) :
    s.skipGap (fuel + 1) = s := by
  have stays : s.cursor.skipBlanks = s.cursor :=
    Cursor.skipBlanks_eq rfl fun d front => (settled.ungapped d front).1
  have noComment := Cursor.ahead_comment rfl settled.noComment
  have noBreak := Cursor.ahead_break rfl settled.ungapped
  simp only [skipGap, stays, noComment, noBreak, Bool.false_eq_true, if_false]
  rfl

/-- Behind a line end a key may begin. -/
theorem skipGap_newline (here : c.rest = '\n' :: rest) (fuel : Nat) :
    (outside c keyAllowed indent outer tokens).skipGap (fuel + 1) =
      (outside c.next true indent outer tokens).skipGap fuel := by
  have stays : c.skipBlanks = c := Cursor.skipBlanks_eq here (by simp)
  have noComment : c.ahead (· == '#') = false := Cursor.ahead_eq here _
  have isEnd : c.ahead isBreak = true := Cursor.ahead_eq here _
  have next : c.skipBreak = c.next := congrArg Prod.snd (Cursor.lineBreak_newline here)
  simp only [skipGap, outside, stays, noComment, isEnd, next, Bool.false_eq_true, if_false, if_true]
  rfl

/-- Blanks are passed. -/
theorem skipGap_blanks (settled : Settled rest) {count : Nat}
    (here : c.rest = List.replicate count ' ' ++ rest) (fuel : Nat) :
    (outside c keyAllowed indent outer tokens).skipGap (fuel + 1) =
      outside (c.skip count) keyAllowed indent outer tokens := by
  have taken : c.skipBlanks = c.skip count := by
    have run : (List.replicate count ' ' ++ rest).takeWhile (· == ' ') = List.replicate count ' ' :=
      takeWhile_run (fun d inside => by rw [List.eq_of_mem_replicate inside]; rfl)
        fun d front => by simpa using (settled.ungapped d front).1
    rw [Cursor.skipBlanks, Cursor.skipWhile, Cursor.takeWhile, here, run, List.length_replicate]
  have left : (c.skip count).rest = rest := by
    rw [Cursor.rest_skip, here, List.drop_left' List.length_replicate]
  have noComment := Cursor.ahead_comment left settled.noComment
  have noBreak := Cursor.ahead_break left settled.ungapped
  simp only [skipGap, outside, taken, noComment, noBreak, Bool.false_eq_true, if_false]
  rfl

/-! ### The ends of blocks -/

/-- No block ends at a column inside it. -/
theorem unwindTo_inside {s : Lexer} {column : Int} (inside : s.indent ≤ column) :
    s.unwindTo column = s := by
  rw [unwindTo]
  cases s.outerIndents with
  | nil => rfl
  | cons o outer => simp [unwind, Int.not_lt.mpr inside]

/-- A block ends in front of what is not indented as deep. -/
theorem unwindTo_shallow {column o : Int} (shallow : column < indent) :
    (outside c keyAllowed indent (o :: outer) tokens).unwindTo column =
      (outside c keyAllowed o outer (.blockEnd :: tokens)).unwindTo column := by
  simp [unwindTo, unwind, outside, inFlow, emit, shallow]

/-- Inside a block the next token is read. -/
theorem advance_cons {s after : Lexer} {d : Char} (settled : Settled (d :: rest))
    (here : s.cursor.rest = d :: rest) (fresh : s.refreshMarks = .ok s) (inside : s.indent ≤ s.column)
    (token : s.readToken d rest = .ok after) : s.advance = .ok (after, false) := by
  rw [advance, skipGap_settled (by rw [here]; exact settled), fresh, ok_bind]
  simp only [unwindTo_inside inside, here, token, ok_bind, pure_eq_ok]

/-- In front of what is not indented as deep a block ends. -/
theorem advance_shallow {o : Int} (settled : Settled c.rest) (shallow : c.column < indent) :
    (outside c keyAllowed indent (o :: outer) tokens).advance =
      (outside c keyAllowed o outer (.blockEnd :: tokens)).advance := by
  have fresh : ∀ indent outer tokens, (outside c keyAllowed indent outer tokens).refreshMarks =
      .ok (outside c keyAllowed indent outer tokens) := fun _ _ _ => rfl
  have ends : (outside c keyAllowed indent (o :: outer) tokens).unwindTo
        (column (outside c keyAllowed indent (o :: outer) tokens)) =
      (outside c keyAllowed o outer (.blockEnd :: tokens)).unwindTo
        (column (outside c keyAllowed o outer (.blockEnd :: tokens))) := unwindTo_shallow shallow
  rw [advance, advance, skipGap_settled settled, skipGap_settled settled, fresh, fresh, ok_bind, ok_bind]
  simp only [ends]

/-- At the end of the text the outermost block ends. -/
theorem advance_end (here : c.rest = []) : (outside c keyAllowed 0 [-1] tokens).advance =
    .ok (outside c keyAllowed (-1) [] (.blockEnd :: tokens), true) := by
  have settled : Settled c.rest := by
    rw [here]
    exact ⟨nofun, nofun⟩
  have fresh : (outside c keyAllowed 0 [-1] tokens).refreshMarks =
      .ok (outside c keyAllowed 0 [-1] tokens) := rfl
  have stays : (outside c keyAllowed 0 [-1] tokens).unwindTo
      (column (outside c keyAllowed 0 [-1] tokens)) = outside c keyAllowed 0 [-1] tokens :=
    unwindTo_inside (by simp [column, outside])
  have front : (outside c keyAllowed 0 [-1] tokens).cursor.rest = [] := here
  rw [advance, skipGap_settled settled, fresh, ok_bind]
  simp only [stays, front]
  rfl

/-! ### Items -/

theorem atSeparator_item (here : c.rest = '-' :: ' ' :: rest) : c.atSeparator = false := by
  unfold Cursor.atSeparator
  rw [here]
  split
  case h_1 same =>
    cases same
    rfl
  case h_2 => rfl

/-- The hyphen of the first item begins the block. -/
theorem readToken_first (here : c.rest = '-' :: ' ' :: rest) (begins : c.column = 0) :
    (outside c true (-1) [] tokens).readToken '-' (' ' :: rest) =
      .ok (outside c.next true 0 [-1] (.blockEntry :: .blockSequenceStart :: tokens)) := by
  have apart := atSeparator_item here
  simp [readToken, outside, apart, begins, atGap, blockEntry, openBlock, indentTo, inFlow, dropMark,
    emit, moveTo, column]

/-- Those of the others belong to it. -/
theorem readToken_next (here : c.rest = '-' :: ' ' :: rest) (begins : c.column = 0) :
    (outside c true 0 outer tokens).readToken '-' (' ' :: rest) =
      .ok (outside c.next true 0 outer (.blockEntry :: tokens)) := by
  have apart := atSeparator_item here
  simp [readToken, outside, apart, begins, atGap, blockEntry, openBlock, indentTo, inFlow, dropMark,
    emit, moveTo, column]

/-! ### Plain scalars and keys -/

/-- No gap stands in front of a scalar. -/
theorem settled_opens {w : List Char} (opens : Opens w) (rest : List Char) : Settled (w ++ rest) := by
  obtain ⟨d, more, rfl, visible, noBlank, noIndicator, _⟩ := opens
  refine ⟨ungapped_cons.mpr (solid_of_isVisible visible noBlank), ?_⟩
  rintro _ ⟨⟩ rfl
  cases noIndicator

theorem settled_mark (double : Bool) (rest : List Char) : Settled (quotationMark double :: rest) :=
  ⟨ungapped_cons.mpr (solid_quotationMark double), by cases double <;> simp [quotationMark]⟩

theorem settled_written {least : Nat} {w s : List Char} {isPlain : Bool}
    (written : Written least w isPlain s) (rest : List Char) : Settled (w ++ rest) := by
  cases written with
  | plain opens => exact settled_opens opens rest
  | quoted => exact settled_mark _ _

/-- Outside of brackets a plain scalar begins with no indicator, and with a hyphen, a colon or a question
mark only if no gap follows. -/
theorem startsPlain_eq_true {s : Lexer} {d : Char} (outside : s.inFlow = false)
    (visible : isVisible d = true) (noIndicator : isIndicator d = false)
    (noGap : d = '-' ∨ d = ':' ∨ d = '?' → atGap rest = false) : s.startsPlain d rest = true := by
  have known : ∀ e ∈ "-?:,[]\x7b\x7d#&*!|>\x27\x22%@\x60".toList,
      isIndicator e = true ∨ e = '-' ∨ e = ':' ∨ e = '?' := forall_mem_of_all (by decide)
  unfold startsPlain
  split
  case isTrue listed =>
    rcases known d (List.contains_iff_mem.mp listed) with indicator | mark
    · rw [noIndicator] at indicator
      cases indicator
    · rw [noGap mark, outside]
      rcases mark with rfl | rfl | rfl <;> rfl
  case isFalse => simpa using ne_of_isVisible visible '\t' rfl

/-- What a plain scalar can begin with begins one. -/
theorem readToken_plain {w : List Char} (opens : Opens w) (rest : List Char) :
    ∃ d tail, w ++ rest = d :: tail ∧ Settled (d :: tail) ∧
      ∀ s : Lexer, s.inFlow = false → 0 < s.cursor.column → s.readToken d tail = s.plain := by
  have settled := settled_opens opens rest
  obtain ⟨d, more, rfl, visible, noBlank, noIndicator, followed⟩ := opens
  have apart : ∀ e, isIndicator e = true → (d == e) = false := by
    intro e indicator
    refine beq_eq_false_iff_ne.mpr ?_
    rintro rfl
    exact absurd indicator (by rw [noIndicator]; exact Bool.false_ne_true)
  have noGap : d = '-' ∨ d = ':' ∨ d = '?' → atGap (more ++ rest) = false := fun mark => by
    obtain ⟨any, ungapped⟩ := followed mark
    obtain ⟨e, tail, rfl⟩ := List.exists_cons_of_ne_nil any
    exact atGap_eq_false (ungapped_cons.mp ungapped) _
  have noMark : ∀ e, (e = '-' ∨ e = ':' ∨ e = '?') → (d == e && atGap (more ++ rest)) = false := by
    intro e mark
    by_cases same : d = e
    · rw [noGap (same ▸ mark), Bool.and_false]
    · rw [beq_eq_false_iff_ne.mpr same, Bool.false_and]
  refine ⟨d, more ++ rest, rfl, settled, fun s outside inside => ?_⟩
  have deeper : (s.cursor.column == 0) = false := beq_eq_false_iff_ne.mpr (Nat.ne_of_gt inside)
  simp only [readToken, deeper, outside, apart '%' rfl, apart '[' rfl, apart '\x7b' rfl, apart ']' rfl,
    apart '\x7d' rfl, apart ',' rfl, apart '*' rfl, apart '&' rfl, apart '!' rfl,
    apart '|' rfl, apart '>' rfl,
    apart '\x27' rfl, apart '\x22' rfl, noMark '-' (.inl rfl), noMark '?' (.inr (.inr rfl)),
    noMark ':' (.inr (.inl rfl)), startsPlain_eq_true outside visible noIndicator noGap, Bool.false_and,
    Bool.false_or, Bool.or_false, Bool.false_eq_true, if_false, if_true]

section
variable {name : List Char} {line column index : Nat}

/-- The state behind a word that may be a key. -/
def behindKey (name rest : List Char) (line column index : Nat) (indent : Int) (outer : List Int)
    (tokens : List Token) : Lexer :=
  ⟨⟨':' :: rest, line, column + name.length, index + name.length⟩, indent, outer,
    some ⟨tokens.length, indent == column, index, line, column⟩, [], false, .scalar true name :: tokens⟩

/-- The place where a key begins is kept. -/
theorem plain_key (word : Word name) (gap : atGap rest = true) :
    (outside ⟨name ++ ':' :: rest, line, column, index⟩ true indent outer tokens).plain =
      .ok (behindKey name rest line column index indent outer tokens) := by
  have read := @plainScalar_key name rest line column index word gap (indent + 1)
  simp only [plain, saveMark, outside, inFlow, dropMark, Lexer.column, List.isEmpty_nil, Bool.not_true,
    Bool.not_false, Bool.true_and, if_true, ok_bind, pure_eq_ok, read]
  rfl

/-- The colon behind the first key begins a block. -/
theorem value_first (deeper : indent < column) :
    (behindKey name rest line column index indent outer tokens).value =
      .ok (outside ⟨rest, line, column + name.length + 1, index + name.length + 1⟩ false column
        (indent :: outer) (.value :: .scalar true name :: .key :: .blockMappingStart :: tokens)) := by
  have two : tokens.length + 1 + 1 - tokens.length = 2 := by omega
  simp [value, behindKey, insertAt, indentTo, inFlow, deeper, two, Cursor.next, isBreak,
    moveTo, emit, outside]

/-- The colons behind the others do not. -/
theorem value_next :
    (behindKey name rest line column index column outer tokens).value =
      .ok (outside ⟨rest, line, column + name.length + 1, index + name.length + 1⟩ false column outer
        (.value :: .scalar true name :: .key :: tokens)) := by
  simp [value, behindKey, insertAt, indentTo, inFlow, Cursor.next, isBreak, moveTo, emit, outside]

/-- A colon in front of a gap is read behind the key. -/
theorem advance_behindKey (short : name.length ≤ 1024) (gap : atGap rest = true) (inside : 0 < column)
    (deep : indent ≤ column) {after : Lexer}
    (value : (behindKey name rest line column index indent outer tokens).value = .ok after) :
    (behindKey name rest line column index indent outer tokens).advance = .ok (after, false) := by
  have fresh : (behindKey name rest line column index indent outer tokens).refreshMarks =
      .ok (behindKey name rest line column index indent outer tokens) := by
    simp [refreshMarks, refreshMark, behindKey, isStale, Nat.not_lt.mpr short]
  have colon : (behindKey name rest line column index indent outer tokens).readToken ':' rest =
      (behindKey name rest line column index indent outer tokens).value := by
    have deeper : (column + name.length == 0) = false := beq_eq_false_iff_ne.mpr (by omega)
    simp [readToken, behindKey, deeper, gap]
  have settled : Settled (':' :: rest) := ⟨ungapped_cons.mpr (by decide), by simp⟩
  exact advance_cons settled rfl fresh (by simp [behindKey, Lexer.column]; omega) (colon.trans value)

end

/-! ### Scalars as values -/

section
variable {w s : List Char} {least : Nat}

/-- A plain scalar is read up to the next line that is not indented as deep, where a key may begin. -/
theorem plain_value (written : Plain (least + 1) w s) (resumes : Resumes rest) {depth : Nat}
    (shallow : depth ≤ least) {line column index : Nat} (inside : least < column) :
    ∃ after,
      (outside ⟨w ++ '\n' :: (List.replicate depth ' ' ++ rest), line, column, index⟩ false least outer
        tokens).plain = .ok (outside after true least outer (.scalar true s :: tokens)) ∧
      after.rest = rest ∧ after.column = depth := by
  obtain ⟨line', index', read⟩ :=
    @Plain.read (least + 1) w s rest line column index written resumes depth
      (Nat.lt_succ_of_le shallow) inside
  rw [Int.natCast_succ] at read
  refine ⟨⟨rest, line', depth, index'⟩, ?_, rfl, rfl⟩
  simp only [plain, saveMark, outside, inFlow, List.isEmpty_nil, Bool.not_true, Bool.false_eq_true,
    if_false, ok_bind, read]
  rfl

/-- A scalar in quotation marks is read up to the end of its line. -/
theorem readToken_quoted {double : Bool} (quoted : Quoted double w s) {c : Cursor}
    (here : c.rest = quotationMark double :: (w ++ quotationMark double :: '\n' :: rest))
    (inside : 0 < c.column) :
    ∃ after, (outside c false indent outer tokens).readToken (quotationMark double)
        (w ++ quotationMark double :: '\n' :: rest) =
      .ok (outside after false indent outer (.scalar false s :: tokens)) ∧ after.rest = '\n' :: rest := by
  obtain ⟨after, read, left⟩ := quoted.read (by simp) here
  refine ⟨after, ?_, left⟩
  have deeper : (c.column == 0) = false := beq_eq_false_iff_ne.mpr (Nat.ne_of_gt inside)
  cases double with
  | true => simp [readToken, quotationMark, outside, deeper, inFlow, read, node, saveMark, moveTo, emit]
  | false => simp [readToken, quotationMark, outside, deeper, inFlow, read, node, saveMark, moveTo, emit]

end

end

end Lexer

open Lexer

/-- From a place on, outside of brackets, the tokens of the rest of a text are read. -/
def Scans (rest : List Char) (column : Nat) (keyAllowed : Bool) (indent : Int) (outer : List Int)
    (tokens all : List Token) : Prop :=
  ∀ (c : Cursor) (fuel : Nat), c.rest = rest → c.column = column → rest.length < fuel →
    (readTokens fuel (outside c keyAllowed indent outer tokens)).map Lexer.tokens = .ok all

namespace Scans

section
variable {rest : List Char} {column : Nat} {keyAllowed : Bool} {indent : Int} {outer : List Int}
  {tokens all : List Token}

/-- At a line end the next line begins, where a key may begin. -/
theorem newline (scans : Scans rest 0 true indent outer tokens all) :
    Scans ('\n' :: rest) column keyAllowed indent outer tokens all := by
  intro c fuel here _ enough
  obtain ⟨fuel, rfl⟩ : ∃ n, fuel = n + 1 := ⟨fuel - 1, by omega⟩
  have next : c.next.rest = rest := by rw [Cursor.rest_next, here]; rfl
  have begins : c.next.column = 0 := by
    rw [Cursor.next, here]
    rfl
  have same : (outside c keyAllowed indent outer tokens).advance =
      (outside c.next true indent outer tokens).advance := by
    refine advance_congr ?_
    show skipGap (c.rest.length + 1) _ = skipGap (c.next.rest.length + 1) _
    rw [skipGap_newline here, next, here]
    rfl
  exact map_readTokens_congr same (scans c.next (fuel + 1) next begins (Nat.lt_of_succ_lt enough))

/-- Blanks are passed. -/
theorem blanks (count : Nat) (settled : Settled rest)
    (scans : Scans rest (column + count) keyAllowed indent outer tokens all) :
    Scans (List.replicate count ' ' ++ rest) column keyAllowed indent outer tokens all := by
  intro c fuel here place enough
  obtain ⟨fuel, rfl⟩ : ∃ n, fuel = n + 1 := ⟨fuel - 1, by omega⟩
  have left : (c.skip count).rest = rest := by
    rw [Cursor.rest_skip, here, List.drop_left' List.length_replicate]
  have moved : (c.skip count).column = column + count := by
    obtain ⟨s, line, k, index⟩ := c
    cases here
    cases place
    show (Cursor.skip count ⟨List.replicate count ' ' ++ rest, line, k, index⟩).column = k + count
    rw [Cursor.skip_blanks]
  have same : (outside c keyAllowed indent outer tokens).advance =
      (outside (c.skip count) keyAllowed indent outer tokens).advance := by
    refine advance_congr ?_
    show skipGap (c.rest.length + 1) _ = skipGap ((c.skip count).rest.length + 1) _
    rw [skipGap_blanks settled here, skipGap_settled (left.symm ▸ settled)]
  exact map_readTokens_congr same
    (scans (c.skip count) (fuel + 1) left moved (by simp at enough; omega))

/-- In front of what is not indented as deep a block ends. -/
theorem close {o : Int} (settled : Settled rest) (shallow : column < indent)
    (scans : Scans rest column keyAllowed o outer (.blockEnd :: tokens) all) :
    Scans rest column keyAllowed indent (o :: outer) tokens all := by
  intro c fuel here place enough
  obtain ⟨fuel, rfl⟩ : ∃ n, fuel = n + 1 := ⟨fuel - 1, by omega⟩
  exact map_readTokens_congr (advance_shallow (here ▸ settled) (place ▸ shallow))
    (scans c (fuel + 1) here place enough)

/-- At the end of the text the outermost block ends. -/
theorem finish : Scans [] column keyAllowed 0 [-1] tokens (.blockEnd :: tokens) := by
  intro c fuel here _ enough
  obtain ⟨fuel, rfl⟩ : ∃ n, fuel = n + 1 := ⟨fuel - 1, by omega⟩
  rw [readTokens, advance_end here]
  rfl

/-- A token is read, and then what stands behind it. -/
theorem step {d : Char} {tail left : List Char} (settled : Settled (d :: tail)) (inside : indent ≤ column)
    (shorter : left.length ≤ tail.length)
    (read : ∀ c : Cursor, c.rest = d :: tail → c.column = column →
      ∃ after keyAllowed' indent' outer' tokens',
        (outside c keyAllowed indent outer tokens).readToken d tail =
          .ok (outside after keyAllowed' indent' outer' tokens') ∧ after.rest = left ∧
          Scans left after.column keyAllowed' indent' outer' tokens' all) :
    Scans (d :: tail) column keyAllowed indent outer tokens all := by
  intro c fuel here place enough
  obtain ⟨fuel, rfl⟩ : ∃ n, fuel = n + 1 := ⟨fuel - 1, by omega⟩
  obtain ⟨after, _, _, _, _, token, behind, scans⟩ := read c here place
  have within : (outside c keyAllowed indent outer tokens).indent ≤
      (outside c keyAllowed indent outer tokens).column := by
    show indent ≤ (c.column : Int)
    rwa [place]
  rw [List.length_cons] at enough
  rw [readTokens_of_advance (advance_cons settled here rfl within token)]
  exact scans after fuel behind rfl (by omega)

theorem settled_hyphen (rest : List Char) : Settled ('-' :: rest) :=
  ⟨ungapped_cons.mpr (by decide), by simp⟩

/-- The hyphen of the first item begins the block. -/
theorem firstItem
    (scans : Scans (' ' :: rest) 1 true 0 [-1] (.blockEntry :: .blockSequenceStart :: tokens) all) :
    Scans ('-' :: ' ' :: rest) 0 true (-1) [] tokens all :=
  step (settled_hyphen _) (by decide) (Nat.le_refl _) fun c here begins =>
    ⟨c.next, _, _, _, _, readToken_first here begins, by rw [Cursor.rest_next, here]; rfl,
      by rwa [Cursor.column_next _ here rfl, begins]⟩

/-- The hyphens of the others belong to it. -/
theorem nextItem (scans : Scans (' ' :: rest) 1 true 0 outer (.blockEntry :: tokens) all) :
    Scans ('-' :: ' ' :: rest) 0 true 0 outer tokens all :=
  step (settled_hyphen _) (by decide) (Nat.le_refl _) fun c here begins =>
    ⟨c.next, _, _, _, _, readToken_next here begins, by rw [Cursor.rest_next, here]; rfl,
      by rwa [Cursor.column_next _ here rfl, begins]⟩

section
variable {name : List Char} (word : Word name) (opens : Opens name) (short : name.length ≤ 1024)
  (gap : atGap rest = true) (inside : 0 < column)
include word opens short gap inside

/-- A word in front of a colon is read as a key, and then the value behind it. -/
theorem key {outer' : List Int} {tokens' : List Token} (deep : indent ≤ column)
    (value : ∀ line index, (behindKey name rest line column index indent outer tokens).value =
      .ok (outside ⟨rest, line, column + name.length + 1, index + name.length + 1⟩ false column
        outer' tokens'))
    (scans : Scans rest (column + name.length + 1) false column outer' tokens' all) :
    Scans (name ++ ':' :: rest) column true indent outer tokens all := by
  rintro ⟨s, line, k, index⟩ fuel here place enough
  obtain rfl : s = name ++ ':' :: rest := here
  obtain rfl : k = column := place
  have length : (name ++ ':' :: rest).length = name.length + (rest.length + 1) := List.length_append
  have some : 0 < name.length := List.length_pos_iff.mpr word.any
  obtain ⟨fuel, rfl⟩ : ∃ n, fuel = n + 1 + 1 := ⟨fuel - 2, by omega⟩
  obtain ⟨d, tail, same, settled, plain⟩ := readToken_plain opens (':' :: rest)
  rw [readTokens_of_advance
      (advance_cons settled same rfl deep ((plain _ rfl inside).trans (plain_key word gap))),
    readTokens_of_advance (advance_behindKey short gap inside deep (value _ _))]
  exact scans _ fuel rfl rfl (by omega)

/-- The first key of a record begins a block. -/
theorem firstKey (deeper : indent < column)
    (scans : Scans rest (column + name.length + 1) false column (indent :: outer)
      (.value :: .scalar true name :: .key :: .blockMappingStart :: tokens) all) :
    Scans (name ++ ':' :: rest) column true indent outer tokens all :=
  key word opens short gap inside (Int.le_of_lt deeper) (fun _ _ => value_first deeper) scans

/-- The other keys belong to it. -/
theorem nextKey (scans : Scans rest (column + name.length + 1) false column outer
      (.value :: .scalar true name :: .key :: tokens) all) :
    Scans (name ++ ':' :: rest) column true column outer tokens all :=
  key word opens short gap inside (Int.le_refl _) (fun _ _ => value_next) scans

end

/-- A scalar is read as a value, up to the next line, which is not indented deeper than the record. -/
theorem scalar {w s : List Char} {isPlain : Bool} {least depth : Nat}
    (written : Written (least + 1) w isPlain s) (resumes : Resumes rest) (shallow : depth ≤ least)
    (inside : least < column)
    (scans : Scans rest depth true least outer (.scalar isPlain s :: tokens) all) :
    Scans (w ++ '\n' :: (List.replicate depth ' ' ++ rest)) column false least outer tokens all := by
  have within : (least : Int) ≤ column := Int.ofNat_le.mpr (Nat.le_of_lt inside)
  have deep : 0 < column := Nat.zero_lt_of_lt inside
  cases written with
  | plain opens plain =>
      obtain ⟨d, tail, same, settled, begins⟩ :=
        readToken_plain opens ('\n' :: (List.replicate depth ' ' ++ rest))
      have shorter : rest.length ≤ tail.length := by
        have length := congrArg List.length same
        simp only [List.length_append, List.length_cons, List.length_replicate] at length
        omega
      rw [same]
      refine step settled within shorter fun c here place => ?_
      obtain ⟨t, line, k, index⟩ := c
      obtain rfl : t = w ++ '\n' :: (List.replicate depth ' ' ++ rest) := here.trans same.symm
      obtain rfl : k = column := place
      obtain ⟨after, read, left, moved⟩ :=
        @plain_value rest outer tokens w s least plain resumes depth shallow line k index inside
      exact ⟨after, _, _, _, _, (begins _ rfl deep).trans read, left, moved ▸ scans⟩
  | @quoted double w s quoted =>
      have line (column : Nat) :
          Scans ('\n' :: (List.replicate depth ' ' ++ rest)) column false least outer
            (.scalar false s :: tokens) all :=
        newline (blanks depth ⟨resumes.ungapped, resumes.noComment⟩ (by rwa [Nat.zero_add]))
      have shorter : ('\n' :: (List.replicate depth ' ' ++ rest)).length ≤
          (w ++ ([quotationMark double] ++ '\n' :: (List.replicate depth ' ' ++ rest))).length := by
        simp only [List.length_append]
        omega
      rw [List.cons_append, List.append_assoc]
      refine step (settled_mark double _) within shorter fun c here place => ?_
      obtain ⟨after, read, left⟩ := readToken_quoted quoted here (place ▸ deep)
      exact ⟨after, _, _, _, _, read, left, line after.column⟩

end

end Scans

end Syscat.Yaml
