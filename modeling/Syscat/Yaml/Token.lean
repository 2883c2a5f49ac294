/-
Module: Syscat.Yaml.Token
Purpose: The tokens of a YAML text. Indentation is turned into tokens that begin and end blocks. That a
  node is a key is known only from the colon behind it: the place of a possible key is kept, and the
  tokens that mark it are put in there afterwards. Tokens are handed over while later ones are still
  unread, so those in front of a fault count.
Main exports: Token, Token.scan
-/
import Syscat.Yaml.Scalar

namespace Syscat.Yaml

/-- What a directive line says. -/
inductive Directive where
  /-- The major number of the version that the document is written in. -/
  | version (major : Nat)
  /-- What a handle of tags stands for. -/
  | handle (name : String) (meaning : String)
  /-- Anything else, which means nothing. -/
  | reserved
deriving DecidableEq, Repr, Inhabited

/-- A token. -/
inductive Token where
  | directive (d : Directive)
  | documentStart
  | documentEnd
  | blockSequenceStart
  | blockMappingStart
  | blockEnd
  | flowSequenceStart
  | flowSequenceEnd
  | flowMappingStart
  | flowMappingEnd
  | blockEntry
  | flowEntry
  | key
  | value
  | alias (name : String)
  | anchor (name : String)
  | tag (handle : Option String) (rest : String)
  | scalar (isPlain : Bool) (text : List Char)
  /-- What comes next cannot be read. -/
  | broken
deriving DecidableEq, Repr, Inhabited

/-- A place where a key may have begun: how many tokens are in front of it, where it stands, and
whether it has to be a key because nothing else may stand there. -/
structure KeyMark where
  tokens : Nat
  required : Bool
  index : Nat
  line : Nat
  column : Nat
deriving Repr, Inhabited

/-- What is known in the middle of a text: the place, the indentation of the open blocks, the possible key
at the current depth of brackets and those outside them, whether a key may begin, and the tokens so far,
the last one first. -/
structure Lexer where
  cursor : Cursor
  indent : Int
  outerIndents : List Int
  mark : Option KeyMark
  outerMarks : List (Option KeyMark)
  keyAllowed : Bool
  tokens : List Token
deriving Repr, Inhabited

namespace Lexer

/-- The beginning of a text. -/
def start (text : List Char) : Lexer :=
  ⟨Cursor.start text, -1, [], none, [], true, []⟩

/-- Whether the place is inside brackets. -/
def inFlow (s : Lexer) : Bool :=
  !s.outerMarks.isEmpty

/-- The column of the place. -/
def column (s : Lexer) : Int :=
  s.cursor.column

/-- Add a token. -/
def emit (s : Lexer) (t : Token) : Lexer :=
  { s with tokens := t :: s.tokens }

/-- Go on from another place. -/
def moveTo (s : Lexer) (c : Cursor) : Lexer :=
  { s with cursor := c }

/-! ### Indentation and keys -/

/-- End the blocks that are indented deeper than a column. -/
def unwind (column : Int) : Nat → Lexer → Lexer
  | 0, s => s
  | fuel + 1, s =>
      if !s.inFlow && column < s.indent then
        match s.outerIndents with
        | [] => s
        | outer :: rest => unwind column fuel
            ({ s with indent := outer, outerIndents := rest }.emit .blockEnd)
      else s

/-- End the blocks that are indented deeper than a column. -/
def unwindTo (s : Lexer) (column : Int) : Lexer :=
  unwind column s.outerIndents.length s

/-- Begin a block at a column, unless the open one is indented as deep. -/
def indentTo (s : Lexer) (column : Int) : Lexer × Bool :=
  if s.indent < column then
    ({ s with indent := column, outerIndents := s.indent :: s.outerIndents }, true)
  else (s, false)

/-- Give up the possible key at the current depth. -/
def dropMark (s : Lexer) : Except ReadFailure Lexer :=
  match s.mark with
  | some m => if m.required then illFormed else .ok { s with mark := none }
  | none => .ok s

/-- Keep the place as one where a key may have begun. -/
def saveMark (s : Lexer) : Except ReadFailure Lexer :=
  if s.keyAllowed then do
    let required := !s.inFlow && s.indent == s.column
    let s ← s.dropMark
    let c := s.cursor
    return { s with mark := some ⟨s.tokens.length, required, c.index, c.line, c.column⟩ }
  else .ok s

/-- A key stands on one line and has at most 1024 characters. -/
def isStale (c : Cursor) (m : KeyMark) : Bool :=
  m.line != c.line || 1024 < c.index - m.index

/-- Give up a possible key that can no longer be one. -/
def refreshMark (c : Cursor) (mark : Option KeyMark) : Except ReadFailure (Option KeyMark) :=
  match mark with
  | none => .ok none
  | some m => if isStale c m then if m.required then illFormed else .ok none else .ok (some m)

/-- Give up the possible keys that can no longer be ones. -/
def refreshMarks (s : Lexer) : Except ReadFailure Lexer := do
  let mark ← refreshMark s.cursor s.mark
  let outerMarks ← s.outerMarks.mapM (refreshMark s.cursor)
  return { s with mark, outerMarks }

/-! ### Gaps -/

/-- Pass blanks, comments and line ends. Behind a line end a key may begin, outside brackets. -/
def skipGap : Nat → Lexer → Lexer
  | 0, s => s
  | fuel + 1, s =>
      let c := s.cursor.skipBlanks
      let c := if c.ahead (· == '#') then c.skipLine else c
      if c.ahead isBreak then
        let s := s.moveTo c.skipBreak
        skipGap fuel (if s.inFlow then s else { s with keyAllowed := true })
      else s.moveTo c

/-- Pass a byte order mark at the beginning of the text. -/
def skipOrderMark (s : Lexer) : Lexer :=
  if s.cursor.index == 0 && s.cursor.ahead (· == '\ufeff') then s.moveTo s.cursor.next else s

/-! ### Directives -/

/-- A whole number in a version. -/
def versionNumber (c : Cursor) : Except ReadFailure (Nat × Cursor) :=
  let (digits, c) := c.takeWhile Char.isDigit
  match Numeral.readNat digits with
  | .ok n => .ok (n, c)
  | .error (.tooLong count) => .error (.longNumeral count)
  | .error .malformed => illFormed

/-- The version behind its directive's name. -/
def versionDirective (c : Cursor) : Except ReadFailure (Directive × Cursor) := do
  let (major, c) ← versionNumber c.skipBlanks
  if c.ahead (· == '.') then
    let (_, c) ← versionNumber c.next
    if atBlank c.rest then return (.version major, c) else illFormed
  else illFormed

/-- A handle of tags: two exclamation marks, which may have a name between them, or a single one in front
of a blank. -/
def tagHandle (c : Cursor) : Except ReadFailure (String × Cursor) :=
  match c.rest with
  | '!' :: rest =>
      if rest.head? == some ' ' then .ok ("!", c.next)
      else
        let (name, behind) := c.next.takeWhile isNameChar
        if behind.ahead (· == '!') then .ok ("!" ++ String.ofList name ++ "!", behind.next) else illFormed
  | _ => illFormed

/-- A character that stands for itself in a tag. -/
def isTagChar (c : Char) : Bool :=
  isNameChar c || ";/?:@&=+$,.!~*\x27()[]".toList.contains c

/-- The octets that escapes at a place spell. -/
def escapedOctets : Nat → Cursor → Except ReadFailure (List UInt8 × Cursor)
  | 0, c => .ok ([], c)
  | fuel + 1, c =>
      match c.rest with
      | '%' :: a :: b :: _ =>
          match hexNumber? [a, b] with
          | some n => do
              let (more, c) ← escapedOctets fuel (c.skip 3)
              return (UInt8.ofNat n :: more, c)
          | none => illFormed
      | '%' :: _ => illFormed
      | _ => .ok ([], c)

/-- The parts of a tag's name: characters that stand for themselves, and escaped octets. -/
def tagParts : Nat → Cursor → Except ReadFailure Scanned
  | 0, c => .ok ([], c)
  | fuel + 1, c =>
      if c.ahead isTagChar then do
        let (part, c) := c.takeWhile isTagChar
        let (more, c) ← tagParts fuel c
        return (part ++ more, c)
      else if c.ahead (· == '%') then do
        let (octets, c) ← escapedOctets c.rest.length c
        match utf8Decode octets with
        | .error _ => illFormed
        | .ok part =>
            let (more, c) ← tagParts fuel c
            return (part ++ more, c)
      else .ok ([], c)

/-- The name of a tag, which is not empty. -/
def tagName (c : Cursor) : Except ReadFailure (String × Cursor) := do
  if c.ahead (fun ch => isTagChar ch || ch == '%') then
    let (name, c) ← tagParts (c.rest.length + 1) c
    return (String.ofList name, c)
  else illFormed

/-- A handle and its meaning behind their directive's name. -/
def handleDirective (c : Cursor) : Except ReadFailure (Directive × Cursor) := do
  let (name, c) ← tagHandle c.skipBlanks
  if c.ahead (· == ' ') then
    let (meaning, c) ← tagName c.skipBlanks
    if atBlank c.rest then return (.handle name meaning, c) else illFormed
  else illFormed

/-- The directive at a place. -/
def directive (c : Cursor) : Except ReadFailure (Directive × Cursor) := do
  let (name, c) := c.next.takeWhile isNameChar
  if name.isEmpty || !atBlank c.rest then illFormed
  else
    let (d, c) ←
      if name == "YAML".toList then versionDirective c
      else if name == "TAG".toList then handleDirective c
      else pure (.reserved, c.skipLine)
    return (d, ← c.skipRest)

/-! ### Anchors and tags -/

/-- The name behind the sign of an anchor or an alias. -/
def anchorName (c : Cursor) : Except ReadFailure (String × Cursor) :=
  let (name, c) := c.next.takeWhile isNameChar
  let ends := atGap c.rest || c.ahead fun ch => "?:,]\x7d%@\x60".toList.contains ch
  if name.isEmpty || !ends then illFormed else .ok (String.ofList name, c)

/-- Whether an exclamation mark stands in front of the next blank or line end. -/
def hasSecondMark : List Char → Bool
  | [] => false
  | c :: rest => if c == ' ' || isBreak c then false else c == '!' || hasSecondMark rest

/-- The tag at a place: in full between angle brackets, the lone mark, or with a handle. -/
def tag (c : Cursor) : Except ReadFailure (Token × Cursor) := do
  let (token, c) ←
    if c.next.ahead (· == '<') then do
      let (name, c) ← tagName (c.skip 2)
      if c.ahead (· == '>') then pure (Token.tag none name, c.next) else illFormed
    else if atGap c.next.rest then pure (Token.tag none "!", c.next)
    else if hasSecondMark c.next.rest then do
      let (handle, c) ← tagHandle c
      let (name, c) ← tagName c
      pure (Token.tag (some handle) name, c)
    else do
      let (name, c) ← tagName c.next
      pure (Token.tag (some "!") name, c)
  if atBlank c.rest then return (token, c) else illFormed

/-! ### Tokens -/

/-- Read a mark between documents or a directive, which end all blocks. -/
def betweenDocuments (s : Lexer) (t : Token) (c : Cursor) : Except ReadFailure Lexer := do
  let s ← (s.unwindTo (-1)).dropMark
  return ({ s with keyAllowed := false }.moveTo c).emit t

/-- Read an opening bracket, which may begin a key. -/
def openFlow (s : Lexer) (t : Token) : Except ReadFailure Lexer := do
  let s ← s.saveMark
  return ({ s with mark := none, outerMarks := s.mark :: s.outerMarks, keyAllowed := true }.moveTo
    s.cursor.next).emit t

/-- Read a closing bracket. -/
def closeFlow (s : Lexer) (t : Token) : Except ReadFailure Lexer := do
  let s ← s.dropMark
  match s.outerMarks with
  | [] => illFormed
  | mark :: outerMarks =>
      return ({ s with mark, outerMarks, keyAllowed := false }.moveTo s.cursor.next).emit t

/-- Read a comma inside brackets. -/
def flowEntry (s : Lexer) : Except ReadFailure Lexer := do
  let s ← s.dropMark
  return ({ s with keyAllowed := true }.moveTo s.cursor.next).emit .flowEntry

/-- Begin a block at the place if that is indented deeper than the open one. A key has to be allowed. -/
def openBlock (s : Lexer) (t : Token) : Except ReadFailure Lexer :=
  if s.inFlow then .ok s
  else if !s.keyAllowed then illFormed
  else
    let (s, fresh) := s.indentTo s.column
    .ok (if fresh then s.emit t else s)

/-- Read the hyphen of an entry. -/
def blockEntry (s : Lexer) : Except ReadFailure Lexer := do
  let s ← (← s.openBlock .blockSequenceStart).dropMark
  return ({ s with keyAllowed := true }.moveTo s.cursor.next).emit .blockEntry

/-- Read the question mark in front of a key. -/
def explicitKey (s : Lexer) : Except ReadFailure Lexer := do
  let s ← (← s.openBlock .blockMappingStart).dropMark
  return ({ s with keyAllowed := !s.inFlow }.moveTo s.cursor.next).emit .key

/-- Put a token in front of all but the first `count` tokens. -/
def insertAt (s : Lexer) (count : Nat) (t : Token) : Lexer :=
  let later := s.tokens.length - count
  { s with tokens := s.tokens.take later ++ t :: s.tokens.drop later }

/-- Read the colon behind a key. If a key may have begun before, it did. -/
def value (s : Lexer) : Except ReadFailure Lexer := do
  match s.mark with
  | some m =>
      let s := { s with mark := none, keyAllowed := false }.insertAt m.tokens .key
      let (s, fresh) := if s.inFlow then (s, false) else s.indentTo m.column
      let s := if fresh then s.insertAt m.tokens .blockMappingStart else s
      return (s.moveTo s.cursor.next).emit .value
  | none =>
      let s ← s.openBlock .blockMappingStart
      return ({ s with keyAllowed := !s.inFlow }.moveTo s.cursor.next).emit .value

/-- Read a token that may be or begin a key. -/
def node (s : Lexer) (t : Token) (c : Cursor) : Except ReadFailure Lexer := do
  let s ← s.saveMark
  return ({ s with keyAllowed := false }.moveTo c).emit t

/-- Read a scalar in the form of a block. -/
def block (s : Lexer) (folded : Bool) : Except ReadFailure Lexer := do
  let s ← s.dropMark
  let (text, c) ← blockScalar folded s.indent s.cursor
  return ({ s with keyAllowed := true }.moveTo c).emit (.scalar false text)

/-- Read a plain scalar. -/
def plain (s : Lexer) : Except ReadFailure Lexer := do
  let s ← s.saveMark
  let (text, c, ended) := plainScalar s.inFlow (s.indent + 1) s.cursor
  return ({ s with keyAllowed := ended }.moveTo c).emit (.scalar true text)

/-- Whether a plain scalar can begin with a character, given what follows it. -/
def startsPlain (s : Lexer) (ch : Char) (rest : List Char) : Bool :=
  if "-?:,[]\x7b\x7d#&*!|>\x27\x22%@\x60".toList.contains ch then
    !atGap rest && (ch == '-' || (!s.inFlow && (ch == '?' || ch == ':')))
  else ch != '\t'

/-- Read the token that begins with a character. -/
def readToken (s : Lexer) (ch : Char) (rest : List Char) : Except ReadFailure Lexer :=
  let c := s.cursor
  if ch == '%' && c.column == 0 then do
    let (d, behind) ← directive c
    s.betweenDocuments (.directive d) behind
  else if c.column == 0 && c.atSeparator then
    s.betweenDocuments (if ch == '-' then .documentStart else .documentEnd) (c.skip 3)
  else if ch == '[' then s.openFlow .flowSequenceStart
  else if ch == '\x7b' then s.openFlow .flowMappingStart
  else if ch == ']' then s.closeFlow .flowSequenceEnd
  else if ch == '\x7d' then s.closeFlow .flowMappingEnd
  else if ch == ',' then s.flowEntry
  else if ch == '-' && atGap rest then s.blockEntry
  else if ch == '?' && (s.inFlow || atGap rest) then s.explicitKey
  else if ch == ':' && (s.inFlow || atGap rest) then s.value
  else if ch == '*' then do
    let (name, behind) ← anchorName c
    s.node (.alias name) behind
  else if ch == '&' then do
    let (name, behind) ← anchorName c
    s.node (.anchor name) behind
  else if ch == '!' then do
    let (t, behind) ← tag c
    s.node t behind
  else if ch == '|' && !s.inFlow then s.block false
  else if ch == '>' && !s.inFlow then s.block true
  else if ch == '\x27' || ch == '\x22' then do
    let (text, behind) ← quotedScalar (ch == '\x22') c
    s.node (.scalar false text) behind
  else if s.startsPlain ch rest then s.plain
  else illFormed

/-- Go on to the next token and read it, or end all blocks at the end of the text. Which of the two is
told besides. -/
def advance (s : Lexer) : Except ReadFailure (Lexer × Bool) := do
  let s ← (s.skipGap (s.cursor.rest.length + 1)).refreshMarks
  let s := s.unwindTo s.column
  match s.cursor.rest with
  | [] => return (← (s.unwindTo (-1)).dropMark, true)
  | ch :: rest => return (← s.readToken ch rest, false)

/-- The tokens that are handed over before the next one is read: those in front of the first possible
key. -/
def sureTokens (s : Lexer) : List Token :=
  let waiting := (s.mark :: s.outerMarks).filterMap fun mark =>
    mark.bind fun m => if isStale s.cursor m then none else some m.tokens
  s.tokens.reverse.take (waiting.foldl min s.tokens.length)

/-- Read tokens up to the end of the text. Each takes at least one character. Where one cannot be read,
those that were handed over are left, and why it is so. -/
def readTokens : Nat → Lexer → Except (List Token × ReadFailure) Lexer
  | 0, s => .error (s.sureTokens, .malformed .yaml)
  | fuel + 1, s =>
      match s.advance with
      | .error e => .error (s.sureTokens, e)
      | .ok (s, true) => .ok s
      | .ok (s, false) => readTokens fuel s

end Lexer

/-- The tokens of a text, or those in front of one that cannot be read. -/
def Token.scan (text : List Char) : Except (List Token × ReadFailure) (List Token) := do
  let s ← Lexer.readTokens (text.length + 1) (Lexer.start text).skipOrderMark
  return s.tokens.reverse

end Syscat.Yaml
