/-
Module: Syscat.Yaml.Node
Purpose: The tree that the tokens of a YAML text make up: scalars, sequences and mappings with their tags.
  An alias stands for the node of its anchor, or for the collection around it.
Main exports: Node, Refusal, Node.ofTokens?
-/
import Syscat.Yaml.Tag
import Syscat.Yaml.Token

namespace Syscat.Yaml

/-- A node of a document. -/
inductive Node where
  | scalar (tag : Tag) (text : List Char)
  | sequence (tag : Tag) (items : List Node)
  | mapping (tag : Tag) (entries : List (Node × Node))
  /-- An alias inside the collection of its own anchor, where that is left open. -/
  | around (anchor : String)
deriving Repr, Inhabited

/-- Why tokens make up no node: one of them may not stand where it does, or they break off. -/
inductive Refusal where
  | misplaced
  | brokenOff
deriving DecidableEq, Repr

namespace Node

/-- The tag of a node. -/
def tag : Node → Tag
  | scalar tag _ => tag
  | sequence tag _ => tag
  | mapping tag _ => tag
  | around _ => .mapping

/-- A node that is left out. -/
def empty : Node := .scalar .null []

/-- The tokens that have not been read, and the nodes that have anchors, the last one first. -/
structure Rest where
  tokens : List Token
  anchors : List (String × Node)
deriving Repr, Inhabited

/-- Refuse what is at the front of some tokens. -/
def refuse {α : Type} : List Token → Except Refusal α
  | .broken :: _ => .error .brokenOff
  | _ => .error .misplaced

/-! ### Collections inside themselves -/

mutual

/-- Put a node in place of the aliases that stand for the collection of an anchor around them. -/
def resolve (anchor : String) (whole : Node) : Node → Node
  | scalar tag text => scalar tag text
  | sequence tag items => sequence tag (resolveItems anchor whole items)
  | mapping tag entries => mapping tag (resolveEntries anchor whole entries)
  | around name => if name = anchor then whole else around name

/-- Put a node in place of such aliases in some items. -/
def resolveItems (anchor : String) (whole : Node) : List Node → List Node
  | [] => []
  | n :: rest => resolve anchor whole n :: resolveItems anchor whole rest

/-- Put a node in place of such aliases in some entries. -/
def resolveEntries (anchor : String) (whole : Node) : List (Node × Node) → List (Node × Node)
  | [] => []
  | (key, v) :: rest =>
      (resolve anchor whole key, resolve anchor whole v) :: resolveEntries anchor whole rest

end

/-! ### Properties -/

/-- What the handles of tags stand for. -/
abbrev Handles := List (String × String)

/-- The anchor and the tag in front of a node. -/
structure Properties where
  anchor : Option String
  tag : Option String
deriving Repr, DecidableEq, Inhabited

/-- The full name of a tag. -/
def tagName? (handles : Handles) (handle : Option String) (rest : String) : Option String :=
  match handle with
  | none => some rest
  | some handle => (handles.find? fun entry => entry.1 == handle).map fun entry => entry.2 ++ rest

/-- The properties at the front of some tokens, in either order, and the tokens behind them. -/
def properties? (handles : Handles) : List Token → Option (Properties × List Token)
  | .anchor name :: .tag handle rest :: tokens =>
      (tagName? handles handle rest).map fun tag => (⟨some name, some tag⟩, tokens)
  | .tag handle rest :: .anchor name :: tokens =>
      (tagName? handles handle rest).map fun tag => (⟨some name, some tag⟩, tokens)
  | .anchor name :: tokens => some (⟨some name, none⟩, tokens)
  | .tag handle rest :: tokens =>
      (tagName? handles handle rest).map fun tag => (⟨none, some tag⟩, tokens)
  | tokens => some (⟨none, none⟩, tokens)

namespace Properties

/-- Whether there is an anchor or a tag. -/
def any (p : Properties) : Bool :=
  p.anchor.isSome || p.tag.isSome

/-- The tag of a node, given the one that it has unless it is said otherwise. The lone exclamation mark
says nothing. -/
def tagOr (p : Properties) (standard : Tag) : Tag :=
  match p.tag with
  | none => standard
  | some name => if name == "!" then standard else Tag.ofName name

/-- The tag of a scalar. A plain one, or one behind a lone exclamation mark, has its tag by its form. -/
def scalarTag (p : Properties) (isPlain : Bool) (text : List Char) : Tag :=
  p.tagOr (if isPlain || p.tag == some "!" then formTag text else .text)

/-- A node becomes known under its anchor. -/
def bind (p : Properties) (n : Node) (rest : Rest) : Rest :=
  match p.anchor with
  | none => rest
  | some name => { rest with anchors := (name, n) :: rest.anchors }

/-- Inside a collection an alias of its anchor stands for what is around. -/
def enter (p : Properties) (rest : Rest) : Rest :=
  match p.anchor with
  | none => rest
  | some name => { rest with anchors := (name, around name) :: rest.anchors }

/-- At its end a collection becomes known under its anchor. Trees are finite: inside itself it stands
once more, and is left open further inside, which is deeper than settings go. -/
def leave (p : Properties) (n : Node) (rest : Rest) : Node × Rest :=
  match p.anchor with
  | none => (n, rest)
  | some name =>
      let whole := resolve name n n
      (whole, { rest with
        anchors := (name, whole) :: rest.anchors.map fun entry => (entry.1, resolve name n entry.2) })

end Properties

/-- The places where a node can stand. Behind a key a sequence need not be indented. -/
inductive Place where
  | block
  | entry
  | flow
deriving DecidableEq, Repr, Inhabited

/-- Whether a node is left out in a block, given the token that comes next. -/
def isAbsentInBlock : List Token → Bool
  | .blockEntry :: _ => true
  | .blockEnd :: _ => true
  | _ => false

/-- Whether a key or its value is left out in a block. -/
def isAbsentInMapping : List Token → Bool
  | .key :: _ => true
  | .value :: _ => true
  | .blockEnd :: _ => true
  | _ => false

/-- Whether a node is left out between brackets. -/
def isAbsentInFlow (closing : Token) : List Token → Bool
  | [] => false
  | t :: _ => t == .flowEntry || t == closing

mutual

/-- Read a node. The token behind its properties is looked at before they are. -/
def read (handles : Handles) (place : Place) : Nat → Rest → Except Refusal (Node × Rest)
  | 0, _ => .error .misplaced
  | fuel + 1, rest =>
      match rest.tokens with
      | .alias name :: tokens =>
          match rest.anchors.find? fun entry => entry.1 == name with
          | some entry => .ok (entry.2, { rest with tokens })
          | none => .error .misplaced
      | tokens =>
          match properties? handles tokens with
          | none => refuse (tokens.drop 1)
          | some (p, tokens) =>
              if p.anchor.any fun name => rest.anchors.any fun entry => entry.1 == name then refuse tokens
              else readContent handles place p fuel { rest with tokens }

/-- Read the content of a node behind its properties. -/
def readContent (handles : Handles) (place : Place) (p : Properties) :
    Nat → Rest → Except Refusal (Node × Rest)
  | 0, _ => .error .misplaced
  | fuel + 1, rest =>
      let sequenceTag := p.tagOr .sequence
      let mappingTag := p.tagOr .mapping
      let readSequence := fun (items : Rest → Except Refusal (List Node × Rest)) tokens => do
        let (items, rest) ← items (p.enter { rest with tokens })
        return p.leave (.sequence sequenceTag items) rest
      let readMapping := fun (entries : Rest → Except Refusal (List (Node × Node) × Rest))
          tokens => do
        let (entries, rest) ← entries (p.enter { rest with tokens })
        return p.leave (.mapping mappingTag entries) rest
      match rest.tokens with
      | .scalar isPlain text :: tokens =>
          let n := Node.scalar (p.scalarTag isPlain text) text
          .ok (n, p.bind n { rest with tokens })
      | .flowSequenceStart :: tokens => readSequence (readFlowItems handles true fuel) tokens
      | .flowMappingStart :: tokens => readMapping (readFlowEntries handles true fuel) tokens
      | .blockEntry :: tokens =>
          if place = .entry then readSequence (readFlatItems handles fuel) (.blockEntry :: tokens)
          else readAbsent p rest
      | .blockSequenceStart :: tokens =>
          if place = .flow then readAbsent p rest else readSequence (readBlockItems handles fuel) tokens
      | .blockMappingStart :: tokens =>
          if place = .flow then readAbsent p rest else readMapping (readBlockEntries handles fuel) tokens
      | _ => readAbsent p rest

/-- Take properties without a content for an empty scalar. -/
def readAbsent (p : Properties) (rest : Rest) : Except Refusal (Node × Rest) :=
  if p.any && rest.tokens.head? != some .broken then
    let n := Node.scalar (p.scalarTag true []) []
    .ok (n, p.bind n rest)
  else refuse rest.tokens

/-- Read the items of an indented sequence up to its end. -/
def readBlockItems (handles : Handles) : Nat → Rest → Except Refusal (List Node × Rest)
  | 0, _ => .error .misplaced
  | fuel + 1, rest =>
      match rest.tokens with
      | .blockEntry :: tokens => do
          let (item, rest) ←
            if isAbsentInBlock tokens then pure (empty, { rest with tokens })
            else read handles .block fuel { rest with tokens }
          let (items, rest) ← readBlockItems handles fuel rest
          return (item :: items, rest)
      | .blockEnd :: tokens => .ok ([], { rest with tokens })
      | _ => refuse rest.tokens

/-- Read the items of a sequence that is not indented. Any other token ends it. -/
def readFlatItems (handles : Handles) : Nat → Rest → Except Refusal (List Node × Rest)
  | 0, _ => .error .misplaced
  | fuel + 1, rest =>
      match rest.tokens with
      | .blockEntry :: tokens => do
          let (item, rest) ←
            if isAbsentInBlock tokens || isAbsentInMapping tokens then pure (empty, { rest with tokens })
            else read handles .block fuel { rest with tokens }
          let (items, rest) ← readFlatItems handles fuel rest
          return (item :: items, rest)
      | _ => .ok ([], rest)

/-- Read the entries of a mapping in a block up to its end. -/
def readBlockEntries (handles : Handles) : Nat → Rest → Except Refusal (List (Node × Node) × Rest)
  | 0, _ => .error .misplaced
  | fuel + 1, rest =>
      match rest.tokens with
      | .key :: tokens => do
          let (key, rest) ←
            if isAbsentInMapping tokens then pure (empty, { rest with tokens })
            else read handles .entry fuel { rest with tokens }
          let (v, rest) ←
            match rest.tokens with
            | .value :: tokens =>
                if isAbsentInMapping tokens then pure (empty, { rest with tokens })
                else read handles .entry fuel { rest with tokens }
            | _ => pure (empty, rest)
          let (entries, rest) ← readBlockEntries handles fuel rest
          return ((key, v) :: entries, rest)
      | .blockEnd :: tokens => .ok ([], { rest with tokens })
      | _ => refuse rest.tokens

/-- Read a key between brackets, and its value. Either may be left out. -/
def readFlowPair (handles : Handles) (closing : Token) :
    Nat → Rest → Except Refusal ((Node × Node) × Rest)
  | 0, _ => .error .misplaced
  | fuel + 1, rest => do
      let (key, rest) ←
        if isAbsentInFlow closing rest.tokens || rest.tokens.head? == some .value then pure (empty, rest)
        else read handles .flow fuel rest
      match rest.tokens with
      | .value :: tokens =>
          let (v, rest) ←
            if isAbsentInFlow closing tokens then pure (empty, { rest with tokens })
            else read handles .flow fuel { rest with tokens }
          return ((key, v), rest)
      | _ => return ((key, empty), rest)

/-- Read the items of a sequence in brackets. A key among them begins a mapping with one entry. -/
def readFlowItems (handles : Handles) (first : Bool) : Nat → Rest → Except Refusal (List Node × Rest)
  | 0, _ => .error .misplaced
  | fuel + 1, rest =>
      match first, rest.tokens with
      | _, .flowSequenceEnd :: tokens => .ok ([], { rest with tokens })
      | false, .flowEntry :: tokens => readFlowItem handles fuel { rest with tokens }
      | false, _ => refuse rest.tokens
      | true, _ => readFlowItem handles fuel rest

/-- Read an item of a sequence in brackets and those behind it. -/
def readFlowItem (handles : Handles) : Nat → Rest → Except Refusal (List Node × Rest)
  | 0, _ => .error .misplaced
  | fuel + 1, rest =>
      match rest.tokens with
      | .flowSequenceEnd :: tokens => .ok ([], { rest with tokens })
      | .key :: tokens => do
          let (pair, rest) ← readFlowPair handles .flowSequenceEnd fuel { rest with tokens }
          let (items, rest) ← readFlowItems handles false fuel rest
          return (.mapping .mapping [pair] :: items, rest)
      | _ => do
          let (item, rest) ← read handles .flow fuel rest
          let (items, rest) ← readFlowItems handles false fuel rest
          return (item :: items, rest)

/-- Read the entries of a mapping in braces. -/
def readFlowEntries (handles : Handles) (first : Bool) :
    Nat → Rest → Except Refusal (List (Node × Node) × Rest)
  | 0, _ => .error .misplaced
  | fuel + 1, rest =>
      match first, rest.tokens with
      | _, .flowMappingEnd :: tokens => .ok ([], { rest with tokens })
      | false, .flowEntry :: tokens => readFlowEntry handles fuel { rest with tokens }
      | false, _ => refuse rest.tokens
      | true, _ => readFlowEntry handles fuel rest

/-- Read an entry of a mapping in braces and those behind it. A node that is no key has no value. -/
def readFlowEntry (handles : Handles) : Nat → Rest → Except Refusal (List (Node × Node) × Rest)
  | 0, _ => .error .misplaced
  | fuel + 1, rest =>
      match rest.tokens with
      | .flowMappingEnd :: tokens => .ok ([], { rest with tokens })
      | .key :: tokens => do
          let (pair, rest) ← readFlowPair handles .flowMappingEnd fuel { rest with tokens }
          let (entries, rest) ← readFlowEntries handles false fuel rest
          return (pair :: entries, rest)
      | _ => do
          let (key, rest) ← read handles .flow fuel rest
          let (entries, rest) ← readFlowEntries handles false fuel rest
          return ((key, empty) :: entries, rest)

end

/-! ### Documents -/

/-- The handles that every document has. -/
def standardHandles : Handles := [("!", "!"), ("!!", standardHandle)]

/-- Read directives: at most one version, which has to be of the first kind, and handles of tags, each at
most once. -/
def readDirectives (versioned : Bool) (handles : Handles) :
    List Token → Except Refusal (Handles × List Token)
  | .directive (.version major) :: tokens =>
      if versioned || major != 1 then .error .misplaced else readDirectives true handles tokens
  | .directive (.handle name meaning) :: tokens =>
      if handles.any fun entry => entry.1 == name then .error .misplaced
      else readDirectives versioned (handles ++ [(name, meaning)]) tokens
  | .directive .reserved :: tokens => readDirectives versioned handles tokens
  | tokens => .ok (handles ++ standardHandles, tokens)

/-- Nothing but marks of the end of a document may follow. The directives of another one are read before
it is refused. -/
def checkEnds : List Token → Except Refusal Unit
  | [] => .ok ()
  | .documentEnd :: tokens => checkEnds tokens
  | tokens => do
      let (_, tokens) ← readDirectives false [] tokens
      refuse tokens

/-- Whether a document has no content, given the token that comes next. -/
def isAbsentInDocument : List Token → Bool
  | [] => true
  | .directive _ :: _ => true
  | .documentStart :: _ => true
  | .documentEnd :: _ => true
  | _ => false

/-- Read the node of a document and the end of the text. Reading a node takes at most two steps for each
token. -/
def readDocument (handles : Handles) (tokens : List Token) : Except Refusal Node := do
  let (n, rest) ← read handles .block (2 * tokens.length + 2) ⟨tokens, []⟩
  checkEnds rest.tokens
  return n

/-- The node that tokens make up, if there is a document at all. There may not be several documents. -/
def ofTokens? (tokens : List Token) : Except Refusal (Option Node) :=
  match tokens with
  | [] => .ok none
  | .directive _ :: _ | .documentStart :: _ => do
      let (handles, tokens) ← readDirectives false [] tokens
      match tokens with
      | .documentStart :: tokens =>
          if isAbsentInDocument tokens then
            checkEnds tokens
            return some empty
          else return some (← readDocument handles tokens)
      | _ => refuse tokens
  | tokens => do return some (← readDocument standardHandles tokens)

end Node

end Syscat.Yaml
