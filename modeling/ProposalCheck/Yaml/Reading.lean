import ProposalCheck.Yaml.Building
import ProposalCheck.Yaml.Layout

/-!
# From tokens to data

`Yaml.read` gives the plain data of a text. The tokens of the text are read as one document: its
directives, and then its root with all parts. A part can be given a name and be named again later,
even inside itself: it has its number before its own parts are read.
-/

namespace ProposalCheck.Yaml

/-- What is left to read, and what names and handles stand for. -/
structure Reading where
  tokens : List Token
  /-- The nodes read so far. -/
  graph : Graph := #[]
  /-- The numbers of the nodes that have names, the last one first. -/
  anchors : List (String × Nat) := []
  /-- The handles of tags. -/
  handles : List (String × String) := []
deriving Inhabited

namespace Reading

/-- A step of reading. -/
abbrev Step := StateT Reading (Except Error)

/-- The document breaks the rules of the format. -/
def malformed {α : Type} : Step α := throw .malformed

/-- The next token. -/
def peek : Step Token := do
  match (← get).tokens with
  | [] => return .streamEnd
  | .failure e :: _ => throw e
  | t :: _ => return t

/-- Past the next token. -/
def advance : Step Unit :=
  modify fun s => { s with tokens := s.tokens.tail }

/-- Past the next token if it is a certain one. -/
def accept (t : Token) : Step Bool := do
  if (← peek) == t then
    advance
    return true
  else return false

/-! ## Names and tags -/

/-- Adds a node, perhaps with a name, and gives its number. -/
def add (anchor : Option String) (n : Node) : Step Nat := do
  let number := (← get).graph.size
  modify fun s => { s with graph := s.graph.push n }
  if let some a := anchor then
    modify fun s => { s with anchors := (a, number) :: s.anchors }
  return number

/-- Adds a node without properties that stands for nothing. -/
def addEmpty : Step Nat :=
  add none .empty

/-- Replaces a node. -/
def replace (number : Nat) (n : Node) : Step Unit :=
  modify fun s => { s with graph := s.graph.setIfInBounds number n }

/-- The number of the node that has a name. -/
def named (anchor : String) : Step Nat := do
  match (← get).anchors.find? (·.1 == anchor) with
  | some e => return e.2
  | none => malformed

/-- The tag with a handle and a suffix; `none` if the text decides. -/
def resolveTag (handle : Option String) (suffix : String) : Step (Option String) := do
  match handle with
  | none => return if suffix == "!" then none else some suffix
  | some h =>
    match (← get).handles.find? (·.1 == h) with
    | some e => return if e.2 ++ suffix == "!" then none else some (e.2 ++ suffix)
    | none => malformed

/-- What stands in front of a part: its name, and its tag. -/
structure Properties where
  anchor : Option String := none
  /-- The tag; `some none` is a tag that leaves it to the text. -/
  tag : Option (Option String) := none
deriving Repr, Inhabited

/-- The name that comes next, if one does. -/
def readAnchor : Step (Option String) := do
  match ← peek with
  | .anchor a =>
    advance
    return some a
  | _ => return none

/-- The tag that comes next, if one does. -/
def readTag : Step (Option (Option String)) := do
  match ← peek with
  | .tag handle suffix =>
    advance
    return some (← resolveTag handle suffix)
  | _ => return none

/-- The name and the tag of a part, in any order. A name is given once. -/
def readProperties : Step Properties := do
  let first ← readAnchor
  let tag ← readTag
  let second ← if first.isNone && tag.isSome then readAnchor else pure none
  let anchor := first <|> second
  if let some a := anchor then
    if (← get).anchors.any (·.1 == a) then malformed
  return { anchor, tag }

/-- The tag of a list or a mapping. -/
def Properties.tagOr (p : Properties) (standard : Tag) : Tag :=
  match p.tag with
  | some (some t) => .ofName t
  | _ => standard

/-- The part that a text is. Only a text without quotes is told by its form. -/
def Properties.scalar (p : Properties) (text : String) (plain : Bool) : Node :=
  match p.tag with
  | some (some t) => .scalar (.ofName t) text
  | some none => .scalar (.ofText text) text
  | none => .scalar (if plain then .ofText text else .text) text

/-! ## Parts -/

/-- Whether an item of a block list is left out where this token comes. -/
def endsItem : Token → Bool
  | .blockEntry | .key | .value | .blockEnd => true
  | _ => false

/-- Whether a key or a value of a block mapping is left out where this token comes. -/
def endsField : Token → Bool
  | .key | .value | .blockEnd => true
  | _ => false

/-- Whether a part between brackets is left out where this token comes. -/
def endsFlow : Token → Bool
  | .value | .flowEntry | .flowSequenceEnd | .flowMappingEnd => true
  | _ => false

/-- The comma before an entry between brackets, except before the first one. -/
def comma (first : Bool) : Step Unit := do
  unless first do
    unless ← accept .flowEntry do malformed

mutual

/-- A part. In a block it may be a block itself, and a list at the indentation of its key where
`hanging`. -/
def readNode (block hanging : Bool) : Nat → Step Nat
  | 0 => malformed
  | fuel + 1 => do
    if let .alias a ← peek then
      advance
      return ← named a
    let p ← readProperties
    let list (items : Step (List Nat)) : Step Nat := do
      let n ← add p.anchor (.sequence (p.tagOr .seq) [])
      replace n (.sequence (p.tagOr .seq) (← items))
      return n
    let mapping (entries : Step (List (Nat × Nat))) : Step Nat := do
      let n ← add p.anchor (.mapping (p.tagOr .map) [])
      replace n (.mapping (p.tagOr .map) (← entries))
      return n
    let text (s : String) (plain : Bool) : Step Nat := add p.anchor (p.scalar s plain)
    match ← peek, block, hanging with
    | .blockEntry, _, true => list (readItems true fuel)
    | .scalar s plain, _, _ =>
      advance
      text s plain
    | .flowSequence, _, _ =>
      advance
      list (readFlowItems true fuel)
    | .flowMapping, _, _ =>
      advance
      mapping (readFlowFields true fuel)
    | .blockSequence, true, _ =>
      advance
      list (readItems false fuel)
    | .blockMapping, true, _ =>
      advance
      mapping (readFields fuel)
    | _, _, _ =>
      if p.anchor.isNone && p.tag.isNone then malformed
      text "" true

/-- A part, or nothing where one of certain tokens comes. -/
def readOptional (ends : Token → Bool) (block hanging : Bool) : Nat → Step Nat
  | 0 => malformed
  | fuel + 1 => do
    if ends (← peek) then return ← addEmpty
    readNode block hanging fuel

/-- The items of a block list; the end of a hanging list has no token of its own. -/
def readItems (hanging : Bool) : Nat → Step (List Nat)
  | 0 => malformed
  | fuel + 1 => do
    if ← accept .blockEntry then
      let n ← readOptional endsItem true false fuel
      return n :: (← readItems hanging fuel)
    else
      unless hanging do
        unless ← accept .blockEnd do malformed
      return []

/-- The entries of a block mapping. -/
def readFields : Nat → Step (List (Nat × Nat))
  | 0 => malformed
  | fuel + 1 => do
    if ← accept .key then
      let k ← readOptional endsField true true fuel
      let v ← if ← accept .value then readOptional endsField true true fuel else addEmpty
      return (k, v) :: (← readFields fuel)
    else
      unless ← accept .blockEnd do malformed
      return []

/-- The value after a key between brackets. -/
def readFlowValue : Nat → Step Nat
  | 0 => malformed
  | fuel + 1 => do
    if ← accept .value then readOptional endsFlow false false fuel else addEmpty

/-- The items of a list between brackets. A key makes a mapping of one entry. -/
def readFlowItems (first : Bool) : Nat → Step (List Nat)
  | 0 => malformed
  | fuel + 1 => do
    if ← accept .flowSequenceEnd then return []
    comma first
    if ← accept .flowSequenceEnd then return []
    let n ←
      if ← accept .key then
        let k ← readOptional endsFlow false false fuel
        let v ← readFlowValue fuel
        add none (.mapping .map [(k, v)])
      else readNode false false fuel
    return n :: (← readFlowItems false fuel)

/-- The entries of a mapping between brackets. A key may stand without its mark and
without a value. -/
def readFlowFields (first : Bool) : Nat → Step (List (Nat × Nat))
  | 0 => malformed
  | fuel + 1 => do
    if ← accept .flowMappingEnd then return []
    comma first
    if ← accept .flowMappingEnd then return []
    let e ←
      if ← accept .key then
        let k ← readOptional endsFlow false false fuel
        let v ← readFlowValue fuel
        pure (k, v)
      else
        let k ← readNode false false fuel
        pure (k, ← addEmpty)
    return e :: (← readFlowFields false fuel)

end

/-! ## Documents -/

/-- The handles that need no directive. -/
def standardHandles : List (String × String) :=
  [("!", "!"), ("!!", Tag.stem)]

/-- The directives that come next. Those of tags are given once for each handle, that of the version
once. -/
def readDirectives (versionSeen : Bool) : Nat → Step Unit
  | 0 => malformed
  | fuel + 1 => do
    match ← peek with
    | .versionDirective major =>
      advance
      if versionSeen || major != 1 then malformed
      readDirectives true fuel
    | .tagDirective handle stem =>
      advance
      if (← get).handles.any (·.1 == handle) then malformed
      modify fun s => { s with handles := (handle, stem) :: s.handles }
      readDirectives versionSeen fuel
    | .otherDirective =>
      advance
      readDirectives versionSeen fuel
    | _ => return

/-- Whether a document without directives has no root where this token comes. -/
def endsDocument : Token → Bool
  | .versionDirective _ | .tagDirective _ _ | .otherDirective | .documentStart | .documentEnd
  | .streamEnd => true
  | _ => false

/-- Past markers of the end of a document. -/
def skipEnds : Nat → Step Unit
  | 0 => return
  | fuel + 1 => do
    if ← accept .documentEnd then skipEnds fuel

/-- A document with directives or with the marker of its start, if there is one. -/
def readExplicit (fuel : Nat) : Step (Option Nat) := do
  skipEnds fuel
  if (← peek) == .streamEnd then return none
  modify fun s => { s with handles := [] }
  readDirectives false fuel
  unless ← accept .documentStart do malformed
  modify fun s => { s with handles := s.handles ++ standardHandles }
  some <$> readOptional endsDocument true false fuel

/-- Whether a text starts with a document that has neither directives nor the marker of
its start. -/
def startsBare : Token → Bool
  | .documentEnd => true
  | t => !endsDocument t

/-- The root of the one document of a text, if there is a document at all. -/
def readDocument (fuel : Nat) : Step (Option Nat) := do
  let root ←
    if startsBare (← peek) then
      modify fun s => { s with handles := standardHandles }
      some <$> readNode true false fuel
    else readExplicit fuel
  skipEnds fuel
  match root, ← peek with
  | none, _ => return none
  | some n, .streamEnd => return some n
  | some _, _ => malformed

end Reading

/-- The plain data of a text. -/
def read (text : String) : Except Error Data.Value := do
  let tokens := Token.ofText text
  let (root, r) ← (Reading.readDocument (2 * tokens.length + 4)).run { tokens }
  match root with
  | some n => r.graph.toValue n
  | none => return .null

end ProposalCheck.Yaml
