import ProposalCheck.Yaml.Token

/-!
# From a text to tokens

`Token.ofText` cuts a text into tokens. Indentation opens and closes sequences and mappings. A
mapping is often seen only at the colon after its first key; a `PendingKey` remembers where a key
may have started, so that the marks of the mapping and of the key can be put in front of it.
-/

namespace ProposalCheck.Yaml

/-- A place where a key may have started. -/
structure PendingKey where
  /-- The number of tokens in front of it. -/
  position : Nat
  /-- Whether the document is malformed if it is no key. -/
  required : Bool
  index : Nat
  line : Nat
  column : Nat
deriving Repr, Inhabited

/-- A text that has been read up to a place. -/
structure Layout where
  cursor : Cursor
  /-- The tokens so far, the last one first. -/
  tokens : List Token := []
  /-- The number of brackets around the place. -/
  depth : Nat := 0
  /-- The column of the innermost block, and of those around it. -/
  indent : Int := -1
  outer : List Int := []
  /-- Whether a key may start here. -/
  allowKey : Bool := true
  /-- The places where keys may have started, by the number of brackets around them. -/
  pending : List (Nat × PendingKey) := []
deriving Inhabited

namespace Layout

/-- Adds a token. -/
def push (s : Layout) (t : Token) : Layout :=
  { s with tokens := t :: s.tokens }

/-- Puts tokens where others have been read already. -/
def insertAt (s : Layout) (position : Nat) (ts : List Token) : Layout :=
  let after := s.tokens.length - position
  { s with tokens := s.tokens.take after ++ ts.reverse ++ s.tokens.drop after }

/-! ## Blocks -/

/-- Closes the blocks that are indented further than a column. -/
def unwindTo (column : Int) : List Int → Int → List Token → Int × List Int × List Token
  | [], indent, tokens => (indent, [], tokens)
  | o :: os, indent, tokens =>
    if column < indent then unwindTo column os o (.blockEnd :: tokens) else (indent, o :: os, tokens)

/-- Closes the blocks that are indented further than a column; brackets keep them open. -/
def unwind (s : Layout) (column : Int) : Layout :=
  if 0 < s.depth then s
  else
    let (indent, outer, tokens) := unwindTo column s.outer s.indent s.tokens
    { s with indent, outer, tokens }

/-- Opens a block at a column, if it is further in than the block around it. -/
def openBlock (s : Layout) (column : Nat) : Layout × Bool :=
  if s.indent < column then ({ s with outer := s.indent :: s.outer, indent := column }, true)
  else (s, false)

/-! ## Keys -/

/-- The place where a key may have started inside the same brackets. -/
def pendingHere (s : Layout) : Option PendingKey :=
  (s.pending.find? (·.1 == s.depth)).map (·.2)

/-- Gives up the place inside the same brackets. -/
def dropPending (s : Layout) : Except Error Layout :=
  if (s.pendingHere.map (·.required)).getD false then .error .malformed
  else .ok { s with pending := s.pending.filter (·.1 != s.depth) }

/-- Gives up the places that are not on this line or too far away. -/
def dropStale (s : Layout) : Except Error Layout :=
  let stale (k : PendingKey) : Bool := k.line != s.cursor.line || 1024 < s.cursor.index - k.index
  if s.pending.any fun e => stale e.2 && e.2.required then .error .malformed
  else .ok { s with pending := s.pending.filter fun e => !stale e.2 }

/-- Remembers this place if a key may start here. -/
def savePending (s : Layout) : Except Error Layout := do
  if !s.allowKey then return s
  let s ← s.dropPending
  let c := s.cursor
  let k : PendingKey := {
    position := s.tokens.length, index := c.index, line := c.line, column := c.column
    required := s.depth == 0 && s.indent == c.column }
  return { s with pending := s.pending ++ [(s.depth, k)] }

/-! ## Steps -/

/-- Past blanks, comments and line breaks. A key may start on a new line. -/
def skipGaps : Nat → Layout → Layout
  | 0, s => s
  | fuel + 1, s =>
    let c := s.cursor
    let c := if c.index == 0 && c.isAt '\uFEFF' then c.step else c
    let c := c.skipWhile (· == ' ')
    let c := if c.isAt '#' then c.skipWhile (!isBreak ·) else c
    match c.takeBreak with
    | ([], _) => { s with cursor := c }
    | (_, next) =>
      skipGaps fuel { s with cursor := next, allowKey := s.depth == 0 || s.allowKey }

/-- A token that stands for a text or its name and may start a key. -/
def word (s : Layout) (read : Cursor → Except Error (Token × Cursor)) : Except Error Layout := do
  let s ← s.savePending
  let (t, cursor) ← read s.cursor
  return { s with cursor, allowKey := false }.push t

/-- The start of a document's directives or one of the two markers: all blocks end here. -/
def topLevel (s : Layout) : Except Error Layout := do
  let s ← (s.unwind (-1)).dropPending
  return { s with allowKey := false }

/-- An opening bracket. -/
def openBracket (s : Layout) (t : Token) : Except Error Layout := do
  let s ← s.savePending
  return { s with depth := s.depth + 1, allowKey := true, cursor := s.cursor.step }.push t

/-- A closing bracket. -/
def closeBracket (s : Layout) (t : Token) : Except Error Layout := do
  let s ← s.dropPending
  return { s with depth := s.depth - 1, allowKey := false, cursor := s.cursor.step }.push t

/-- A mark that starts an entry of a sequence or a key. -/
def entryMark (s : Layout) (opening mark : Token) (allowAfter : Bool) : Except Error Layout := do
  let s ←
    if s.depth == 0 then
      if !s.allowKey then throw Error.malformed
      let (s, opened) := s.openBlock s.cursor.column
      pure (if opened then s.push opening else s)
    else pure s
  let s ← { s with allowKey := allowAfter }.dropPending
  return { s with cursor := s.cursor.step }.push mark

/-- The colon after a key. -/
def valueMark (s : Layout) : Except Error Layout := do
  match s.pendingHere with
  | some k =>
    let s := { s with pending := s.pending.filter (·.1 != s.depth), allowKey := false }
    let (s, opened) := if s.depth == 0 then s.openBlock k.column else (s, false)
    let s := s.insertAt k.position (if opened then [.blockMapping, .key] else [.key])
    return { s with cursor := s.cursor.step }.push .value
  | none => s.entryMark .blockMapping .value (s.depth == 0)

/-- A text without quotes. -/
def plain (s : Layout) : Except Error Layout := do
  let s ← s.savePending
  let (text, broken, cursor) := PlainText.read (0 < s.depth) (s.indent + 1) s.cursor
  return { s with cursor, allowKey := broken }.push (.scalar text true)

/-- A text by indentation. -/
def block (s : Layout) (folded : Bool) : Except Error Layout := do
  let s ← { s with allowKey := true }.dropPending
  let (text, cursor) ← BlockText.read folded s.indent s.cursor.step
  return { s with cursor }.push (.scalar text false)

/-- A text between quotes. -/
def quoted (s : Layout) (double : Bool) : Except Error Layout :=
  s.word fun c => do
    let (text, c) ← QuotedText.read double c.step
    return (.scalar text false, c)

/-- A name after its mark. -/
def named (s : Layout) (make : String → Token) : Except Error Layout :=
  s.word fun c => do
    let (name, c) ← Token.readName c.step
    return (make name, c)

/-- The end of the text. -/
def finish (s : Layout) : Except Error Layout := do
  let s ← (s.unwind (-1)).dropPending
  return { s with allowKey := false, pending := [] }.push .streamEnd

/-- Reads what starts at a character. -/
def readAt (s : Layout) (ch : Char) : Except Error Layout := do
  let c := s.cursor
  let next := c.step.peek
  let flow := 0 < s.depth
  let marks := flow || endsWord next
  if ch == '%' && c.column == 0 then
    let s ← s.topLevel
    let (t, cursor) ← Token.readDirective s.cursor.step
    return { s with cursor }.push t
  else if c.column == 0 && startsMarker '-' c.rest then
    return { (← s.topLevel) with cursor := c.skip 3 }.push .documentStart
  else if c.column == 0 && startsMarker '.' c.rest then
    return { (← s.topLevel) with cursor := c.skip 3 }.push .documentEnd
  else if ch == '[' then s.openBracket .flowSequence
  else if ch == '\x7b' then s.openBracket .flowMapping
  else if ch == ']' then s.closeBracket .flowSequenceEnd
  else if ch == '\x7d' then s.closeBracket .flowMappingEnd
  else if ch == ',' then
    let s ← { s with allowKey := true }.dropPending
    return { s with cursor := c.step }.push .flowEntry
  else if ch == '-' && endsWord next then s.entryMark .blockSequence .blockEntry true
  else if ch == '?' && marks then s.entryMark .blockMapping .key (!flow)
  else if ch == ':' && marks then s.valueMark
  else if ch == '*' then s.named .alias
  else if ch == '&' then s.named .anchor
  else if ch == '!' then s.word Token.readTag
  else if ch == '|' && !flow then s.block false
  else if ch == '>' && !flow then s.block true
  else if ch == '\'' then s.quoted false
  else if ch == '"' then s.quoted true
  else if PlainText.canStart flow c.rest then s.plain
  else throw .malformed

/-- Reads the next token; `none` at the end of the text. -/
def readNext (s : Layout) : Except Error (Layout × Bool) := do
  let s := skipGaps (s.cursor.rest.length + 1) s
  let s ← s.dropStale
  let s := s.unwind s.cursor.column
  match s.cursor.peek with
  | none => return (← s.finish, true)
  | some ch => return (← s.readAt ch, false)

/-- Reads tokens to the end of the text, or to where nothing can be read. -/
def readAll : Nat → Layout → List Token
  | 0, s => (s.push (.failure .malformed)).tokens.reverse
  | fuel + 1, s =>
    match s.readNext with
    | .error e => (s.push (.failure e)).tokens.reverse
    | .ok (s, true) => s.tokens.reverse
    | .ok (s, false) => readAll fuel s

/-- Whether a character may stand in a document. -/
def isAllowed (c : Char) : Bool :=
  let n := c.toNat
  n == 0x9 || n == 0xA || n == 0xD || (0x20 ≤ n && n ≤ 0x7E) || n == 0x85
    || (0xA0 ≤ n && n ≤ 0xFFFD) || 0x10000 ≤ n

end Layout

/-- The tokens of a text. -/
def Token.ofText (text : String) : List Token :=
  let cs := text.toList
  if cs.all Layout.isAllowed then Layout.readAll (cs.length + 1) { cursor := { rest := cs } }
  else [.failure .malformed]

end ProposalCheck.Yaml
