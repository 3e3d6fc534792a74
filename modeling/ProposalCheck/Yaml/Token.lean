import ProposalCheck.Text.Decoding
import ProposalCheck.Yaml.BlockText
import ProposalCheck.Yaml.PlainText
import ProposalCheck.Yaml.QuotedText

/-!
# Marks and words of a document

A document is a sequence of tokens: brackets and marks, which may also come from the indentation,
names and tags, and texts. Here single tokens are read that do not depend on what is around them.
-/

namespace ProposalCheck.Yaml

/-- A token of a document. -/
inductive Token where
  | versionDirective (major : Int)
  | tagDirective (handle stem : String)
  | otherDirective
  | documentStart
  | documentEnd
  | streamEnd
  | blockSequence
  | blockMapping
  | blockEnd
  | flowSequence
  | flowSequenceEnd
  | flowMapping
  | flowMappingEnd
  | blockEntry
  | flowEntry
  | key
  | value
  | alias (name : String)
  | anchor (name : String)
  /-- A tag; without a handle it is written in full. -/
  | tag (handle : Option String) (suffix : String)
  | scalar (text : String) (plain : Bool)
  /-- Nothing can be read any further. -/
  | failure (e : Error)
deriving DecidableEq, Repr, Inhabited

namespace Token

/-- Whether a character can be part of a name. -/
def isNameChar (c : Char) : Bool :=
  c.isAlphanum || c == '-' || c == '_'

/-- Whether a character can be part of a tag. -/
def isTagChar (c : Char) : Bool :=
  c.isAlphanum || "-;/?:@&=+$,_.!~*'()[]%".toList.contains c

/-! ## Names -/

/-- A name, which ends before one of the characters that may follow a word. -/
def readName (c : Cursor) : Except Error (String × Cursor) := do
  let (name, c) := c.takeWhile isNameChar
  if name.isEmpty then throw .malformed
  unless endsWord c.peek || c.peek.any ("?:,]\x7d%@\x60".toList.contains ·) do throw .malformed
  return (String.ofList name, c)

/-! ## Tags -/

/-- The bytes of the escapes that come next. -/
def escapedBytes : Nat → Cursor → Except Error (List UInt8 × Cursor)
  | 0, c => .ok ([], c)
  | fuel + 1, c =>
    match c.rest with
    | '%' :: r =>
      match r.take 2 |>.map QuotedText.hexDigit? with
      | [some a, some b] => do
        let (bs, c) ← escapedBytes fuel (c.skip 3)
        return ((16 * a + b).toUInt8 :: bs, c)
      | _ => .error .malformed
    | _ => .ok ([], c)

/-- The characters of a tag in reverse, with escapes resolved. -/
def readTagChars : Nat → List Char → Cursor → Except Error (List Char × Cursor)
  | 0, acc, c => .ok (acc, c)
  | fuel + 1, acc, c => do
    match c.peek with
    | some '%' =>
      let (bs, c) ← escapedBytes (c.rest.length + 1) c
      match Text.Decoding.decode bs with
      | .ok s => readTagChars fuel (s.toList.reverse ++ acc) c
      | .error _ => throw .malformed
    | some ch => if isTagChar ch then readTagChars fuel (ch :: acc) c.step else return (acc, c)
    | none => return (acc, c)

/-- The characters of a tag; there is one at least. -/
def readTagText (c : Cursor) : Except Error (String × Cursor) := do
  let start := c
  let (acc, c) ← readTagChars (c.rest.length + 1) [] c
  if c.index == start.index then throw .malformed
  return (String.ofList acc.reverse, c)

/-- A handle: an exclamation mark, or a name between two of them. -/
def readHandle (c : Cursor) : Except Error (String × Cursor) := do
  unless c.isAt '!' do throw .malformed
  if c.step.isAt ' ' then return ("!", c.step)
  let (name, c) := c.step.takeWhile isNameChar
  unless c.isAt '!' do throw .malformed
  return (String.ofList ('!' :: name ++ ['!']), c.step)

/-- Whether a tag, after its first exclamation mark, starts with a handle of its own. -/
def hasHandle (cs : List Char) : Bool :=
  (cs.takeWhile fun c => c != ' ' && !isBreak c).contains '!'

/-- A tag. -/
def readTag (c : Cursor) : Except Error (Token × Cursor) := do
  let after := c.step
  let (token, c) ←
    if after.isAt '<' then do
      let (suffix, c) ← readTagText after.step
      unless c.isAt '>' do throw .malformed
      pure (Token.tag none suffix, c.step)
    else if endsWord after.peek then pure (Token.tag none "!", after)
    else if hasHandle after.rest then do
      let (handle, c) ← readHandle c
      let (suffix, c) ← readTagText c
      pure (Token.tag (some handle) suffix, c)
    else do
      let (suffix, c) ← readTagText after
      pure (Token.tag (some "!") suffix, c)
  unless endsLine c.peek || c.isAt ' ' do throw .malformed
  return (token, c)

/-! ## Directives -/

/-- A number in a directive. -/
def readDirectiveNumber (c : Cursor) : Except Error (Int × Cursor) := do
  let (digits, c) := c.takeWhile Char.isDigit
  if digits.isEmpty then throw .malformed
  let n ← (Text.Numeral.read (String.ofList digits)).mapError .numeral
  return (n, c)

/-- A directive, from the character after the percent sign on, with the rest of its line. -/
def readDirective (c : Cursor) : Except Error (Token × Cursor) := do
  let spaces (c : Cursor) : Cursor := c.skipWhile (· == ' ')
  let ended (c : Cursor) : Bool := endsLine c.peek || c.isAt ' '
  let (name, c) := c.takeWhile isNameChar
  if name.isEmpty || !ended c then throw .malformed
  let (token, c) ←
    if name == ['Y', 'A', 'M', 'L'] then do
      let (major, c) ← readDirectiveNumber (spaces c)
      unless c.isAt '.' do throw .malformed
      let (_, c) ← readDirectiveNumber c.step
      unless ended c do throw .malformed
      pure (Token.versionDirective major, c)
    else if name == ['T', 'A', 'G'] then do
      let (handle, c) ← readHandle (spaces c)
      unless c.isAt ' ' do throw .malformed
      let (stem, c) ← readTagText (spaces c)
      unless ended c do throw .malformed
      pure (Token.tagDirective handle stem, c)
    else pure (Token.otherDirective, c.skipWhile (!isBreak ·))
  match c.finishLine? with
  | some c => return (token, c)
  | none => throw .malformed

end Token

end ProposalCheck.Yaml
