import ProposalCheck.Yaml.Cursor
import ProposalCheck.Yaml.Error

/-!
# Texts between quotes

Between single quotes every character stands for itself, and a single quote is written twice.
Between double quotes a backslash starts an escape. Line breaks are folded: one alone becomes a
space, and further ones stay.
-/

namespace ProposalCheck.Yaml.QuotedText

/-- The character that an escape of one letter stands for. -/
def simpleEscape? : Char → Option Char
  | '0' => some '\x00'
  | 'a' => some '\x07'
  | 'b' => some '\x08'
  | 't' => some '\t'
  | '\t' => some '\t'
  | 'n' => some '\n'
  | 'v' => some '\x0b'
  | 'f' => some '\x0c'
  | 'r' => some '\r'
  | 'e' => some '\x1b'
  | ' ' => some ' '
  | '"' => some '"'
  | '\\' => some '\\'
  | '/' => some '/'
  | 'N' => some '\x85'
  | '_' => some '\xa0'
  | 'L' => some '\u2028'
  | 'P' => some '\u2029'
  | _ => none

/-- The number of hexadecimal digits after the letter of an escape. -/
def digitCount? : Char → Option Nat
  | 'x' => some 2
  | 'u' => some 4
  | 'U' => some 8
  | _ => none

/-- The value of a hexadecimal digit. -/
def hexDigit? (c : Char) : Option Nat :=
  if c.isDigit then some (c.toNat - '0'.toNat)
  else if 'a' ≤ c && c ≤ 'f' then some (c.toNat - 'a'.toNat + 10)
  else if 'A' ≤ c && c ≤ 'F' then some (c.toNat - 'A'.toNat + 10)
  else none

/-- The character with the number that the next digits give. -/
def readNumber (count : Nat) (c : Cursor) : Except Error (Char × Cursor) :=
  let digits := (c.rest.take count).filterMap hexDigit?
  if digits.length < count then .error .malformed
  else
    let n := digits.foldl (fun n d => 16 * n + d) 0
    if Nat.pow 2 31 ≤ n then .error .hugeCharacter
    else if 0x110000 ≤ n then .error .noSuchCharacter
    else if n.isValidChar then .ok (Char.ofNat n, c.skip count)
    else .ok ('\uFFFD', c.skip count)

/-- The breaks of the lines that hold blanks only, and the cursor past them and the blanks after. -/
def emptyLines : Nat → Cursor → Except Error (List Char × Cursor)
  | 0, c => .ok ([], c)
  | fuel + 1, c => do
    if startsAnyMarker c.rest then throw .malformed
    let c := c.skipWhile isSpaceOrTab
    match c.takeBreak with
    | ([], _) => return ([], c)
    | (b, next) =>
      let (bs, last) ← emptyLines fuel next
      return (b ++ bs, last)

/-- A gap between words: blanks stay, a line break is folded. -/
def readGap (c : Cursor) : Except Error (List Char × Cursor) := do
  let (blanks, c) := c.takeWhile isSpaceOrTab
  match c.peek with
  | none => throw .malformed
  | some ch =>
    if isBreak ch then
      let (b, c) := c.takeBreak
      let (bs, c) ← emptyLines (c.rest.length + 1) c
      return (if b != ['\n'] then b ++ bs else if bs.isEmpty then [' '] else bs, c)
    else return (blanks, c)

/-- The escape after a backslash. A break of the line is left out with the blanks around it. -/
def readEscape (c : Cursor) : Except Error (List Char × Cursor) := do
  match c.peek with
  | none => throw .malformed
  | some ch =>
    match simpleEscape? ch, digitCount? ch with
    | some x, _ => return ([x], c.step)
    | none, some n =>
      let (x, c) ← readNumber n c.step
      return ([x], c)
    | none, none =>
      if isBreak ch then
        let c := c.takeBreak.2
        emptyLines (c.rest.length + 1) c
      else throw .malformed

/-- Reads up to the closing quote, with the characters so far in reverse. -/
def readParts (double : Bool) : Nat → List Char → Cursor → Except Error (List Char × Cursor)
  | 0, _, _ => .error .malformed
  | fuel + 1, acc, c => do
    match c.peek with
    | none => throw .malformed
    | some ch =>
      if isGap ch then
        let (gap, c) ← readGap c
        readParts double fuel (gap.reverse ++ acc) c
      else if !double && ch == '\'' then
        if c.step.isAt '\'' then readParts double fuel ('\'' :: acc) c.step.step
        else return (acc.reverse, c.step)
      else if double && ch == '"' then return (acc.reverse, c.step)
      else if double && ch == '\\' then
        let (x, c) ← readEscape c.step
        readParts double fuel (x.reverse ++ acc) c
      else readParts double fuel (ch :: acc) c.step

/-- Reads a text from the character after the opening quote on. -/
def read (double : Bool) (c : Cursor) : Except Error (String × Cursor) := do
  let (cs, c) ← readParts double (c.rest.length + 1) [] c
  return (String.ofList cs, c)

end ProposalCheck.Yaml.QuotedText
