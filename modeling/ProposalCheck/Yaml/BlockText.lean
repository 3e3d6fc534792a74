import ProposalCheck.Yaml.Cursor
import ProposalCheck.Yaml.Error

/-!
# Texts by indentation

After `|` or `>` a text stands on the following lines as far as they are indented. After `>` its
lines are folded: a single line feed between two lines that start with text becomes a space. The
header may give the indentation, and says what becomes of the line feeds at the end.
-/

namespace ProposalCheck.Yaml.BlockText

/-- What becomes of the line feeds at the end: one stays, none does, or all do. -/
inductive Chomping where
  | clip
  | strip
  | keep
deriving DecidableEq, Repr, Inhabited

/-- What stands after the mark. -/
structure Header where
  chomping : Chomping := .clip
  /-- How much further the text is indented than what is around it. -/
  increment : Option Nat := none
deriving DecidableEq, Repr, Inhabited

/-- The chomping that a character stands for. -/
def chomping? : Char → Option Chomping
  | '+' => some .keep
  | '-' => some .strip
  | _ => none

/-- The increment that a character stands for; zero is none. -/
def increment? (c : Char) : Option (Option Nat) :=
  if c.isDigit then some (if c == '0' then none else some (c.toNat - '0'.toNat)) else none

/-- Reads the header and the rest of its line. -/
def readHeader (c : Cursor) : Except Error (Header × Cursor) := do
  let increment (c : Cursor) : Except Error (Option Nat × Cursor) :=
    match c.peek.bind increment? with
    | some (some n) => .ok (some n, c.step)
    | some none => .error .malformed
    | none => .ok (none, c)
  let chomping (c : Cursor) : Option Chomping × Cursor :=
    match c.peek.bind chomping? with
    | some x => (some x, c.step)
    | none => (none, c)
  let (first, c) := chomping c
  let (n, c) ← increment c
  let (second, c) := if first.isSome || n.isNone then (none, c) else chomping c
  let finished := endsLine c.peek || c.isAt ' '
  match if finished then c.finishLine? else none with
  | some c => return ({ chomping := (first <|> second).getD .clip, increment := n }, c)
  | none => throw .malformed

/-- Past the spaces up to a column. -/
def skipIndent (indent : Nat) (c : Cursor) : Cursor :=
  c.skip (Nat.min (indent - c.column) (c.rest.takeWhile (· == ' ')).length)

/-- The breaks of the empty lines that come next, and the cursor past them and the indentation. -/
def emptyLines (indent : Nat) : Nat → Cursor → List Char × Cursor
  | 0, c => ([], c)
  | fuel + 1, c =>
    let c := skipIndent indent c
    match c.takeBreak with
    | ([], _) => ([], c)
    | (b, next) =>
      let (bs, last) := emptyLines indent fuel next
      (b ++ bs, last)

/-- The breaks of the empty lines at the start, and the largest indentation on the way
to the text. -/
def findIndent : Nat → Nat → Cursor → List Char × Nat × Cursor
  | 0, deepest, c => ([], deepest, c)
  | fuel + 1, deepest, c =>
    if c.isAt ' ' then findIndent fuel (Nat.max deepest c.step.column) c.step
    else match c.takeBreak with
      | ([], _) => ([], deepest, c)
      | (b, next) =>
        let (bs, deepest, last) := findIndent fuel deepest next
        (b ++ bs, deepest, last)

/-- The text of lines that are indented to a column, after the empty lines `before`. The result has
the characters in reverse, the last line break and the breaks of the empty lines after it. -/
def readLines (folded : Bool) (indent : Nat) :
    Nat → List Char → List Char → Cursor → List Char × List Char × List Char × Cursor
  | 0, acc, before, c => (acc, [], before, c)
  | fuel + 1, acc, before, c =>
    let startsWithText := !c.peek.any isSpaceOrTab
    let (line, c) := c.takeWhile (!isBreak ·)
    let acc := line.reverse ++ (before.reverse ++ acc)
    let (lineBreak, c) := c.takeBreak
    let (breaks, c) := emptyLines indent (c.rest.length + 1) c
    if c.column == indent && !c.rest.isEmpty then
      let acc :=
        if folded && lineBreak == ['\n'] && startsWithText && !c.peek.any isSpaceOrTab then
          if breaks.isEmpty then ' ' :: acc else acc
        else lineBreak.reverse ++ acc
      readLines folded indent fuel acc breaks c
    else (acc, lineBreak, breaks, c)

/-- Reads a text whose surroundings are indented to `outer`, from the character after
the mark on. -/
def read (folded : Bool) (outer : Int) (c : Cursor) : Except Error (String × Cursor) := do
  let (header, c) ← readHeader c
  let least := Nat.max 1 (outer + 1).toNat
  let (before, indent, c) : List Char × Nat × Cursor :=
    match header.increment with
    | none =>
      let (breaks, deepest, c) := findIndent (c.rest.length + 1) 0 c
      (breaks, Nat.max least deepest, c)
    | some n =>
      let indent := least + n - 1
      let (breaks, c) := emptyLines indent (c.rest.length + 1) c
      (breaks, indent, c)
  let (acc, lineBreak, breaks, c) :=
    if c.column == indent && !c.rest.isEmpty then
      readLines folded indent (c.rest.length + 1) [] before c
    else ([], [], before, c)
  let tail := match header.chomping with
    | .clip => lineBreak
    | .strip => []
    | .keep => lineBreak ++ breaks
  return (String.ofList (acc.reverse ++ tail), c)

end ProposalCheck.Yaml.BlockText
