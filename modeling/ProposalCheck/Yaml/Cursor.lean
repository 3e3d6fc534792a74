/-!
# A place in a text

Indentation decides the structure of a document, so reading keeps track of lines and columns. A
`Cursor` is the rest of a text with the place where it starts.
-/

namespace ProposalCheck.Yaml

/-- Whether a character ends a line. -/
def isBreak (c : Char) : Bool :=
  c == '\n' || c == '\r' || c == '\x85' || c == '\u2028' || c == '\u2029'

/-- Whether a character is a space or a tab. -/
def isSpaceOrTab (c : Char) : Bool :=
  c == ' ' || c == '\t'

/-- Whether a character stands between words. -/
def isGap (c : Char) : Bool :=
  isSpaceOrTab c || isBreak c

/-- Whether a word ends where this character is next, or nothing is. -/
def endsWord (next : Option Char) : Bool :=
  next.all isGap

/-- Whether a line ends where this character is next, or nothing is. -/
def endsLine (next : Option Char) : Bool :=
  next.all isBreak

/-- Whether a text starts with the marker of the start or of the end of a document. -/
def startsMarker (mark : Char) : List Char → Bool
  | a :: b :: c :: r => a == mark && b == mark && c == mark && endsWord r.head?
  | _ => false

/-- Whether a text starts with one of the two markers. -/
def startsAnyMarker (cs : List Char) : Bool :=
  startsMarker '-' cs || startsMarker '.' cs

/-- The rest of a text and the place where it starts, counted from zero. -/
structure Cursor where
  rest : List Char
  index : Nat := 0
  line : Nat := 0
  column : Nat := 0
deriving Repr, Inhabited

namespace Cursor

/-- The next character. -/
def peek (c : Cursor) : Option Char := c.rest.head?

/-- Whether a character comes next. -/
def isAt (c : Cursor) (ch : Char) : Bool := c.peek == some ch

/-- Past the next character. A mark of the byte order takes no column. -/
def step (c : Cursor) : Cursor :=
  match c.rest with
  | [] => c
  | ch :: r =>
    let index := c.index + 1
    if isBreak ch && !(ch == '\r' && r.head? == some '\n') then
      { rest := r, index, line := c.line + 1, column := 0 }
    else if ch == '\uFEFF' then { c with rest := r, index }
    else { c with rest := r, index, column := c.column + 1 }

/-- Past several characters. -/
def skip : Nat → Cursor → Cursor
  | 0, c => c
  | n + 1, c => skip n c.step

/-- The characters that pass a test, and the cursor past them. -/
def takeWhile (c : Cursor) (test : Char → Bool) : List Char × Cursor :=
  let taken := c.rest.takeWhile test
  (taken, skip taken.length c)

/-- Past the characters that pass a test. -/
def skipWhile (c : Cursor) (test : Char → Bool) : Cursor :=
  (c.takeWhile test).2

/-- The line break that comes next, if one does, and the cursor past it. All breaks but the line and
the paragraph separator are the same. -/
def takeBreak (c : Cursor) : List Char × Cursor :=
  match c.rest with
  | '\r' :: '\n' :: _ => (['\n'], c.step.step)
  | ch :: _ =>
    if ch == '\u2028' || ch == '\u2029' then ([ch], c.step)
    else if isBreak ch then (['\n'], c.step)
    else ([], c)
  | [] => ([], c)

/-- Past the spaces and a comment at the end of a line; `none` if there is anything else. -/
def finishLine? (c : Cursor) : Option Cursor :=
  let c := c.skipWhile (· == ' ')
  let c := if c.isAt '#' then c.skipWhile (!isBreak ·) else c
  if endsLine c.peek then some c.takeBreak.2 else none

end Cursor

end ProposalCheck.Yaml
