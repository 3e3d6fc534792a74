import ProposalCheck.Markup.Block.Layout
import ProposalCheck.Markup.Html
import ProposalCheck.Pattern.Matching
import ProposalCheck.Text.Lines

/-!
# The starts of blocks

How each block starts, as a test on a line, and which of these starts end another block that is open
(`interrupts`): a paragraph goes on until one of them or an empty line.
-/

namespace ProposalCheck.Markup.Block

/-- How an item of a list is marked. -/
structure ListMarker where
  /-- The position after the marker. -/
  after : Nat
  /-- The last character of the marker, which all items of a list share. -/
  last : Char
  /-- The number, if the items are numbered. -/
  number : Option (List Char)
deriving Repr, Inhabited

namespace Context

/-! ## Fences, quotes, rules and headings -/

/-- The length of the run of a character at the start of a line's content. -/
def runLength (ctx : Context) (i : Nat) (c : Char) : Nat :=
  let p := (ctx.line i).content
  skip ctx.text (· == c) p ctx.text.size - p

/-- The character and the length of the fence with which a code block starts. A fence of backticks
has no backtick after it. -/
def fence? (ctx : Context) (i : Nat) : Option (Char × Nat) :=
  if ctx.isCode i then none
  else match ctx.first? i with
    | none => none
    | some c =>
      let n := ctx.runLength i c
      let info := slice ctx.text ((ctx.line i).content + n) (ctx.line i).stop
      if (c == '~' || c == '\x60') && 3 ≤ n && !(c == '\x60' && info.contains '\x60') then some (c, n)
      else none

/-- Whether a block quote starts at a line. -/
def startsQuote (ctx : Context) (i : Nat) : Bool :=
  !ctx.isCode i && ctx.first? i == some '>'

/-- Whether a line is a thematic break: three or more of one mark and blanks. -/
def isThematicBreak (ctx : Context) (i : Nat) : Bool :=
  !ctx.isCode i && match ctx.lineText i with
  | [] => false
  | c :: r =>
    (c == '*' || c == '-' || c == '_') && (r.all fun d => d == c || isSpace d) && 2 ≤ r.count c

/-- The level of the heading that a line is. -/
def headingLevel? (ctx : Context) (i : Nat) : Option Nat :=
  if ctx.isCode i then none
  else
    let n := ((ctx.lineText i).takeWhile (· == '#')).length
    let next := (ctx.lineText i)[n]?
    if 1 ≤ n && n ≤ 6 && (match next with
      | some c => isSpace c
      | none => true)
    then some n else none

/-! ## Lists -/

/-- Whether a marker may end at a position of a line. -/
def endsMarker (ctx : Context) (i p : Nat) : Bool :=
  (ctx.line i).stop ≤ p || match ctx.text[p]? with
  | some c => isSpace c
  | none => true

/-- The marker of an item of a bullet list. -/
def bullet? (ctx : Context) (i : Nat) : Option ListMarker :=
  let p := (ctx.line i).content + 1
  match ctx.first? i with
  | some c =>
    if (c == '*' || c == '-' || c == '+') && ctx.endsMarker i p then
      some { after := p, last := c, number := none }
    else none
  | none => none

/-- The marker of an item of a numbered list: one to nine digits and a period or parenthesis. -/
def number? (ctx : Context) (i : Nat) : Option ListMarker :=
  let cs := ctx.lineText i
  let digits := cs.takeWhile Char.isDigit
  let p := (ctx.line i).content + digits.length + 1
  match cs[digits.length]? with
  | some c =>
    if 1 ≤ digits.length && digits.length ≤ 9 && (c == '.' || c == ')') && ctx.endsMarker i p then
      some { after := p, last := c, number := some digits }
    else none
  | none => none

/-- The marker of an item of a list. -/
def marker? (ctx : Context) (i : Nat) : Option ListMarker :=
  match ctx.number? i with
  | some m => some m
  | none => ctx.bullet? i

/-- Whether a line is too far to the left for the item around it, and still belongs to it. -/
def isOutdentedItem (ctx : Context) (i : Nat) : Bool :=
  match ctx.listIndent with
  | some n => (ctx.line i).indent - n ≥ 4 && (ctx.line i).indent < ctx.indent
  | none => false

/-- The marker of the first item of a list. One that ends a paragraph has content and, if it is
numbered, the number one. -/
def list? (ctx : Context) (i : Nat) (inParagraph : Bool) : Option ListMarker :=
  if ctx.isCode i || ctx.isOutdentedItem i then none
  else match ctx.marker? i with
    | none => none
    | some m =>
      let strict := inParagraph && (ctx.line i).indent ≥ ctx.indent
      let isFirst := match m.number with
        | some ds => ds.foldl (fun n c => 10 * n + (c.toNat - '0'.toNat)) 0 == 1
        | none => true
      let hasContent := skip ctx.text isSpace m.after ctx.text.size < (ctx.line i).stop
      if strict && !(isFirst && hasContent) then none else some m

/-! ## Footnotes and HTML -/

/-- The label of the footnote that is defined at a line, and the position after the colon. -/
def noteLabel? (ctx : Context) (i : Nat) : Option (List Char × Nat) :=
  if ctx.isCode i then none
  else match ctx.lineText i with
    | '[' :: '^' :: r =>
      let label := r.takeWhile fun c => c != ' ' && c != ']'
      match r.drop label.length with
      | ']' :: ':' :: _ =>
        if label.isEmpty then none else some (label, (ctx.line i).content + label.length + 4)
      | _ => none
    | _ => none

/-- The kind of the block of HTML that starts at a line. -/
def htmlKind? (ctx : Context) (i : Nat) : Option Html.BlockKind :=
  if ctx.isCode i || ctx.first? i != some '<' then none
  else
    let text := (ctx.lineText i).toArray
    Html.blockKinds.find? fun k => (k.opens.find? text).isSome

/-! ## Tables -/

/-- The columns that a row of dashes under a header announces. -/
def delimiterColumns? (ctx : Context) (i : Nat) : Option Nat :=
  let cells := (Text.split '|' (ctx.lineText i)).map trimWhite
  let isDelimiter (cell : List Char) : Bool :=
    let body := if cell.head? == some ':' then cell.tail else cell
    let dashes := body.takeWhile (· == '-')
    1 ≤ dashes.length && (body.drop dashes.length == [] || body.drop dashes.length == [':'])
  let inner := cells.tail.dropLast
  if (cells.all fun c => c.isEmpty || isDelimiter c) && !(inner.any List.isEmpty) then
    some (cells.countP fun c => !c.isEmpty)
  else none

/-- Whether a line can stand under the header of a table: it starts with a mark and has only marks
and blanks, the second character being a mark after a dash. -/
def isDelimiterRow (ctx : Context) (i : Nat) : Bool :=
  let isMark (c : Char) : Bool := c == '|' || c == '-' || c == ':'
  match ctx.lineText i with
  | a :: b :: r => isMark a && (isMark b || (isSpace b && a != '-')) && r.all fun c => isMark c || isSpace c
  | _ => false

/-- The cells of a row: its parts between vertical lines. A vertical line after a backslash belongs
to the cell. -/
def splitCells (cell : List Char) (escaped : Bool) : List Char → List (List Char)
  | [] => [cell.reverse]
  | c :: r =>
    if c == '|' then
      if escaped then splitCells ('|' :: cell.tail) false r else cell.reverse :: splitCells [] false r
    else splitCells (c :: cell) (c == '\\') r

/-- The cells of a row without the empty ones outside its first and last vertical line. -/
def rowCells (row : List Char) : List (List Char) :=
  let cells := splitCells [] false row
  let cells := if cells.head? == some [] then cells.tail else cells
  if cells.getLast? == some [] then cells.dropLast else cells

/-- The cells of the header of the table that starts at a line, if one does. -/
def tableHeader? (ctx : Context) (i stop : Nat) : Option (List (List Char)) :=
  let next := ctx.line (i + 1)
  if stop < i + 2 || next.indent < ctx.indent || ctx.isCode (i + 1) || !ctx.isDelimiterRow (i + 1) then
    none
  else match ctx.delimiterColumns? (i + 1) with
    | none => none
    | some columns =>
      let row := trimWhite (ctx.lineText i)
      let cells := rowCells row
      if row.contains '|' && !ctx.isCode i && cells.length == columns && columns != 0 then some cells
      else none

end Context

/-! ## What ends a block -/

/-- A block that is open when another one starts. -/
inductive Open where
  | paragraph
  | definition
  /-- A block quote, or a table. -/
  | quote
  | list
deriving DecidableEq, Repr, Inhabited

/-- Whether a block starts at a line that ends the open one. -/
def interrupts (ctx : Context) (block : Open) (i stop : Nat) : Bool :=
  (ctx.fence? i).isSome || ctx.startsQuote i || ctx.isThematicBreak i
    || (block != .list &&
      ((ctx.list? i (block == .paragraph)).isSome || (ctx.headingLevel? i).isSome
        || (match ctx.htmlKind? i with
          | some k => k.interrupts
          | none => false)))
    || ((block == .paragraph || block == .definition) &&
      ((ctx.tableHeader? i stop).isSome || (ctx.noteLabel? i).isSome))

end ProposalCheck.Markup.Block
