import ProposalCheck.Markup.Block.Definition
import ProposalCheck.Markup.Mark

/-!
# Reading blocks

`readBlocks` reads the lines of a text into marks. At each line with content the first kind of block
that starts there is read; a line at which none starts belongs to a paragraph. Quotes, list items
and footnotes have blocks of their own inside, which are read from a view of the lines that has the
markers taken off.
-/

namespace ProposalCheck.Markup.Block

/-- What reading blocks has given so far. -/
structure Result where
  /-- The line at which reading goes on. -/
  line : Nat
  marks : Array (Mark String) := #[]
  /-- What labels refer to; of two definitions of a label the first one counts. -/
  references : List (String × Reference) := []
  /-- The labels of the footnotes that are defined. -/
  notes : List String := []
deriving Repr, Inhabited

namespace Result

/-- Adds a mark. -/
def push (r : Result) (m : Mark String) : Result :=
  { r with marks := r.marks.push m }

/-- Adds a construct with a text inside. -/
def pushProse (r : Result) (c : Construct) (content : List Char) (lines proseLines : LineSpan) :
    Result :=
  { r with marks := r.marks ++
      #[.opening c (some lines), .prose (String.ofList content) (some proseLines), .closing c] }

/-- Adds a definition of a label. -/
def define (r : Result) (key : String) (ref : Reference) : Result :=
  if r.references.any (·.1 == key) then r else { r with references := r.references ++ [(key, ref)] }

/-- The result without its marks, for reading what is inside a block. -/
def inner (r : Result) : Result :=
  { r with marks := #[] }

/-- Puts the marks of a block between its opening and its closing mark, after the earlier marks. -/
def wrap (r : Result) (earlier : Array (Mark String)) (opening closing : Mark String) : Result :=
  { r with marks := (earlier.push opening ++ r.marks).push closing }

end Result

/-! ## Blocks without blocks inside -/

/-- The first line from `i` on and before `stop` that satisfies a test, or `stop`. -/
def findLine (test : Nat → Bool) (stop : Nat) : Nat → Nat → Nat
  | 0, i => i
  | fuel + 1, i => if i < stop && !test i then findLine test stop fuel (i + 1) else i

/-- The line past the indented code that starts at a line: empty lines belong to it if more code
follows. -/
def codeEnd (ctx : Context) (stop : Nat) : Nat → Nat → Nat → Nat
  | 0, last, _ => last
  | fuel + 1, last, i =>
    if stop ≤ i then last
    else if ctx.isEmpty i then codeEnd ctx stop fuel last (i + 1)
    else if ctx.isCode i then codeEnd ctx stop fuel (i + 1) (i + 1)
    else last

/-- Reads an indented code block. -/
def readCode? (ctx : Context) (i stop : Nat) (r : Result) : Option Result :=
  if ctx.isCode i then
    let last := codeEnd ctx stop (stop - i) (i + 1) (i + 1)
    let content := ctx.block i last (4 + ctx.indent) false ++ ['\n']
    some { r.push (.leaf (.codeBlock (String.ofList content)) (some (i, last))) with line := last }
  else none

/-- Whether a line ends the code between fences, and whether it is the closing fence itself. -/
def fenceEnd? (ctx : Context) (c : Char) (length i : Nat) : Option Bool :=
  let l := ctx.line i
  if l.content < l.stop && l.indent < ctx.indent then some false
  else if ctx.text.size ≤ l.content then some false
  else
    let n := ctx.runLength i c
    if n == 0 || ctx.isCode i || n < length then none
    else if skip ctx.text isSpace (l.content + n) ctx.text.size < l.stop then none
    else some true

/-- Reads a code block between fences. -/
def readFence? (ctx : Context) (i stop : Nat) (r : Result) : Option Result :=
  match ctx.fence? i with
  | none => none
  | some (c, length) =>
    let last := findLine (fun j => (fenceEnd? ctx c length j).isSome) stop (stop - i) (i + 1)
    let closed := last < stop && fenceEnd? ctx c length last == some true
    let next := if closed then last + 1 else last
    let content := ctx.block (i + 1) last (ctx.line i).indent true
    some { r.push (.leaf (.fence (String.ofList content)) (some (i, next))) with line := next }

/-- Reads a thematic break. -/
def readThematicBreak? (ctx : Context) (i : Nat) (r : Result) : Option Result :=
  if ctx.isThematicBreak i then
    some { r.push (.leaf .thematicBreak (some (i, i + 1))) with line := i + 1 }
  else none

/-- The line past a block of HTML that starts before line `i`: an empty line goes on with the block
wherever it stands, unless it closes it. A line that closes the block belongs to it, an empty one
does not. -/
def htmlEnd (ctx : Context) (kind : Html.BlockKind) (stop : Nat) : Nat → Nat → Nat
  | 0, i => i
  | fuel + 1, i =>
    if stop ≤ i || (!ctx.isEmpty i && (ctx.line i).indent < ctx.indent) then i
    else
      let text := ctx.lineText i
      if (kind.closes.find? text.toArray).isSome then (if text.isEmpty then i else i + 1)
      else htmlEnd ctx kind stop fuel (i + 1)

/-- Reads a block of HTML. -/
def readHtml? (ctx : Context) (i stop : Nat) (r : Result) : Option Result :=
  match ctx.htmlKind? i with
  | none => none
  | some kind =>
    let next :=
      if (kind.closes.find? (ctx.lineText i).toArray).isSome then i + 1
      else htmlEnd ctx kind stop (stop - i) (i + 1)
    let content := ctx.block i next ctx.indent true
    some { r.push (.leaf (.htmlBlock (String.ofList content)) (some (i, next))) with line := next }

/-- The text of a heading without the marks at its ends. -/
def headingText (cs : List Char) : List Char :=
  let body := (cs.reverse.dropWhile isSpace)
  let rest := body.dropWhile (· == '#')
  let body := match rest with
    | c :: _ => if isSpace c then rest else body
    | [] => body
  trimWhite body.reverse

/-- Reads a heading that starts with number signs. -/
def readHeading? (ctx : Context) (i : Nat) (r : Result) : Option Result :=
  match ctx.headingLevel? i with
  | none => none
  | some n =>
    let content := headingText ((ctx.lineText i).drop n)
    some { r.pushProse .heading content (i, i + 1) (i, i + 1) with line := i + 1 }

/-- Whether a line underlines a heading: a run of equals signs or dashes and blanks after it. -/
def isUnderline (ctx : Context) (i : Nat) : Bool :=
  (ctx.line i).indent ≥ ctx.indent && match ctx.lineText i with
  | [] => false
  | c :: r => (c == '-' || c == '=') && ((r.dropWhile (· == c)).all isSpace)

/-- The line that underlines the paragraph which starts before line `i`, if one does. -/
def underline? (ctx : Context) (stop : Nat) : Nat → Nat → Option Nat
  | 0, _ => none
  | fuel + 1, i =>
    if stop ≤ i || ctx.isEmpty i then none
    else if (ctx.line i).indent - ctx.indent > 3 then underline? ctx stop fuel (i + 1)
    else if isUnderline ctx i then some i
    else if (ctx.line i).indent < 0 then underline? ctx stop fuel (i + 1)
    else if interrupts ctx .paragraph i stop then none
    else underline? ctx stop fuel (i + 1)

/-- Reads a heading that is underlined. -/
def readUnderlined? (ctx : Context) (i stop : Nat) (r : Result) : Option Result :=
  if ctx.isCode i then none
  else match underline? ctx stop (stop - i) (i + 1) with
    | none => none
    | some last =>
      let content := trimWhite (ctx.block i last ctx.indent false)
      some { r.pushProse .heading content (i, last + 1) (i, last) with line := last + 1 }

/-- Whether a paragraph ends before a line. -/
def endsParagraph (ctx : Context) (i : Nat) : Bool :=
  ctx.isEmpty i ||
    ((ctx.line i).indent - ctx.indent ≤ 3 && 0 ≤ (ctx.line i).indent
      && interrupts ctx .paragraph i ctx.limit)

/-- Reads a paragraph. -/
def readParagraph (ctx : Context) (i : Nat) (r : Result) : Result :=
  let next := findLine (endsParagraph ctx) ctx.limit (ctx.limit - i) (i + 1)
  let content := trimWhite (ctx.block i next ctx.indent false)
  { r.pushProse .paragraph content (i, next) (i, next) with line := next }

/-- Reads the definition of a link reference. -/
def readDefinition? (ctx : Context) (i : Nat) (r : Result) : Option Result :=
  match definition? ctx i with
  | none => none
  | some (key, ref, next) => some { r.define key ref with line := next }

/-! ## Tables -/

/-- The greatest number of cells that rows may leave out in all. -/
def maxMissingCells : Int := 0x10000

/-- The marks of a row. -/
def rowMarks (cell : Construct) (cells : List (List Char)) (i : Nat) : List (Mark String) :=
  .opening .tableRow (some (i, i + 1)) ::
    (cells.flatMap fun c =>
      [.opening cell none, .prose (String.ofList (trimWhite c)) (some (i, i + 1)),
        .closing cell]) ++ [.closing .tableRow]

/-- Reads the rows of a table from line `i` on: their marks and the line past them. -/
def readRows (ctx : Context) (columns stop : Nat) :
    Nat → Int → Nat → List (Mark String) → List (Mark String) × Nat
  | 0, _, i, marks => (marks, i)
  | fuel + 1, missing, i, marks =>
    if stop ≤ i || (ctx.line i).indent < ctx.indent || interrupts ctx .quote i stop then (marks, i)
    else
      let row := trimWhite (ctx.lineText i)
      if row.isEmpty || ctx.isCode i then (marks, i)
      else
        let cells := Context.rowCells row
        let missing := missing + columns - cells.length
        if missing > maxMissingCells then (marks, i)
        else
          let padded := (List.range columns).map fun k => cells[k]?.getD []
          readRows ctx columns stop fuel missing (i + 1) (marks ++ rowMarks .dataCell padded i)

/-- Reads a table. -/
def readTable? (ctx : Context) (i stop : Nat) (r : Result) : Option Result :=
  match ctx.tableHeader? i stop with
  | none => none
  | some header =>
    let (rows, next) := readRows ctx header.length stop (stop - i) 0 (i + 2) []
    let head : List (Mark String) :=
      [.opening .table (some (i, next)), .opening .tableHead (some (i, i + 1))]
        ++ rowMarks .headerCell header i ++ [.closing .tableHead]
    let body : List (Mark String) := if rows.isEmpty then []
      else .opening .tableBody (some (i + 2, next)) :: rows ++ [.closing .tableBody]
    some { r with
      line := next
      marks := r.marks ++ (head ++ body ++ [Mark.closing .table]).toArray }

/-! ## Blocks with blocks inside -/

/-- A reader of the blocks between two lines. -/
abbrev Reader := Context → Nat → Nat → Result → Result

/-- A line without the marker of a block quote and one blank after it, and whether nothing else is
on the line. -/
def unquoted (ctx : Context) (i : Nat) : Line × Bool :=
  let l := ctx.line i
  let p := l.content + 1
  let column := l.indent + 1
  let (p, column, extra, spaced) : Nat × Int × Int × Bool :=
    match ctx.text[p]? with
    | some ' ' => (p + 1, column + 1, 0, true)
    | some '\t' =>
      if (l.base + column) % 4 == 3 then (p + 1, column + 1, 0, true) else (p, column, 1, true)
    | _ => (p, column, 0, false)
  let (q, last) := skipColumns ctx.text (l.base + extra) l.stop (l.stop - p) p column
  ({ start := p, stop := l.stop, shift := q - p, indent := last - column,
     base := l.indent + 1 + (if spaced then 1 else 0) }, l.stop ≤ q)

/-- The lines of a block quote from line `i` on, with their markers taken off: the view of the lines
inside, and the line past the quote. `lastEmpty` tells whether the line before was empty. -/
def quoteLines (ctx : Context) (stop : Nat) : Nat → Nat → Bool → Array Line → Nat → Array Line × Nat × Nat
  | 0, i, _, lines, limit => (lines, i, limit)
  | fuel + 1, i, lastEmpty, lines, limit =>
    let l := ctx.line i
    if stop ≤ i || ctx.isEmpty i then (lines, i, limit)
    else if ctx.first? i == some '>' && !(l.indent < ctx.indent) then
      let (inside, empty) := unquoted ctx i
      quoteLines ctx stop fuel (i + 1) empty (lines.setIfInBounds i inside) limit
    else if lastEmpty then (lines, i, limit)
    else if interrupts ctx .quote i stop then
      (lines.setIfInBounds i { l with indent := l.indent - ctx.indent }, i, i)
    else
      quoteLines ctx stop fuel (i + 1) lastEmpty (lines.setIfInBounds i { l with indent := -1 }) limit

/-- Reads a block quote. -/
def readQuote? (nested : Reader) (ctx : Context) (i stop : Nat) (r : Result) : Option Result :=
  if ctx.startsQuote i then
    let (first, empty) := unquoted ctx i
    let (lines, last, limit) :=
      quoteLines ctx stop (stop - i) (i + 1) empty (ctx.lines.setIfInBounds i first) ctx.limit
    let inside := { ctx with lines, limit, indent := 0, level := ctx.level + 1 }
    let r' := nested inside i last r.inner
    some (r'.wrap r.marks (.opening .blockquote (some (i, r'.line))) (.closing .blockquote))
  else none

/-- The view of the lines inside an item of a list, and whether nothing follows its marker. -/
def itemContext (ctx : Context) (i : Nat) (m : ListMarker) : Context × Bool :=
  let l := ctx.line i
  let initial := l.indent + (m.after - l.content : Nat)
  let (p, column) := skipColumns ctx.text l.base l.stop (l.stop - m.after) m.after initial
  let width := if l.stop ≤ p || column - initial > 4 then 1 else column - initial
  let inside := { l with shift := p - l.start, indent := column }
  ({ ctx with
      lines := ctx.lines.setIfInBounds i inside
      indent := initial + width
      listIndent := some ctx.indent
      level := ctx.level + 2 }, l.stop ≤ p)

/-- Reads one item of a list. -/
def readItem (nested : Reader) (ctx : Context) (i stop : Nat) (m : ListMarker) (r : Result) : Result :=
  let (inside, empty) := itemContext ctx i m
  let r' :=
    if empty && ctx.isEmpty (i + 1) then { r.inner with line := Nat.min (i + 2) stop }
    else nested inside i stop r.inner
  r'.wrap r.marks (.opening .listItem (some (i, r'.line))) (.closing .listItem)

/-- Reads the items of a list. -/
def readItems (nested : Reader) (ctx : Context) (stop : Nat) : Nat → Nat → ListMarker → Result → Result
  | 0, _, _, r => r
  | fuel + 1, i, m, r =>
    let r := readItem nested ctx i stop m r
    let next := r.line
    if stop ≤ next || (ctx.line next).indent < ctx.indent || ctx.isCode next
      || interrupts ctx .list next stop then r
    else match if m.number.isSome then ctx.number? next else ctx.bullet? next with
      | some m' => if m'.last == m.last then readItems nested ctx stop fuel next m' r else r
      | none => r

/-- Reads a list. -/
def readList? (nested : Reader) (ctx : Context) (i stop : Nat) (r : Result) : Option Result :=
  match ctx.list? i false with
  | none => none
  | some m =>
    let r' := readItems nested ctx stop (stop - i + 1) i m r.inner
    let kind := if m.number.isSome then Construct.orderedList else .bulletList
    some (r'.wrap r.marks (.opening kind (some (i, r'.line))) (.closing kind))

/-- Reads a footnote. -/
def readNote? (nested : Reader) (ctx : Context) (i stop : Nat) (r : Result) : Option Result :=
  match ctx.noteLabel? i with
  | none => none
  | some (label, p) =>
    let label := String.ofList label
    let l := ctx.line i
    let initial := l.indent + (p - l.content : Nat)
    let (q, column) := skipColumns ctx.text 0 l.stop (l.stop - p) p initial
    let indent := ctx.indent + 4
    let width := column - initial
    let inside := { l with
      start := p, shift := q - p, indent := if width < indent then width + indent else width }
    let r := { r with notes := if r.notes.contains label then r.notes else r.notes ++ [label] }
    let r' := nested
      { ctx with lines := ctx.lines.setIfInBounds i inside, indent, level := ctx.level + 1 }
      i stop r.inner
    some (r'.wrap r.marks (.noteOpening label) .noteClosing)

/-! ## All blocks -/

/-- Reads the block that starts at a line. -/
def readBlock (nested : Reader) (ctx : Context) (i stop : Nat) (r : Result) : Result :=
  (readTable? ctx i stop r
    <|> readCode? ctx i stop r
    <|> readFence? ctx i stop r
    <|> readQuote? nested ctx i stop r
    <|> readThematicBreak? ctx i r
    <|> readList? nested ctx i stop r
    <|> readNote? nested ctx i stop r
    <|> readDefinition? ctx i r
    <|> readHtml? ctx i stop r
    <|> readHeading? ctx i r
    <|> readUnderlined? ctx i stop r).getD (readParagraph ctx i r)

/-- Reads blocks from line `i` on, as long as they belong to the block around them. -/
def readFrom (nested : Reader) (ctx : Context) (stop : Nat) : Nat → Nat → Result → Result
  | 0, _, r => r
  | fuel + 1, i, r =>
    if stop ≤ i then r
    else
      let i := ctx.skipEmpty i
      let r := { r with line := i }
      if stop ≤ i || (ctx.line i).indent < ctx.indent then r
      else if maxLevel ≤ ctx.level then { r with line := stop }
      else
        let r := readBlock nested ctx i stop r
        if r.line < stop && ctx.isEmpty r.line then
          readFrom nested ctx stop fuel (r.line + 1) { r with line := r.line + 1 }
        else readFrom nested ctx stop fuel r.line r

/-- Reads the blocks between two lines, nested at most `room` deep. -/
def readNested : Nat → Reader
  | 0 => fun _ _ stop r => { r with line := stop }
  | room + 1 => fun ctx i stop r => readFrom (readNested room) ctx stop (stop - i + 1) i r

/-- Reads the blocks of a text. -/
def readBlocks (text : Array Char) : Result :=
  let ctx := Context.ofText text
  readNested (maxLevel + 1) ctx 0 ctx.lines.size { line := 0 }

end ProposalCheck.Markup.Block
