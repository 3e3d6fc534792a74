import ProposalCheck.Markup.Character
import ProposalCheck.Text.Blank

/-!
# Lines and their indentation

A block reader looks at a text as a table of lines. Of each line it knows where its content starts
and in which column. Inside block quotes and list items the markers in front of a line belong to the
indentation, so that a line has a start of its own there.
-/

namespace ProposalCheck.Markup.Block

/-- A line as a reader of blocks sees it. -/
structure Line where
  /-- The position from which on the line counts. -/
  start : Nat
  /-- The position of the line ending. -/
  stop : Nat
  /-- The number of blank characters in front of the content. -/
  shift : Nat
  /-- The number of columns in front of the content. It is negative for a line that continues a
  paragraph of a block quote without a marker. -/
  indent : Int
  /-- The number of columns before `start`, on which the width of tabs depends. -/
  base : Int := 0
deriving DecidableEq, Repr, Inhabited

/-- The position of a line's content. -/
def Line.content (l : Line) : Nat :=
  l.start + l.shift

/-- What a reader of blocks knows about the blocks around it. -/
structure Context where
  text : Array Char
  lines : Array Line
  /-- The number of lines that paragraphs may take. -/
  limit : Nat
  /-- The column at which blocks start. -/
  indent : Int := 0
  /-- The column of the list in whose item blocks stand. -/
  listIndent : Option Int := none
  /-- The number of open blocks. -/
  level : Nat := 0
deriving Repr, Inhabited

/-- The greatest number of open blocks; what is nested deeper is left out. -/
def maxLevel : Nat := 20

/-! ## The table of lines -/

/-- The column after a run of spaces and tabs from a position on, and the position after it. -/
def skipColumns (text : Array Char) (base : Int) (stop : Nat) : Nat → Nat → Int → Nat × Int
  | 0, p, column => (p, column)
  | fuel + 1, p, column =>
    if stop ≤ p then (p, column)
    else match text[p]? with
      | some ' ' => skipColumns text base stop fuel (p + 1) (column + 1)
      | some '\t' => skipColumns text base stop fuel (p + 1) (column + (4 - (column + base) % 4))
      | _ => (p, column)

/-- The line from one position to another. -/
def lineBetween (text : Array Char) (start stop : Nat) : Line :=
  let (p, column) := skipColumns text 0 stop (stop - start) start 0
  { start, stop, shift := p - start, indent := column }

/-- The lines from position `p` on, where the current line starts at `start`. Blanks after the last
line ending are no line. -/
def linesFrom (text : Array Char) (start p : Nat) : List Char → List Line
  | [] =>
    let l := lineBetween text start p
    if l.content < p then [l] else []
  | c :: r =>
    if c == '\n' then lineBetween text start p :: linesFrom text (p + 1) (p + 1) r
    else linesFrom text start (p + 1) r

/-- The view of a whole text. -/
def Context.ofText (text : Array Char) : Context :=
  let lines := (linesFrom text 0 0 text.toList).toArray
  { text, lines, limit := lines.size }

namespace Context

/-- A line; past the last one there are only empty lines. -/
def line (ctx : Context) (i : Nat) : Line :=
  (ctx.lines[i]?).getD { start := ctx.text.size, stop := ctx.text.size, shift := 0, indent := 0 }

/-- The character at which the content of a line starts. -/
def first? (ctx : Context) (i : Nat) : Option Char :=
  ctx.text[(ctx.line i).content]?

/-- Whether a line has no content. -/
def isEmpty (ctx : Context) (i : Nat) : Bool :=
  (ctx.line i).stop ≤ (ctx.line i).content

/-- Whether a line is indented so far that it belongs to a code block. -/
def isCode (ctx : Context) (i : Nat) : Bool :=
  (ctx.line i).indent - ctx.indent ≥ 4

/-- The content of a line, up to the line ending. -/
def lineText (ctx : Context) (i : Nat) : List Char :=
  slice ctx.text (ctx.line i).content (ctx.line i).stop

/-- The first line from `i` on that has content, or the limit. -/
def skipEmptyFrom (ctx : Context) : Nat → Nat → Nat
  | 0, i => i
  | fuel + 1, i => if i < ctx.limit && ctx.isEmpty i then skipEmptyFrom ctx fuel (i + 1) else i

/-- The first line from `i` on that has content, or the limit. -/
def skipEmpty (ctx : Context) (i : Nat) : Nat :=
  ctx.skipEmptyFrom (ctx.limit - i) i

/-- Where a line starts when up to `indent` columns in front of it are taken away, and the number of
columns taken away. A tab may reach further; what is masked in front of the content counts as
blank. -/
def unindent (ctx : Context) (l : Line) (indent : Int) (last : Nat) : Nat → Nat → Int → Nat × Int
  | 0, p, column => (p, column)
  | fuel + 1, p, column =>
    if last ≤ p || indent ≤ column then (p, column)
    else match ctx.text[p]? with
      | some ' ' => unindent ctx l indent last fuel (p + 1) (column + 1)
      | some '\t' => unindent ctx l indent last fuel (p + 1) (column + (4 - (column + l.base) % 4))
      | _ =>
        if p < l.start + l.shift then unindent ctx l indent last fuel (p + 1) (column + 1)
        else (p, column)

/-- A line less up to `indent` columns in front of it, with its line ending if asked for. -/
def unindented (ctx : Context) (i : Nat) (indent : Int) (ending : Bool) : List Char :=
  let l := ctx.line i
  let last := if ending then l.stop + 1 else l.stop
  let (p, column) := ctx.unindent l indent last (last - l.start) l.start 0
  List.replicate (column - indent).toNat ' ' ++ slice ctx.text p last

/-- The text of the lines from `start` on and before `stop`, each less up to `indent` columns. -/
def block (ctx : Context) (start stop : Nat) (indent : Int) (lastEnding : Bool) : List Char :=
  (List.range (stop - start)).flatMap fun i =>
    ctx.unindented (start + i) indent (start + i + 1 < stop || lastEnding)

end Context

end ProposalCheck.Markup.Block
