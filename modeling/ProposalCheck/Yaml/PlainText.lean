import ProposalCheck.Yaml.Cursor

/-!
# Texts without quotes

A text without quotes ends at a comment, at a colon before a gap, or where the indentation says so;
inside brackets also at a comma, a question mark or a bracket. Its line breaks are folded.
-/

namespace ProposalCheck.Yaml.PlainText

/-- Whether a character inside brackets ends a text. -/
def isFlowEnd (c : Char) : Bool :=
  [',', '?', '[', ']', '\x7b', '\x7d'].contains c

/-- Whether a colon ends a text when this character is next. -/
def endsAfterColon (flow : Bool) (next : Option Char) : Bool :=
  endsWord next || (flow && next.any fun c => [',', '[', ']', '\x7b', '\x7d'].contains c)

/-- The characters up to the end of a word. -/
def word (flow : Bool) : List Char → List Char
  | [] => []
  | c :: r =>
    if isGap c || (c == ':' && endsAfterColon flow r.head?) || (flow && isFlowEnd c) then []
    else c :: word flow r

/-- Past spaces and line breaks up to text or to the marker of a document. The result has the
breaks, or none if there is a marker. -/
def emptyLines : Nat → Cursor → Option (List Char) × Cursor
  | 0, c => (some [], c)
  | fuel + 1, c =>
    if c.isAt ' ' then emptyLines fuel c.step
    else match c.takeBreak with
      | ([], _) => (some [], c)
      | (b, next) =>
        if startsAnyMarker next.rest then (none, next)
        else
          let (bs, last) := emptyLines fuel next
          (bs.map (b ++ ·), last)

/-- The gap after a word, empty if the text ends there, and whether it has a line break. -/
def readGap (c : Cursor) : List Char × Bool × Cursor :=
  let (blanks, c) := c.takeWhile (· == ' ')
  match c.takeBreak with
  | ([], _) => (blanks, false, c)
  | (b, c) =>
    if startsAnyMarker c.rest then ([], true, c)
    else match emptyLines (c.rest.length + 1) c with
      | (none, c) => ([], true, c)
      | (some bs, c) =>
        (if b != ['\n'] then b ++ bs else if bs.isEmpty then [' '] else bs, true, c)

/-- Reads words as long as they are indented, with the characters so far in reverse, the gap in
front and whether it has a line break. -/
def readWords (flow : Bool) (indent : Int) :
    Nat → List Char → List Char → Bool → Cursor → List Char × Bool × Cursor
  | 0, acc, _, broken, c => (acc, broken, c)
  | fuel + 1, acc, gap, broken, c =>
    let w := if c.isAt '#' then [] else word flow c.rest
    if w.isEmpty then (acc, broken, c)
    else
      let acc := w.reverse ++ (gap.reverse ++ acc)
      let (gap, broken, c) := readGap (c.skip w.length)
      if gap.isEmpty || c.isAt '#' || (!flow && (c.column : Int) < indent) then (acc, broken, c)
      else readWords flow indent fuel acc gap broken c

/-- Reads a text that is indented to a column at least. The result tells whether a line break
follows. -/
def read (flow : Bool) (indent : Int) (c : Cursor) : String × Bool × Cursor :=
  let (acc, broken, c) := readWords flow indent (c.rest.length + 1) [] [] false c
  (String.ofList acc.reverse, broken, c)

/-- Whether a text without quotes can start here. -/
def canStart (flow : Bool) (cs : List Char) : Bool :=
  match cs with
  | [] => false
  | c :: r =>
    !(isGap c || "-?:,[]\x7b\x7d#&*!|>'\"%@\x60".toList.contains c)
      || (!endsWord r.head? && (c == '-' || (!flow && (c == '?' || c == ':'))))

end ProposalCheck.Yaml.PlainText
