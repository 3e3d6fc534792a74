import ProposalCheck.Document.Basic
import ProposalCheck.Markup.Walk

/-!
# Places in a document

Lines of a document are counted from one. A node of the body stands on the lines of its block;
`Document.excerpt` cuts them out for a diagnostic, with the node marked.
-/

namespace ProposalCheck

/-- Why a line of a document cannot be found. -/
inductive LineError where
  | belowOne (line : Int)
  | pastEnd (line : Int)
deriving DecidableEq, Repr, Inhabited

namespace LineError

/-- The wording of the error. -/
def message : LineError → String
  | belowOne line => "line numbers start at 1, got " ++ toString line
  | pastEnd line => "line " ++ toString line ++ " is past the end of the document"

end LineError

namespace Document

/-- The lines of the document. -/
def lines (d : Document) : List (List Char) :=
  Text.charLines d.source.toList

/-- The start of a line: its position, and the text from there on. -/
structure LineStart where
  index : Nat
  rest : List Char
deriving Repr, Inhabited

namespace LineStart

/-- The text up to the next line feed. -/
def line (s : LineStart) : List Char :=
  s.rest.takeWhile (· != '\n')

/-- The start of the next line, which is behind the next line feed. -/
def next? (s : LineStart) : Option LineStart :=
  match s.rest.drop s.line.length with
  | [] => none
  | _ :: rest => some { index := s.index + s.line.length + 1, rest }

/-- The start of the line that is some lines further down. -/
def skip? : Nat → LineStart → Option LineStart
  | 0, s => some s
  | count + 1, s =>
    match s.next? with
    | none => none
    | some s => skip? count s

/-- The text up to behind as many line feeds, or to its end if there are fewer. -/
def take : Nat → LineStart → List Char
  | 0, _ => []
  | count + 1, s =>
    match s.next? with
    | none => s.rest
    | some next => s.line ++ '\n' :: take count next

end LineStart

/-- Where a line starts. -/
def startOf (d : Document) (line : Int) : Except LineError LineStart :=
  if line < 1 then .error (.belowOne line)
  else match LineStart.skip? (line - 1).toNat { index := 0, rest := d.source.toList } with
    | none => .error (.pastEnd line)
    | some s => .ok s

/-- The position of the first character of a line. -/
def lineStart (d : Document) (line : Int) : Except LineError Nat :=
  (d.startOf line).map (·.index)

/-- The text of a line without its ending. -/
def line (d : Document) (line : Int) : Except LineError String :=
  (d.startOf line).map fun s => String.ofList s.line

/-- The line on which a node starts. -/
def nodeLine (d : Document) (p : Markup.Place) : Nat :=
  (match p.lines with
    | some span => span.1
    | none => 0) + d.bodyLine + 1

/-- The text without line feeds at its end. -/
def trimLineFeeds (cs : List Char) : List Char :=
  (cs.reverse.dropWhile (· == '\n')).reverse

/-- The lines on which a node stands. -/
def nodeText (d : Document) (p : Markup.Place) : Except LineError String :=
  match p.lines with
  | none => d.line (d.bodyLine + 1)
  | some (first, last) => do
    let s ← d.startOf (first + d.bodyLine + 1)
    return String.ofList (trimLineFeeds (s.take (Nat.max last (first + 1) - first)))

/-- The text by which a node can be found among its lines. -/
def searchText (c : Markup.Construct) : String :=
  match c with
  | .text s => s
  | .code s => s
  | _ => ""

/-- An excerpt of the lines of a node. The first occurrence of the node's text is marked, or all of
the lines if it does not occur. -/
def excerpt (d : Document) (p : Markup.Place) (level : Level) (label : Option String) :
    Except LineError Snippet := do
  let source ← d.nodeText p
  let needle := (searchText p.construct).toList
  let (start, length) : Nat × Nat :=
    match if needle.isEmpty then none else Text.indexOf? needle source.toList with
    | some i => (i, needle.length)
    | none => (0, source.length)
  let mark := level.spanChars source start length
  return {
    source, lineStart := d.nodeLine p, origin := d.origin, fold := true
    annotations := [{ mark with label := label }] }

end Document

end ProposalCheck
