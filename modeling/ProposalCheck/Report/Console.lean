import ProposalCheck.Diagnostic.Rendering
import ProposalCheck.Report.Reporter
import ProposalCheck.Text.Lines
import ProposalCheck.Text.Wrapping

/-!
# Messages on a terminal

On a terminal each line of a message is shown in the colour of its level, and an empty line
separates messages. Characters that would move the cursor are left out, tabs are filled up with
spaces, and lines that are too wide go on in the next row.
-/

namespace ProposalCheck.Console

/-- Whether a character would ring, or move the cursor other than to a tab stop or a new line. -/
def movesCursor (c : Char) : Bool :=
  [0x7, 0x8, 0xB, 0xC, 0xD].contains c.toNat

/-- The distance between tab stops. -/
def tabSize : Nat := 8

/-- The parts of a line that is divided at its tabs. A tab becomes at least one space and fills up
to the next tab stop. -/
def expandTabs : Nat → List (List Char) → List (List Char)
  | _, [] => []
  | _, [last] => if last.isEmpty then [] else [last]
  | column, part :: parts =>
    let column := column + Text.width (part ++ [' '])
    let room := (tabSize - column % tabSize) % tabSize
    (part ++ ' ' :: List.replicate room ' ') :: expandTabs (column + room) parts

/-- The positions at which the parts of a text start, but for the first one. -/
def partStarts : Nat → List (List Char) → List Nat
  | start, part :: next :: parts =>
    (start + part.length) :: partStarts (start + part.length) (next :: parts)
  | _, _ => []

/-- The rows in which a line is shown in a number of columns, each in its parts: those that end with a tab
and what follows the last of them. -/
def rows (columns : Nat) (line : List Char) : List (List (List Char)) :=
  let parts := expandTabs 0 (Text.split '\t' line)
  let shown := parts.flatten
  let bounds := partStarts 0 parts
  let starts := Text.breaks columns shown
  ((0 :: starts).zip (Text.cut 0 starts shown)).map fun (start, row) =>
    let row := Text.cutToWidth columns (Text.dropExcess columns row)
    Text.cut start (bounds.filter fun b => start < b && b < start + row.length) row

/-- The number of a level's colour. -/
def colour : Level → Nat
  | .error => 31
  | .warning => 33
  | .info => 34
  | .note => 36
  | .help => 32

/-- A part of a line in the colour of a level; an empty one has none. -/
def paint (coloured : Bool) (l : Level) (part : List Char) : String :=
  let text := String.ofList part
  if coloured && !part.isEmpty then "\x1b[1;" ++ toString (colour l) ++ "m" ++ text ++ "\x1b[0m"
  else text

/-- The lines of a rendering. A line feed at the end of a single line is left out. -/
def shownLines (rendering : String) : List (List Char) :=
  match Text.charLines rendering.toList with
  | [first, []] => [first]
  | ls => ls

/-- A message as it is shown on a terminal with a number of columns. -/
def display (columns : Nat) (coloured : Bool) (m : Message) : String :=
  let row (parts : List (List Char)) := String.join (parts.map (paint coloured m.level)) ++ "\n"
  let line (cs : List Char) :=
    String.join ((rows columns (cs.filter fun c => !movesCursor c)).map row)
  String.join ((shownLines m.render).map line) ++ "\n"

end ProposalCheck.Console

namespace ProposalCheck

/-- Shows messages on a terminal with a number of columns, in colours if it has them. -/
def Reporter.console (columns : Nat) (coloured : Bool) : Reporter String where
  report s m := (s ++ Console.display columns coloured m, none)

end ProposalCheck
