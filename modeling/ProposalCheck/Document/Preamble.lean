import ProposalCheck.Diagnostic.Basic
import ProposalCheck.Text.Lines
import ProposalCheck.Text.Quoted

/-!
# Preambles

A preamble is a list of fields, one on each line: a name, a colon and a value. `Preamble.parse`
reads a preamble if every line has a colon; a name may occur more than once, and `Preamble.byName?`
gives its last field.
-/

namespace ProposalCheck

/-- One line of a preamble. -/
structure Field where
  /-- The number of the line in the document, counted from one. -/
  line : Nat
  /-- The position of the line in the text of the preamble. -/
  start : Nat
  /-- The text before the first colon. -/
  name : String
  /-- The text after the first colon, blanks included. -/
  value : String
deriving DecidableEq, Repr, Inhabited

namespace Field

/-- The whole line. -/
def source (f : Field) : String :=
  f.name ++ ":" ++ f.value

/-- The position of the colon in the text of the preamble. -/
def colon (f : Field) : Nat :=
  f.start + f.name.length

/-- The position of the end of the line in the text of the preamble. -/
def stop (f : Field) : Nat :=
  f.colon + 1 + f.value.length

end Field

/-- A line of a preamble without a colon. -/
structure MalformedLine where
  line : Nat
  text : String
deriving DecidableEq, Repr, Inhabited

/-- The diagnostic for a line without a colon. -/
def MalformedLine.message (m : MalformedLine) (origin : Option String) : Message :=
  (Level.error.message "missing delimiter \x60:\x60 in preamble field").addSnippet
    { source := m.text, lineStart := m.line, origin }

/-- The fields of a preamble in order. -/
structure Preamble where
  fields : List Field
deriving DecidableEq, Repr, Inhabited

namespace Preamble

/-- The name and the value on a line, if it has a colon. -/
def splitField? (line : List Char) : Option (List Char × List Char) :=
  match line.span (· != ':') with
  | (_, []) => none
  | (name, _ :: value) => some (name, value)

/-- The field on a line. -/
def readLine (number start : Nat) (line : List Char) : Except MalformedLine Field :=
  match splitField? line with
  | some (name, value) =>
    .ok { line := number, start, name := String.ofList name, value := String.ofList value }
  | none => .error { line := number, text := String.ofList line }

/-- Each line of a preamble, read on its own. -/
def readLines : Nat → Nat → List (List Char) → List (Except MalformedLine Field)
  | _, _, [] => []
  | number, start, l :: ls =>
    readLine number start l :: readLines (number + 1) (start + l.length + 1) ls

/-- The lines that are malformed. -/
def malformed (ls : List (Except MalformedLine Field)) : List MalformedLine :=
  ls.filterMap fun
    | .error e => some e
    | .ok _ => none

/-- The fields of the lines that are well formed. -/
def wellFormed (ls : List (Except MalformedLine Field)) : List Field :=
  ls.filterMap fun
    | .ok f => some f
    | .error _ => none

/-- The fields of a preamble, or all its malformed lines. The first line of a preamble is the second
one of the document. -/
def parse (source : String) : Except (List MalformedLine) Preamble :=
  let ls := readLines 2 0 (Text.charLines source.toList)
  match malformed ls with
  | [] => .ok { fields := wellFormed ls }
  | errors => .error errors

/-- The last field with a name. -/
def byName? (p : Preamble) (name : String) : Option Field :=
  p.fields.reverse.find? (·.name == name)

/-- The field at a position, counted from zero. -/
def byIndex? (p : Preamble) (i : Int) : Option Field :=
  if 0 ≤ i then p.fields[i.toNat]? else none

/-- The names of the fields, as a text. -/
def summary (p : Preamble) : String :=
  "Preamble(" ++ Text.quotedList (p.fields.map (·.name)) ++ ")"

end Preamble

end ProposalCheck
