import ProposalCheck.Lint.Rule
import ProposalCheck.Text.Blank

/-!
# Blanks in values

A value is one space and a text without blanks at its ends. Values with other blanks are reported
one by one, and all values that do not begin with a space together.
-/

namespace ProposalCheck.Rule

namespace Spacing

/-- The value without one space at its start. -/
def withoutSpace (value : List Char) : List Char :=
  match value with
  | ' ' :: r => r
  | r => r

/-- Whether a value has more blanks than the space at its start. -/
def hasExtra (f : Field) : Bool :=
  let value := withoutSpace f.value.toList
  Text.trimChars value != value

/-- Whether a value does not begin with a space. -/
def lacksSpace (f : Field) : Bool :=
  match f.value.toList with
  | [] => false
  | c :: _ => c != ' '

/-- The part of a field's line from the value on. -/
def mark (c : Context) (f : Field) (length : Nat) (label : String) : Snippet :=
  (c.fieldSnippet f).annotate
    ((c.level.spanChars f.source (f.name.length + 1 : Nat) length).withLabel label)

/-- The message for a value with too many blanks. -/
def extraMessage (c : Context) (f : Field) : Message :=
  (c.level.message ("preamble header \x60" ++ f.name ++ "\x60 has extra whitespace")).addSnippet
    (mark c f f.value.length "value has extra whitespace")

/-- The message for the values that do not begin with a space. -/
def spaceMessage (c : Context) (fs : List Field) : Message :=
  (c.level.message "preamble header values must begin with a space").addSnippets
    (fs.map fun f => mark c f 1 "space required here")

/-- All messages about a preamble. -/
def messages (c : Context) : List Message :=
  let lacking := c.preamble.fields.filter lacksSpace
  (c.preamble.fields.filter hasExtra).map (extraMessage c)
    ++ (if lacking.isEmpty then [] else [spaceMessage c lacking])

end Spacing

/-- Every value is set off by one space and by nothing else. -/
def spacing : Rule where
  description := "Preamble values must start with one space and carry no extra whitespace."
  summary := "Trim()"
  discover _ := {}
  check slug c := { messages := (Spacing.messages c).map (·.withId slug) }

end ProposalCheck.Rule
