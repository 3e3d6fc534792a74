import ProposalCheck.Lint.Rule

/-!
# No field twice

Each field that has the name of an earlier one is reported together with the first field of that
name.
-/

namespace ProposalCheck.Rule

namespace Duplicates

/-- The message for a field that has the name of the field `first`. -/
def message (c : Context) (first again : Field) : Message :=
  let whole (l : Level) (f : Field) := l.spanChars f.source 0 f.source.length
  ((c.level.message ("preamble header \x60" ++ first.name ++ "\x60 defined multiple times")).addSnippet
    ((c.fieldSnippet first).annotate ((whole .info first).withLabel "first defined here"))).addSnippet
    ((c.fieldSnippet again).annotate ((whole c.level again).withLabel "redefined here"))

/-- The fields that have the name of an earlier one, each with the first field of that name. -/
def pairs (fields : List Field) : List (Field × Field) :=
  fields.filterMap fun f =>
    match fields.find? (·.name == f.name) with
    | some first => if first == f then none else some (first, f)
    | none => none

end Duplicates

/-- Every name in the preamble belongs to one field. -/
def duplicates : Rule where
  description := "Preamble headers must be defined at most once."
  summary := "NoDuplicates()"
  discover _ := {}
  check slug c :=
    { messages := (Duplicates.pairs c.preamble.fields).map fun p =>
        (Duplicates.message c p.1 p.2).withId slug }

end ProposalCheck.Rule
