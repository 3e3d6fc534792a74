import ProposalCheck.Document.Preamble
import ProposalCheck.Text.Blank

/-!
# The way of a proposal

A proposal passes through statuses on its way. A flow lists them in tiers, the least advanced ones
first. The tier of a status is the number of the last list that has it, counted from one, and zero
for a status that the flow does not know.
-/

namespace ProposalCheck

/-- The statuses of proposals in tiers. -/
abbrev Flow := List (List String)

namespace Flow

/-- The tier of a status, where the first list has the number `first`. -/
def tierFrom (first : Nat) : Flow → String → Nat
  | [], _ => 0
  | statuses :: rest, s =>
    match tierFrom (first + 1) rest s with
    | 0 => if statuses.contains s then first else 0
    | n => n

/-- The tier of a status. -/
def tier (f : Flow) (s : String) : Nat :=
  f.tierFrom 1 s

/-- The statuses of a flow, each once. -/
def statuses (f : Flow) : List String :=
  f.flatten.eraseDups

/-- The tier that the status field of a preamble gives, zero without such a field. -/
def tierOf (f : Flow) (field : String) (p : Preamble) : Nat :=
  match p.byName? field with
  | some x => f.tier (Text.trim x.value)
  | none => 0

/-- The statuses of a tier that is not above a ceiling, in order. -/
def upTo (f : Flow) (ceiling : Int) : List String :=
  Text.sorted (f.statuses.filter fun s => (f.tier s : Int) ≤ ceiling)

/-- Statuses as they are listed in a footer. -/
def choices (f : Flow) (ceiling : Int) : String :=
  "\x60, \x60".intercalate (f.upTo ceiling)

/-- A flow as a text. -/
def summary (f : Flow) : String :=
  "[" ++ ", ".intercalate (f.map Text.quotedList) ++ "]"

end Flow

/-- The status of a document as messages name it. -/
def Preamble.currentStatus (p : Preamble) (field : String) : String :=
  match p.byName? field with
  | some x => Text.trim x.value
  | none => "<missing>"

end ProposalCheck
