import ProposalCheck.Data.Value
import ProposalCheck.Lint.Context
import ProposalCheck.Text.Blank
import ProposalCheck.Text.Case

/-!
# Modifiers

A modifier changes the settings of a document by what the document says, before any rule looks at
it. The one that comes with the checker, `DefaultLevel`, sets the level of findings by the value of
a field. Modifiers run in order, so that the last one that applies decides.
-/

namespace ProposalCheck

open Data (Value)

/-- Sets the default level of documents that have a field with just this value. -/
structure DefaultLevel where
  field : String
  value : String
  level : Level
deriving DecidableEq, Repr, Inhabited

/-- Why a modifier fails. -/
inductive ModifierFault where
  | failed (reason : String)
  | frozen (e : FrozenError)
deriving Repr, Inhabited

/-- A change of a document's settings. -/
inductive Modifier where
  | defaultLevel (m : DefaultLevel)
  /-- Any other change, with a name for messages. -/
  | custom (summary : String) (change : Context → Settings → Except ModifierFault Settings)
deriving Inhabited

namespace DefaultLevel

/-- Whether a preamble has the field with the value. -/
def applies (m : DefaultLevel) (p : Preamble) : Bool :=
  match p.byName? m.field with
  | some f => Text.trim f.value == m.value
  | none => false

/-- The settings of a document with this preamble. -/
def change (m : DefaultLevel) (p : Preamble) (s : Settings) : Except FrozenError Settings :=
  if m.applies p then s.setDefaultLevel m.level else .ok s

/-- The modifier as a text. -/
def summary (m : DefaultLevel) : String :=
  "SetDefaultAnnotation(name=" ++ Text.quoted m.field ++ ", value=" ++ Text.quoted m.value
    ++ ", annotation_level=<Level." ++ m.level.name.toUpper ++ ": "
    ++ Text.quoted m.level.name ++ ">)"

/-- The name of this kind of modifier in configurations. -/
def kind : String := "set-default-annotation"

end DefaultLevel

namespace Modifier

/-- The modifier as a text. -/
def summary : Modifier → String
  | defaultLevel m => m.summary
  | custom s _ => s

/-- The settings after the modifier. -/
def change (m : Modifier) (c : Context) (s : Settings) : Except ModifierFault Settings :=
  match m with
  | defaultLevel m => (m.change c.preamble s).mapError .frozen
  | custom _ f => f c s

end Modifier

/-- Proposals that nobody works on only give warnings. -/
def DefaultLevel.standard : List DefaultLevel := [
  { field := "status", value := "Stagnant", level := .warning },
  { field := "status", value := "Withdrawn", level := .warning }]

/-! ## Modifiers in configurations -/

/-- Why plain data is not a modifier. -/
inductive ModifierError where
  | notMapping (kindName : String)
  /-- There is no modifier of this kind. -/
  | unknownKind (quoted : String)
  | missing (key : String)
  | unknownLevel (name : String)
  /-- An entry is a number that is too large to be written. -/
  | entry (e : Text.NumeralError)
  /-- The kind is of a sort of data that is never compared. -/
  | unusableKind (kindName : String)
  /-- The kind is a number that is too large to be written. -/
  | unwritableKind (e : Text.NumeralError)
deriving DecidableEq, Repr, Inhabited

namespace ModifierError

/-- The start of the wording for an error in an entry. -/
def lead : String := "modifier \x60" ++ DefaultLevel.kind ++ "\x60"

/-- The wording of the error. -/
def message : ModifierError → String
  | notMapping kindName => "modifier must be a mapping, got " ++ kindName
  | unknownKind quoted => "unknown modifier kind: " ++ quoted
  | missing key => lead ++ " is missing " ++ Text.quoted key
  | unknownLevel name => lead ++ ": " ++ Text.quoted name ++ " is not a valid Level"
  | entry e => lead ++ ": " ++ e.message
  | unusableKind kindName => "unhashable type: '" ++ kindName ++ "'"
  | unwritableKind e => e.message

end ModifierError

namespace DefaultLevel

/-- The text of an entry. -/
def entry (v : Value) (key : String) : Except ModifierError String :=
  match v.get? key with
  | none => .error (.missing key)
  | some x => x.plain.mapError .entry

/-- The modifier that plain data stands for. -/
def ofValue (v : Value) : Except ModifierError DefaultLevel := do
  let v := v.opened
  unless v.kindName == (Value.record []).kindName do throw (.notMapping v.kindName)
  let kind := (v.get? "kind").getD .null
  unless kind.isKey do throw (.unusableKind kind.unusableKind)
  unless kind.sameKey (.text DefaultLevel.kind) do
    throw (.unknownKind (← kind.quoted.mapError .unwritableKind))
  let name := Text.lowercase (← entry v "annotation_level")
  match Level.ofName? name with
  | none => throw (.unknownLevel name)
  | some level => return { field := ← entry v "name", value := ← entry v "value", level }

end DefaultLevel

end ProposalCheck
