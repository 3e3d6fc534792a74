import ProposalCheck.Lint.Rule
import ProposalCheck.Rule.Flow
import ProposalCheck.Text.Numeral

/-!
# The status of required proposals

A proposal may list the numbers of other proposals that it needs. They have to be at least as far on
their way as the proposal itself.
-/

namespace ProposalCheck.Rule

namespace RequiredStatus

/-- What the rule is set up with: the field of the list, the field of the status, and the flow. -/
structure Setup where
  requires : String
  status : String
  flow : Flow
deriving Repr, Inhabited

/-- An item of a list, and its position in the list. -/
structure Item where
  start : Nat
  text : String
deriving DecidableEq, Repr, Inhabited

/-- Pieces of a text with their positions, from `start` on, when one character separates them. -/
def place (start : Nat) : List String → List Item
  | [] => []
  | s :: ss => { start, text := s } :: place (start + s.length + 1) ss

/-- The items of a list, separated by commas. -/
def items (value : String) : List Item :=
  place 0 (Text.splitOn ',' value)

/-- Whether a text is one or more digits. -/
def isDigits (cs : List Char) : Bool :=
  !cs.isEmpty && cs.all fun c => '0' ≤ c && c ≤ '9'

/-- The number that an item denotes; `none` for an item that is not a number. -/
def Item.number? (i : Item) : Except Text.NumeralError (Option Int) :=
  let digits := Text.trim i.text
  if isDigits digits.toList then some <$> Text.Numeral.read digits else .ok none

/-- The numbers of a list. -/
def numbers (value : String) : Except Text.NumeralError (List Int) :=
  (·.filterMap id) <$> (items value).mapM Item.number?

/-- The name of the file of a proposal. -/
def fileName (number : Int) : String :=
  "eip-" ++ toString number ++ ".md"

/-- The documents that a list asks for. -/
def discover (s : Setup) (d : Document) : Discovery :=
  match d.preamble.byName? s.requires with
  | none => {}
  | some f =>
    match numbers f.value with
    | .ok ns => { references := ns.map fun n => d.pathReference (fileName n) }
    | .error e => { stop := some (.crash (.numeral e)) }

/-- What an item turns out to be. -/
inductive Verdict where
  /-- The item is not a number. -/
  | ignored
  | unreadable (m : Message)
  /-- The document has a tier; the mark is that of the item in its field. -/
  | tier (n : Nat) (mark : Highlight)
deriving Inhabited

/-- The mark of an item on the line of its field. -/
def mark (c : Context) (f : Field) (i : Item) (label : String) : Highlight :=
  (c.level.spanChars f.source (f.name.length + 1 + i.start : Nat) i.text.length).withLabel label

/-- What is found out about an item. -/
def judge (s : Setup) (slug : String) (c : Context) (f : Field) (i : Item) : Except Stop Verdict := do
  match ← i.number?.mapError fun e => .crash (.numeral e) with
  | none => return .ignored
  | some n =>
    let name := fileName n
    match c.atPath name with
    | .ok other =>
      return .tier (s.flow.tierOf s.status other.preamble)
        (mark c f i "has a less advanced status")
    | .error (.failed e) =>
      return .unreadable
        (((c.level.message ("unable to read file \x60" ++ name ++ "\x60: " ++ e.message)).withId
          slug).addSnippet ((c.fieldSnippet f).annotate (mark c f i "required from here")))
    | .error e => throw (.ofLookup e)

/-- What is found out about items in order, up to the first one that stops the rule. -/
def judgeAll (judge : Item → Except Stop Verdict) : List Item → List Verdict × Option Stop
  | [] => ([], none)
  | i :: is =>
    match judge i with
    | .error s => ([], some s)
    | .ok v =>
      let rest := judgeAll judge is
      (v :: rest.1, rest.2)

/-- The messages about documents that cannot be read. -/
def unreadable (vs : List Verdict) : List Message :=
  vs.filterMap fun
    | .unreadable m => some m
    | _ => none

/-- The tiers of the documents that can be read. -/
def tiers (vs : List Verdict) : List Nat :=
  vs.filterMap fun
    | .tier n _ => some n
    | _ => none

/-- The marks of the documents below a tier. -/
def below (tier : Nat) (vs : List Verdict) : List Highlight :=
  vs.filterMap fun
    | .tier n m => if n < tier then some m else none
    | _ => none

/-- The message about documents that are not far enough, if there are any. -/
def unstable (s : Setup) (slug : String) (c : Context) (f : Field) (vs : List Verdict) : List Message :=
  let marks := below (s.flow.tierOf s.status c.preamble) vs
  if marks.isEmpty then []
  else
    let m := ((c.level.message
      ("preamble header \x60" ++ s.requires ++ "\x60 contains items not stable enough for a \x60"
        ++ s.status ++ "\x60 of \x60" ++ c.preamble.currentStatus s.status ++ "\x60")).withId
      slug).addSnippet ((c.fieldSnippet f).annotateAll marks)
    let choices := s.flow.choices ((tiers vs).min?.getD 0)
    if choices.isEmpty then [m]
    else [m.addFooter (Level.help.message
      ("valid \x60" ++ s.status ++ "\x60 values for this proposal are: \x60" ++ choices ++ "\x60"))]

/-- What is said about a document. -/
def check (s : Setup) (slug : String) (c : Context) : Findings :=
  match c.preamble.byName? s.requires with
  | none => .none
  | some f =>
    let (vs, stop) := judgeAll (judge s slug c f) (items f.value)
    { messages := unreadable vs ++ (if stop.isSome then [] else unstable s slug c f vs), stop }

/-- The rule with what it was set up with. -/
def Setup.summary (s : Setup) : String :=
  "RequiresStatus(requires=" ++ Text.quoted s.requires ++ ", status=" ++ Text.quoted s.status
    ++ ", flow=" ++ s.flow.summary ++ ")"

end RequiredStatus

/-- Required proposals are at least as far on as the one that requires them. -/
def requiredStatus (s : RequiredStatus.Setup) : Rule where
  description := "Required proposals must be at least as advanced as the requiring one."
  summary := s.summary
  discover := RequiredStatus.discover s
  check := RequiredStatus.check s

end ProposalCheck.Rule
