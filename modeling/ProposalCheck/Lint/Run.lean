import ProposalCheck.Lint.Modifier
import ProposalCheck.Lint.Rule

/-!
# What happens in a run

A run is described by the events in it: what is read, which rules are asked, what is reported. A
`Trace` is a stretch of a run, which ends with a result or with the error that ends the run;
stretches are joined with `bind`, and what happened before an error stays.
-/

namespace ProposalCheck

/-- The moments at which a rule is called. -/
inductive Phase where
  | discovery
  | check
deriving DecidableEq, Repr, Inhabited

/-- The name of a phase. -/
def Phase.name : Phase → String
  | discovery => "find_resources"
  | check => "lint"

/-- A rule that stopped on a document. -/
structure RuleFailure where
  slug : String
  origin : Option String
  phase : Phase
  fault : Fault
deriving Repr, Inhabited

/-- How far the work on a document has come. -/
inductive Progress where
  | unparsed
  | notParsed
  | parsed
  | discovering
  | fetching
  | modified
  | checking
  | done
deriving DecidableEq, Repr, Inhabited

/-- The name of a state of the work. -/
def Progress.name : Progress → String
  | unparsed => "unparsed"
  | notParsed => "parse_failed"
  | parsed => "parsed"
  | discovering => "discovering"
  | fetching => "fetching"
  | modified => "modifiers_applied"
  | checking => "linting"
  | done => "done"

/-- What happens in a run. -/
inductive Event where
  /-- The run has this many sources and rules. -/
  | started (sources rules : Nat)
  /-- The work on a document has come so far. -/
  | progress (origin : Option String) (state : Progress)
  /-- A rule is asked which documents it needs. -/
  | discover (slug : String)
  /-- This many documents are to be read. -/
  | fetching (count : Nat)
  /-- The reader is asked for a path. -/
  | read (p : Path)
  /-- A reference gives no document. -/
  | unresolved (r : Reference) (e : FetchError)
  /-- A modifier is applied. -/
  | modify (summary : String)
  /-- A rule is asked for its findings. -/
  | check (slug : String)
  /-- A message goes to the reporter. -/
  | report (m : Message)
  /-- A rule stopped. -/
  | failure (f : RuleFailure)
deriving Inhabited

namespace Event

/-- What a run writes into its log about an event, with the severity. -/
def log? : Event → Option (String × String)
  | started sources rules =>
    some ("DEBUG", "Linting " ++ toString sources ++ " source(s) with " ++ toString rules ++ " lint(s)")
  | progress origin state =>
    let shown := match origin with
      | some o => if o.isEmpty then "<string>" else o
      | none => "<string>"
    some ("DEBUG", shown ++ ": " ++ state.name)
  | fetching count => some ("DEBUG", "Fetching " ++ toString count ++ " document(s)")
  | unresolved r e => some ("INFO", "Could not load " ++ r.describe ++ ": " ++ e.message)
  | failure f =>
    some ("ERROR", "Rule " ++ f.slug ++ " failed in " ++ f.phase.name ++ " for "
      ++ f.origin.getD "None" ++ ": " ++ f.fault.message)
  | _ => none

/-- The message of a report. -/
def message? : Event → Option Message
  | report m => some m
  | _ => none

/-- The path of a read. -/
def path? : Event → Option Path
  | read p => some p
  | _ => none

/-- The rule that stopped. -/
def failure? : Event → Option RuleFailure
  | failure f => some f
  | _ => none

end Event

/-- Why a run ends early. -/
inductive RunError where
  /-- There is no rule. -/
  | noRules
  /-- There is nothing to check. -/
  | noSources
  /-- A source cannot be read. -/
  | unreadable (p : Path) (e : ReadError)
  /-- A modifier failed on a document. -/
  | modifier (summary reason : String) (origin : Option String)
  | crash (c : Crash)
deriving Repr, Inhabited

namespace RunError

/-- The wording of the error. -/
def message : RunError → String
  | noRules => "no lints are enabled"
  | noSources => "no sources were given"
  | unreadable p e => "i/o error accessing \x60" ++ p.text ++ "\x60: " ++ e.message
  | modifier summary reason _ => "modifier " ++ summary ++ " failed: " ++ reason
  | crash c => c.message

/-- The crash that nobody is told of, if the error is one. -/
def unexpected? : RunError → Option Crash
  | crash c => if c.isExpected then none else some c
  | _ => none

end RunError

/-- A stretch of a run. -/
structure Trace (α : Type) where
  events : List Event := []
  result : Except RunError α

namespace Trace

/-- A stretch in which nothing happens. -/
def pure (x : α) : Trace α := { result := .ok x }

/-- One stretch after another. -/
def bind (t : Trace α) (f : α → Trace β) : Trace β :=
  match t.result with
  | .ok x =>
    let next := f x
    { events := t.events ++ next.events, result := next.result }
  | .error e => { events := t.events, result := .error e }

instance : Monad Trace where
  pure := pure
  bind := bind

/-- The run ends here. -/
def fail (e : RunError) : Trace α := { result := .error e }

/-- The run ends here with an error that no rule may cause. -/
def crash (c : Crash) : Trace α := fail (.crash c)

/-- One event. -/
def emit (e : Event) : Trace Unit := { events := [e], result := .ok () }

/-- Several events. -/
def emitAll (es : List Event) : Trace Unit := { events := es, result := .ok () }

/-- The messages that are reported. -/
def messages (t : Trace α) : List Message := t.events.filterMap Event.message?

/-- The paths that are read. -/
def reads (t : Trace α) : List Path := t.events.filterMap Event.path?

/-- The rules that stopped. -/
def failures (t : Trace α) : List RuleFailure := t.events.filterMap Event.failure?

@[simp] theorem events_pure (x : α) : (Pure.pure x : Trace α).events = [] := rfl

@[simp] theorem result_pure (x : α) : (Pure.pure x : Trace α).result = .ok x := rfl

theorem bind_of_ok {t : Trace α} {x : α} (h : t.result = .ok x) (f : α → Trace β) :
    t >>= f = { events := t.events ++ (f x).events, result := (f x).result } := by
  show bind t f = _
  simp [bind, h]

theorem bind_of_error {t : Trace α} {e : RunError} (h : t.result = .error e) (f : α → Trace β) :
    t >>= f = { events := t.events, result := .error e } := by
  show bind t f = _
  simp [bind, h]

end Trace

end ProposalCheck
