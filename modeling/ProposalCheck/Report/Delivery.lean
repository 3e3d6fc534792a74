import ProposalCheck.Lint.Linter
import ProposalCheck.Report.Reporter

/-!
# From a run to a reporter

The messages of a run go to a reporter as they come. If the reporter fails, the run ends there.
-/

namespace ProposalCheck

/-- What a run comes to under a reporter. -/
structure Delivery (σ : Type) where
  state : σ
  /-- What happened until the run ended. -/
  events : List Event
  error : Option RunError

namespace Delivery

/-- The rules that stopped. -/
def failures {σ : Type} (d : Delivery σ) : List RuleFailure := d.events.filterMap Event.failure?

/-- The paths that were read. -/
def reads {σ : Type} (d : Delivery σ) : List Path := d.events.filterMap Event.path?

end Delivery

namespace Reporter

variable {σ : Type}

/-- Goes through events in order and reports the messages among them, up to the first one that
fails. -/
def deliverEvents (r : Reporter σ) : σ → List Event → σ × List Event × Option Crash
  | s, [] => (s, [], none)
  | s, e :: es =>
    let (s, stop) := match e.message? with
      | some m => r.report s m
      | none => (s, none)
    match stop with
    | some c => (s, [e], some c)
    | none =>
      let (s, rest, stop) := deliverEvents r s es
      (s, e :: rest, stop)

/-- A run under a reporter with a state. -/
def deliver {α : Type} (r : Reporter σ) (s : σ) (t : Trace α) : Delivery σ :=
  let (state, events, stop) := r.deliverEvents s t.events
  { state, events
    error := match stop, t.result with
      | some c, _ => some (.crash c)
      | none, .error e => some e
      | none, .ok _ => none }

end Reporter

/-- Whether the run came to its first source. -/
def RunError.isEarly : RunError → Bool
  | .noRules => true
  | .noSources => true
  | _ => false

/-- The failures to show after a run, where `before` were those of the run before. A run that never
started leaves them. -/
def Delivery.failuresAfter {σ : Type} (d : Delivery σ) (before : List RuleFailure) : List RuleFailure :=
  if d.error.any RunError.isEarly then before else d.failures

end ProposalCheck
