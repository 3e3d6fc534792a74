import ProposalCheck.Lint.Fault

/-!
# Reporters

A reporter takes messages one by one and keeps a state. It may fail, but what it has taken note of
by then stays in its state.
-/

namespace ProposalCheck

/-- A way to take messages. -/
structure Reporter (σ : Type) where
  /-- The state after a message, and why the message could not be taken if so. -/
  report : σ → Message → σ × Option Crash

namespace Reporter

variable {σ : Type}

/-- Takes messages in order until one fails. -/
def reportAll (r : Reporter σ) : σ → List Message → σ × Option Crash
  | s, [] => (s, none)
  | s, m :: ms =>
    match r.report s m with
    | (s, none) => reportAll r s ms
    | (s, some c) => (s, some c)

/-- The reporter that forgets everything. -/
def discarding : Reporter Unit where
  report _ _ := ((), none)

end Reporter

end ProposalCheck
