import ProposalCheck.Diagnostic.Basic
import ProposalCheck.Lint.Fault

/-!
# Findings

What a rule has to say about a document: its messages in order, and why it stopped if it did not get
to its end. After a stop nothing more is found. A rule that goes through a document step by step may
be written as `Work`, which reports as it goes.
-/

namespace ProposalCheck

/-- Work that adds to the messages of a rule and that may stop it. -/
abbrev Work := ExceptT Stop (StateM (List Message))

/-- The messages of a rule, and why it stopped. -/
structure Findings where
  messages : List Message := []
  stop : Option Stop := none
deriving Inhabited

namespace Findings

/-- Nothing to say. -/
def none : Findings := {}

/-- One message. -/
def report (m : Message) : Findings := { messages := [m] }

/-- A rule that stops. -/
def stopped (s : Stop) : Findings := { stop := some s }

/-- A rule that cannot do its work. -/
def fault (f : Fault) : Findings := stopped (.fault f)

/-- A rule that ends the run. -/
def crash (c : Crash) : Findings := stopped (.crash c)

/-- First the one, then the other unless the first one stopped. -/
def append (a b : Findings) : Findings :=
  match a.stop with
  | some _ => a
  | Option.none => { messages := a.messages ++ b.messages, stop := b.stop }

instance : Append Findings := ⟨append⟩

/-- One after the other. -/
def concat : List Findings → Findings
  | [] => none
  | f :: fs => f ++ concat fs

/-- What work finds from the beginning. -/
def ofWork (w : Work Unit) : Findings :=
  match w.run.run [] with
  | (.ok _, messages) => { messages }
  | (.error s, messages) => { messages, stop := some s }

/-- What follows from a result, or the stop that the error means. -/
def ofExcept (r : Except Stop α) (f : α → Findings) : Findings :=
  match r with
  | .ok x => f x
  | .error s => stopped s

/-- Says what has been found, and stops where it stopped. -/
def tell (f : Findings) : Work Unit := do
  modify (· ++ f.messages)
  match f.stop with
  | some s => throw s
  | Option.none => pure ()

end Findings

/-- The references a rule asks for, and why it stopped asking. -/
structure Discovery where
  references : List Reference := []
  stop : Option Stop := none
deriving Inhabited

end ProposalCheck
