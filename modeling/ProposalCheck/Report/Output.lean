import ProposalCheck.Data.Json
import ProposalCheck.Diagnostic.Record
import ProposalCheck.Report.Reporter

/-!
# Where messages end up

Messages are written as text, one after the other, or kept as plain data, each with its text under
the key `formatted`.
-/

namespace ProposalCheck

open Data (Value)

/-- A message as plain data with its text. -/
def Message.toReport (m : Message) : Value :=
  match m.toValue with
  | .record es => .record (es ++ [(.text "formatted", .text m.render)])
  | v => v

/-- A text that is being written. Nothing can be written once it is closed. -/
structure Stream where
  written : String := ""
  closed : Bool := false
deriving DecidableEq, Repr, Inhabited

/-- Use of a stream that is closed. -/
structure ClosedError where
deriving DecidableEq, Repr, Inhabited

/-- The wording of the error. -/
def ClosedError.message (_ : ClosedError) : String :=
  "I/O operation on closed file"

namespace Stream

/-- Writes at the end. -/
def write (s : Stream) (text : String) : Except ClosedError Stream :=
  if s.closed then .error {} else .ok { s with written := s.written ++ text }

/-- Everything written so far. -/
def contents (s : Stream) : Except ClosedError String :=
  if s.closed then .error {} else .ok s.written

/-- The stream, closed. -/
def close (s : Stream) : Stream := { s with closed := true }

end Stream

namespace Reporter

/-- Writes the text of each message and a line feed. -/
def text : Reporter Stream where
  report s m :=
    match s.write (m.render ++ "\n") with
    | .ok t => (t, none)
    | .error e => (s, some (.report e.message))

/-- Keeps messages as plain data, the last one first. -/
def records : Reporter (List Value) where
  report s m := (m.toReport :: s, none)

end Reporter

/-- The JSON text of the messages that have been kept. -/
def reportsJson (indent : Option Nat) (kept : List Value) : String :=
  Data.Json.write indent (.seq kept.reverse)

end ProposalCheck
