import ProposalCheck.Text.Lines

/-!
# Fences

A proposal starts with a preamble between two fences, which are lines of three dashes and nothing
else. What follows the second fence is the body. `split` cuts a text at its fences.

The line right after a fence is never a fence, so that a preamble has one line at least. An empty
line in front of the first fence is ignored.
-/

namespace ProposalCheck

/-- Why a text cannot be cut into preamble and body. -/
inductive FenceError where
  /-- There is no fence. -/
  | missingStart
  /-- There is only one fence. -/
  | missingEnd
  /-- There is text in front of the first fence. -/
  | leadingText
deriving DecidableEq, Repr, Inhabited

namespace FenceError

/-- The wording of the error. -/
def message : FenceError → String
  | missingStart => "missing opening \x60---\x60"
  | missingEnd => "missing closing \x60---\x60"
  | leadingText => "text found before the opening \x60---\x60"

end FenceError

namespace Fence

/-- Whether a line is a fence. -/
def isFence (line : List Char) : Bool :=
  line == ['-', '-', '-']

/-- The text of some lines. -/
def unlines (ls : List (List Char)) : List Char :=
  ['\n'].intercalate ls

/-- The lines up to the first fence, and those after it if there is one. -/
def cut (ls : List (List Char)) : List (List Char) × Option (List (List Char)) :=
  let (before, rest) := ls.span fun l => !isFence l
  (before, match rest with
    | [] => none
    | _ :: after => some after)

/-- The preamble and the body of some lines. -/
def splitLines (ls : List (List Char)) :
    Except FenceError (List (List Char) × List (List Char)) :=
  match cut ls with
  | (_, none) => .error .missingStart
  | (_, some []) => .error .missingEnd
  | (before, some (first :: rest)) =>
    match cut rest with
    | (_, none) => .error .missingEnd
    | (inner, some body) =>
      if before == [] || before == [[]] then .ok (first :: inner, body) else .error .leadingText

/-- The preamble and the body of a text, without the fences. -/
def split (source : String) : Except FenceError (String × String) :=
  (splitLines (Text.charLines source.toList)).map fun p =>
    (String.ofList (unlines p.1), String.ofList (unlines p.2))

end Fence

end ProposalCheck
