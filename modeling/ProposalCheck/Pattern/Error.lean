import ProposalCheck.Text.Numeral

/-!
# Texts that are no pattern

A `PatternError` tells what is wrong with a text that is no pattern, and where.
-/

namespace ProposalCheck

/-- Why a text is not a pattern. -/
inductive PatternError where
  /-- The text breaks the rules at a position, if there is a definite one. -/
  | malformed (reason : String) (pattern : String) (position : Option Nat)
  /-- A repetition asks for more repetitions than can be counted. -/
  | tooManyRepetitions
  /-- A number in the pattern cannot be read. -/
  | numeral (e : Text.NumeralError)
  /-- Classes cannot be both restricted to ASCII and not. -/
  | clashingOptions
deriving DecidableEq, Repr, Inhabited

namespace PatternError

/-- The line and the column, counted from one, of a position in a text. -/
def lineColumn (pattern : String) (position : Nat) : Nat × Nat :=
  let before := pattern.toList.take position
  (before.count '\n' + 1, (before.reverse.takeWhile (· != '\n')).length + 1)

/-- The wording of the error. -/
def message : PatternError → String
  | malformed reason _ none => reason
  | malformed reason pattern (some position) =>
    let at' := reason ++ " at position " ++ toString position
    if pattern.toList.contains '\n' then
      let (line, column) := lineColumn pattern position
      at' ++ " (line " ++ toString line ++ ", column " ++ toString column ++ ")"
    else at'
  | tooManyRepetitions => "the repetition number is too large"
  | numeral e => e.message
  | clashingOptions => "ASCII and UNICODE flags are incompatible"

end PatternError

end ProposalCheck
