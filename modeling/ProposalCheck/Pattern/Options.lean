import ProposalCheck.Pattern.Basic

/-!
# Options

Options decide how letters are compared, what anchors and dots mean, and whether blanks in a pattern
count. They are written as letters in the pattern.
-/

namespace ProposalCheck

namespace Pattern

/-- The letters of options. -/
def isOption (c : Char) : Bool :=
  "iLmsxatu".toList.contains c

/-- The options that are in force where a part of a pattern is read. -/
structure Options where
  caseless : Bool := false
  multiline : Bool := false
  dotAll : Bool := false
  verbose : Bool := false
  ascii : Bool := false
deriving DecidableEq, Repr, Inhabited

namespace Options

/-- How letters are compared under the options. -/
def comparison (o : Options) : Comparison :=
  if o.caseless then if o.ascii then .caselessAscii else .caseless else .exact

/-- Options turned on. -/
def enable (o : Options) : List Char → Options
  | [] => o
  | c :: cs =>
    let o := match c with
      | 'i' => { o with caseless := true }
      | 'm' => { o with multiline := true }
      | 's' => { o with dotAll := true }
      | 'x' => { o with verbose := true }
      | 'a' => { o with ascii := true }
      | 'u' => { o with ascii := false }
      | _ => o
    o.enable cs

/-- Options turned off. -/
def disable (o : Options) : List Char → Options
  | [] => o
  | c :: cs =>
    let o := match c with
      | 'i' => { o with caseless := false }
      | 'm' => { o with multiline := false }
      | 's' => { o with dotAll := false }
      | 'x' => { o with verbose := false }
      | _ => o
    o.disable cs

end Options

end Pattern

end ProposalCheck
