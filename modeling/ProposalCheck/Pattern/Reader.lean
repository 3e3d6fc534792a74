import ProposalCheck.Pattern.Error
import ProposalCheck.Pattern.Options
import ProposalCheck.Pattern.Width

/-!
# Going through the text of a pattern

The text of a pattern is read one element at a time; an element is a character, or a backslash with
the character after it. A `Reader` holds how far the text has been read and what has been seen.
-/

namespace ProposalCheck

namespace Pattern

/-- One element of a pattern's text: a character, or a backslash and the character after it. -/
inductive Token where
  | plain (c : Char)
  | escape (c : Char)
deriving DecidableEq, Repr, Inhabited

namespace Token

/-- The number of characters of an element. -/
def length : Token → Nat
  | plain _ => 1
  | escape _ => 2

/-- The characters of an element. -/
def text : Token → String
  | plain c => String.ofList [c]
  | escape c => String.ofList ['\\', c]

end Token

/-- How far a pattern has been read. -/
structure Reader where
  source : String
  chars : Array Char
  /-- The position after the next element. -/
  index : Nat := 0
  next : Option Token := none
  /-- The options for the whole pattern. -/
  options : Options := {}
  /-- The letters of those options. -/
  optionLetters : List Char := []
  groups : Nat := 1
  names : List (String × Nat) := []
  /-- The least and greatest widths of the groups that are closed. -/
  widths : List (Nat × Width) := []
  /-- The number of groups at the start of the enclosing look-behind. -/
  lookBehindGroups : Option Nat := none
  /-- Where conditions refer to groups by number. -/
  conditions : List (Nat × Nat) := []

/-- Reading a part of a pattern. -/
abbrev Read := StateT Reader (Except PatternError)

/-! ## Elements -/

namespace Read

/-- Moves on to the element at the index. -/
def advance : Read Unit := do
  let r ← get
  match r.chars[r.index]? with
  | none => set { r with next := none }
  | some '\\' =>
    match r.chars[r.index + 1]? with
    | none =>
      throw (.malformed "bad escape (end of pattern)" r.source (some (r.chars.size - 1)))
    | some c => set { r with index := r.index + 2, next := some (.escape c) }
  | some c => set { r with index := r.index + 1, next := some (.plain c) }

/-- The position of the next element. -/
def position : Read Nat := do
  let r ← get
  return r.index - (match r.next with
    | some t => t.length
    | none => 0)

/-- Fails with a reason, `offset` characters before the next element. -/
def fail {α : Type} (reason : String) (offset : Nat) : Read α := do
  let p ← position
  throw (.malformed reason (← get).source (some (p - offset)))

/-- Takes the next element. -/
def take : Read (Option Token) := do
  let t := (← get).next
  advance
  return t

/-- Takes the next element if it is a given character. -/
def accept (c : Char) : Read Bool := do
  if (← get).next == some (.plain c) then
    advance
    return true
  else return false

/-- Takes up to `n` characters that satisfy a test. -/
def takeWhile (test : Char → Bool) : Nat → Read (List Char)
  | 0 => return []
  | n + 1 => do
    match (← get).next with
    | some (.plain c) =>
      if test c then
        advance
        let cs ← takeWhile test n
        return c :: cs
      else return []
    | _ => return []

/-- Takes the text before a closing character, and that character. -/
def takeUntil (close : Char) (what : String) : Nat → String → Read String
  | 0, acc => return acc
  | fuel + 1, acc => do
    match ← take with
    | none =>
      if acc.isEmpty then fail ("missing " ++ what) 0
      else fail ("missing " ++ String.ofList [close] ++ ", unterminated name") acc.length
    | some t =>
      if t == .plain close then
        if acc.isEmpty then fail ("missing " ++ what) 1 else return acc
      else takeUntil close what fuel (acc ++ t.text)

/-- Goes back to a position. -/
def goTo (index : Nat) : Read Unit := do
  modify fun r => { r with index }
  advance

/-- The number of elements that are left at most. -/
def fuel : Read Nat := do
  return (← get).chars.size + 2

end Read

end Pattern

end ProposalCheck
