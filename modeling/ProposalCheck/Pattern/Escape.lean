import ProposalCheck.Pattern.Reader
import ProposalCheck.Text.CharacterName.Lookup
import ProposalCheck.Text.Quoted

/-!
# Escapes and sets

An escape is a backslash with what belongs to it, and means a character, a class of characters, an
anchor or a reference to a group. A set stands in square brackets.
-/

namespace ProposalCheck

namespace Pattern

open Read

/-! ## Escapes -/

/-- The control characters that have a letter of their own. -/
def controlEscape? (c : Char) : Option Char :=
  match c with
  | 'a' => some '\x07'
  | 'f' => some '\x0c'
  | 'n' => some '\n'
  | 'r' => some '\r'
  | 't' => some '\t'
  | 'v' => some '\x0b'
  | '\\' => some '\\'
  | _ => none

/-- The class of an escape such as `\d`, as an item of a set. -/
def categoryEscape? (ascii : Bool) (c : Char) : Option SetItem :=
  match c with
  | 'd' => some (.category .digit false ascii)
  | 'D' => some (.category .digit true ascii)
  | 's' => some (.category .space false ascii)
  | 'S' => some (.category .space true ascii)
  | 'w' => some (.category .word false ascii)
  | 'W' => some (.category .word true ascii)
  | _ => none

/-- Whether a character is a hexadecimal digit. -/
def isHexDigit (c : Char) : Bool :=
  c.isDigit || ('a' ≤ c && c ≤ 'f') || ('A' ≤ c && c ≤ 'F')

/-- Whether a character is an octal digit. -/
def isOctalDigit (c : Char) : Bool :=
  '0' ≤ c && c ≤ '7'

/-- The number of some digits in a base. -/
def numberOf (base : Nat) (cs : List Char) : Nat :=
  Text.Numeral.ofDigits base 0 (cs.filterMap (Text.Numeral.digitBelow? base))

/-- The code point of an escape with a fixed number of hexadecimal digits. -/
def hexEscape (letter : Char) (digits : Nat) : Read Nat := do
  let cs ← takeWhile isHexDigit digits
  if cs.length != digits then
    fail ("incomplete escape \\" ++ String.ofList (letter :: cs)) (cs.length + 2)
  else
    let n := numberOf 16 cs
    if n ≥ 0x110000 then fail ("bad escape \\" ++ String.ofList (letter :: cs)) (cs.length + 2)
    else return n

/-- The code point of an escape that is written with a letter and a number, if it is one. -/
def numericEscape? (c : Char) : Read (Option Nat) := do
  match c with
  | 'x' => some <$> hexEscape 'x' 2
  | 'u' => some <$> hexEscape 'u' 4
  | 'U' => some <$> hexEscape 'U' 8
  | 'N' =>
    if ← accept '\x7b' then
      let name ← takeUntil '\x7d' "character name" (← fuel) ""
      match Text.CharacterName.codePoint? name with
      | some n => return some n
      | none => fail ("undefined character name " ++ Text.quoted name) (name.length + 4)
    else fail "missing \x7b" 0
  | _ => return none

/-- Refuses an octal escape beyond the largest one. -/
def octalValue (cs : List Char) : Read Nat := do
  let n := numberOf 8 cs
  if n > 255 then
    fail ("octal escape value \\" ++ String.ofList cs ++ " outside of range 0-0o377")
      (cs.length + 1)
  else return n

/-- What an escape means inside a set. -/
def setEscape (o : Options) (c : Char) : Read SetItem := do
  if c == 'b' then return .char 8
  else if let some d := controlEscape? c then return .char d.toNat
  else if let some item := categoryEscape? o.ascii c then return item
  else if let some n ← numericEscape? c then return .char n
  else if isOctalDigit c then
    let cs ← takeWhile isOctalDigit 2
    return .char (← octalValue (c :: cs))
  else if c.isDigit || c.isAlpha then fail ("bad escape \\" ++ String.ofList [c]) 2
  else return .char c.toNat

/-- Refuses a reference to a group that is still open, or inside the look-behind it is used in. -/
def checkReference (group : Nat) : Read Unit := do
  let r ← get
  match r.lookBehindGroups with
  | none => return ()
  | some limit =>
    if !(r.widths.any (·.1 == group)) then fail "cannot refer to an open group" 0
    if group ≥ limit then
      fail "cannot refer to group defined in the same lookbehind subpattern" 0

/-- A reference to a group by number. -/
def reference (o : Options) (digits : List Char) : Read Node := do
  let r ← get
  let group := numberOf 10 digits
  if group < r.groups then
    if !(r.widths.any (·.1 == group)) then
      fail "cannot refer to an open group" (digits.length + 1)
    checkReference group
    return .reference o.comparison group
  else fail ("invalid group reference " ++ toString group) digits.length

/-- A literal character. -/
def literal (o : Options) (code : Nat) : Node :=
  .char o.comparison false code

/-- What an escape means outside of a set. -/
def escape (o : Options) (c : Char) : Read Node := do
  if c == 'A' then return .anchor .start
  else if c == 'Z' then return .anchor .strictEnd
  else if c == 'b' then return .anchor (.boundary o.ascii)
  else if c == 'B' then return .anchor (.nonBoundary o.ascii)
  else if let some item := categoryEscape? o.ascii c then return .set .exact false [item]
  else if let some d := controlEscape? c then return literal o d.toNat
  else if let some n ← numericEscape? c then return literal o n
  else if c == '0' then
    let cs ← takeWhile isOctalDigit 2
    return literal o (numberOf 8 cs)
  else if c.isDigit then
    let second ← takeWhile Char.isDigit 1
    match second with
    | [d] =>
      let third ← if isOctalDigit c && isOctalDigit d then takeWhile isOctalDigit 1 else pure []
      match third with
      | [e] => return literal o (← octalValue [c, d, e])
      | _ => reference o [c, d]
    | _ => reference o [c]
  else if c.isAlpha then fail ("bad escape \\" ++ String.ofList [c]) 2
  else return literal o c.toNat

/-! ## Sets -/

/-- A set with the options in force. It is compared exactly if no item has case. -/
def setNode (o : Options) (negated : Bool) (items : List SetItem) : Node :=
  .set (if items.any (·.isCased o.comparison) then o.comparison else .exact) negated items

/-- One item of a set, as it is written. -/
def setItem (o : Options) : Token → Read SetItem
  | .escape c => setEscape o c
  | .plain c => return .char c.toNat

/-- The items of a set up to its closing bracket. `here` is where the set starts. -/
def setItems (o : Options) (here : Nat) : Nat → List SetItem → Read (List SetItem)
  | 0, items => return items
  | fuel + 1, items => do
    let unterminated {α : Type} : Read α := do
      fail "unterminated character set" ((← position) - here)
    match ← take with
    | none => unterminated
    | some this =>
      if this == .plain ']' && !items.isEmpty then return items
      else
        let first ← setItem o this
        if ← accept '-' then
          match ← take with
          | none => unterminated
          | some that =>
            if that == .plain ']' then return items ++ [first, .char '-'.toNat]
            else
              let second ← setItem o that
              let bad {α : Type} : Read α :=
                fail ("bad character range " ++ this.text ++ "-" ++ that.text)
                  (this.length + 1 + that.length)
              match first, second with
              | .char a, .char b =>
                if b < a then bad else setItems o here fuel (items ++ [.range a b])
              | _, _ => bad
        else setItems o here fuel (items ++ [first])

/-- The items of a list, each once, in the order of their first appearance. -/
def distinct (items : List SetItem) : List SetItem :=
  items.foldl (fun seen i => if seen.contains i then seen else seen ++ [i]) []

/-- A set in square brackets. One of a single character is that character, or any other one. -/
def bracketed (o : Options) (negated : Bool) (items : List SetItem) : Node :=
  match distinct items with
  | [.char n] => .char o.comparison negated n
  | items => setNode o negated items

end Pattern

end ProposalCheck
