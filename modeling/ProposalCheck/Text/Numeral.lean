import ProposalCheck.Text.Blank
import ProposalCheck.Text.Word
import ProposalCheck.Text.Quoted

/-!
# Whole numbers as text

`Numeral.read` reads a whole number in base ten: blanks around it, a sign and single underscores
between digits are allowed, and the digits may be of any script. A numeral of more than
`Numeral.maxDigits` digits is refused, and a number of more digits is not written either.
-/

namespace ProposalCheck.Text

/-- Why a text is not read as a number, or a number is not written. -/
inductive NumeralError where
  /-- The text is not a number in this base. -/
  | malformed (base : Nat) (text : String)
  /-- The text has more digits than are read. -/
  | tooLong (digits : Nat)
  /-- The number has more digits than are written. -/
  | tooLarge
deriving DecidableEq, Repr, Inhabited

namespace Numeral

/-- The largest number of digits that is read or written. -/
def maxDigits : Nat := 4300

end Numeral

namespace NumeralError

/-- The wording of the error. -/
def message : NumeralError → String
  | malformed base text =>
    "invalid literal for int() with base " ++ toString base ++ ": " ++ quoted text
  | tooLong digits =>
    "Exceeds the limit (" ++ toString Numeral.maxDigits ++ " digits) for integer string conversion: "
      ++ "value has " ++ toString digits
      ++ " digits; use sys.set_int_max_str_digits() to increase the limit"
  | tooLarge =>
    "Exceeds the limit (" ++ toString Numeral.maxDigits ++ " digits) for integer string conversion; "
      ++ "use sys.set_int_max_str_digits() to increase the limit"

end NumeralError

namespace Numeral

/-- The number with these digits, most significant first, before which `acc` has been read. -/
def ofDigits (base : Nat) (acc : Nat) : List Nat → Nat
  | [] => acc
  | d :: ds => ofDigits base (base * acc + d) ds

/-- The digits at the start of a text, with single underscores between them, and the rest. `none`
when an underscore does not stand between two digits. -/
def takeDigits (digit? : Char → Option Nat) : Bool → List Char → Option (List Nat × List Char)
  | afterUnderscore, [] => if afterUnderscore then none else some ([], [])
  | afterUnderscore, c :: r =>
    match digit? c with
    | some d => (takeDigits digit? false r).map fun p => (d :: p.1, p.2)
    | none =>
      if c == '_' then if afterUnderscore then none else takeDigits digit? true r
      else if afterUnderscore then none else some ([], c :: r)

/-- The value of a digit of any script or of a letter, as far as it is below the base. -/
def digitBelow? (base : Nat) (c : Char) : Option Nat :=
  let value? :=
    if c.isLower then some (c.toNat - 'a'.toNat + 10)
    else if c.isUpper then some (c.toNat - 'A'.toNat + 10)
    else digitValue? c
  value?.filter (· < base)

/-- White space that may stand around a number. In a text of ASCII characters the information
separators do not count. -/
def isSpace (c : Char) : Bool :=
  if c.toNat < 0x80 then c == ' ' || (0x9 ≤ c.toNat && c.toNat ≤ 0xD) else isBlank c

/-- The sign at the start of a text, and the rest. -/
def takeSign : List Char → Bool × List Char
  | '-' :: r => (true, r)
  | '+' :: r => (false, r)
  | r => (false, r)

/-- Past the mark of a base, a zero and a letter, if it stands in front of the digits. -/
def dropMark (base : Nat) (cs : List Char) : List Char :=
  match cs with
  | '0' :: c :: r =>
    let l := c.toLower
    if (base == 2 && l == 'b') || (base == 8 && l == 'o') || (base == 16 && l == 'x') then r else cs
  | _ => cs

/-- The number that a text denotes in a base from 2 to 36. -/
def readBase (base : Nat) (s : String) : Except NumeralError Int :=
  let (negative, body) := takeSign (s.toList.dropWhile isSpace)
  let body := dropMark base body
  let starts := match body with
    | c :: _ => c != '_'
    | [] => false
  match if starts then takeDigits (digitBelow? base) false body else none with
  | none => .error (.malformed base s)
  | some (digits, rest) =>
    let binary := base == 2 || base == 4 || base == 8 || base == 16 || base == 32
    if digits.length > maxDigits && !binary then .error (.tooLong digits.length)
    else if digits.isEmpty || !rest.all isSpace then .error (.malformed base s)
    else
      let value : Int := ofDigits base 0 digits
      .ok (if negative then -value else value)

/-- The number that a text denotes in base ten. -/
def read (s : String) : Except NumeralError Int :=
  readBase 10 s

/-- The text of a number in base ten. -/
def write (n : Int) : Except NumeralError String :=
  if n.natAbs < Nat.pow 10 maxDigits then .ok (toString n) else .error .tooLarge

end Numeral

end ProposalCheck.Text
