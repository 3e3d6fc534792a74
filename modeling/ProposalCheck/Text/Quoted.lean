import ProposalCheck.Text.Printable

/-!
# Quoted text

A text between quotes, on one line. The quotes are single ones unless the text holds a single quote
and no double one. The quote and the backslash are written after a backslash, tab and line endings
by their letters, and other characters that are not printable by their number in hexadecimal.
-/

namespace ProposalCheck.Text

/-- The last `width` hexadecimal digits of a number. -/
def hexDigits (width n : Nat) : List Char :=
  let digits := Nat.toDigits 16 n
  List.replicate (width - digits.length) '0' ++ digits

namespace Quoted

/-- The quote that is put around a text. -/
def delimiter (cs : List Char) : Char :=
  if cs.contains '\'' && !cs.contains '"' then '"' else '\''

/-- A character by its number, with as many digits as it needs at least. -/
def byNumber (c : Char) : List Char :=
  if c.toNat < 0x100 then '\\' :: 'x' :: hexDigits 2 c.toNat
  else if c.toNat < 0x10000 then '\\' :: 'u' :: hexDigits 4 c.toNat
  else '\\' :: 'U' :: hexDigits 8 c.toNat

/-- One character between quotes. -/
def escape (quote c : Char) : List Char :=
  if c == quote || c == '\\' then ['\\', c]
  else if c == '\t' then ['\\', 't']
  else if c == '\n' then ['\\', 'n']
  else if c == '\r' then ['\\', 'r']
  else if isPrintable c then [c]
  else byNumber c

/-- The characters of a text between quotes. -/
def encode (cs : List Char) : List Char :=
  let q := delimiter cs
  q :: cs.flatMap (escape q) ++ [q]

end Quoted

/-- The text between quotes. -/
def quoted (s : String) : String :=
  String.ofList (Quoted.encode s.toList)

/-- The text with every character outside ASCII written by its number. -/
def asciiOnly (s : String) : String :=
  String.ofList (s.toList.flatMap fun c => if c.toNat < 0x80 then [c] else Quoted.byNumber c)

/-- A list of texts between quotes, in brackets. -/
def quotedList (ss : List String) : String :=
  "[" ++ ", ".intercalate (ss.map quoted) ++ "]"

end ProposalCheck.Text
