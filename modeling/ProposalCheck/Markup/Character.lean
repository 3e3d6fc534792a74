import ProposalCheck.Text.Punctuation

/-!
# Characters of Markdown

The classes of characters that decide about structure: spaces and tabs, white space around texts and
emphasis, and the punctuation of ASCII, which a backslash can escape.
-/

namespace ProposalCheck.Markup

/-- A space or a tab. -/
def isSpace (c : Char) : Bool :=
  c == ' ' || c == '\t'

/-- White space around texts, in labels and next to emphasis: that of ASCII and the space
separators. The separators of information and the next-line character are none. -/
def isWhite (c : Char) : Bool :=
  let n := c.toNat
  (0x9 ≤ n && n ≤ 0xD) || n == 0x20 || n == 0xA0 || n == 0x1680 || (0x2000 ≤ n && n ≤ 0x200A)
    || n == 0x202F || n == 0x205F || n == 0x3000

/-- The characters without the white space at both ends. -/
def trimWhite (cs : List Char) : List Char :=
  ((cs.dropWhile isWhite).reverse.dropWhile isWhite).reverse

/-- Punctuation of ASCII. -/
def isAsciiPunctuation (c : Char) : Bool :=
  let n := c.toNat
  (0x21 ≤ n && n ≤ 0x2F) || (0x3A ≤ n && n ≤ 0x40) || (0x5B ≤ n && n ≤ 0x60)
    || (0x7B ≤ n && n ≤ 0x7E)

/-- Punctuation for the purposes of emphasis. -/
def isPunctuation (c : Char) : Bool :=
  isAsciiPunctuation c || Text.isPunctuation c

/-- A control character of ASCII. -/
def isControl (c : Char) : Bool :=
  c.toNat < 0x20 || c.toNat == 0x7F

/-- The part of a text between two positions. -/
def slice (text : Array Char) (start stop : Nat) : List Char :=
  (text.extract start stop).toList

/-- The first position from `p` on whose character fails a test, at most `fuel` further. -/
def skipWhile (text : Array Char) (test : Char → Bool) : Nat → Nat → Nat
  | 0, p => p
  | fuel + 1, p =>
    match text[p]? with
    | some c => if test c then skipWhile text test fuel (p + 1) else p
    | none => p

/-- The first position from `p` on and before `stop` whose character fails a test, or `stop`. -/
def skip (text : Array Char) (test : Char → Bool) (p stop : Nat) : Nat :=
  skipWhile text test (stop - p) p

end ProposalCheck.Markup
