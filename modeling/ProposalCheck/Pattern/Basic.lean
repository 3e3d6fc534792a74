import ProposalCheck.Pattern.Caseless
import ProposalCheck.Text.Blank
import ProposalCheck.Text.Word

/-!
# Patterns

A pattern is a regular expression with groups, look-around and references. Everything that options
such as `(?i)` decide is written into the nodes when a pattern is read, so that a node has a meaning
of its own.
-/

namespace ProposalCheck

namespace Pattern

/-- The classes of characters that have an escape of their own. -/
inductive Category where
  | digit
  | space
  | word
deriving DecidableEq, Repr, Inhabited

namespace Category

/-- Whether a character is of a class; `ascii` restricts the classes to ASCII. -/
def has (category : Category) (ascii : Bool) (c : Char) : Bool :=
  match category with
  | digit => if ascii then c.isDigit else Text.isDecimalDigit c
  | space =>
    if ascii then c == ' ' || (0x9 ≤ c.toNat && c.toNat ≤ 0xD) else Text.isBlank c
  | word => if ascii then c.isAlphanum || c == '_' else Text.isWordChar c

end Category

/-- An item of a character set. -/
inductive SetItem where
  | char (c : Nat)
  | range (first last : Nat)
  | category (category : Category) (negated ascii : Bool)
deriving DecidableEq, Repr, Inhabited

/-- How letters are compared. -/
inductive Comparison where
  | exact
  | caseless
  /-- Only the letters of ASCII are compared without regard to case. -/
  | caselessAscii
deriving DecidableEq, Repr, Inhabited

namespace Comparison

/-- The form of a character in which cases do not differ. -/
def fold (k : Comparison) (c : Char) : Char :=
  match k with
  | exact => c
  | caseless => Text.toLower c
  | caselessAscii => c.toLower

/-- Whether a character matches a literal, which is given by its code point. No character matches a
surrogate. -/
def same (k : Comparison) (literal : Nat) (c : Char) : Bool :=
  if 0xD800 ≤ literal && literal ≤ 0xDFFF then false
  else
    let l := Char.ofNat literal
    match k with
    | exact => l == c
    | caseless => sameIgnoringCase l c
    | caselessAscii => l.toLower == c.toLower

/-- The code points of the characters whose folded form matches a folded character. -/
def sources (k : Comparison) (folded : Char) : List Nat :=
  match k with
  | exact => [folded.toNat]
  | caseless => caselessSources folded
  | caselessAscii =>
    if folded.isUpper then []
    else if folded.isLower then [folded.toNat, folded.toUpper.toNat]
    else [folded.toNat]

end Comparison

namespace SetItem

/-- Whether an item takes part in a comparison without regard to case: a letter does, and so does
every character beyond the first 65536. -/
def isCased (k : Comparison) : SetItem → Bool
  | char c => c ≥ 0x10000 || cased k c c
  | range a b => b ≥ 0x10000 || cased k a b
  | category _ _ _ => false
where
  /-- Whether there is a letter that has case from `a` to `b`. -/
  cased (k : Comparison) (a b : Nat) : Bool :=
    match k with
    | .exact => false
    | .caseless => Text.isCasedBetween a b
    | .caselessAscii => (a ≤ 0x5A && 0x41 ≤ b) || (a ≤ 0x7A && 0x61 ≤ b)

/-- Whether a folded character belongs to an item of a set that is compared without regard to
case. Single characters beyond the first 65536 are not folded, and of a range only its part before
them is. -/
def hasFolded (k : Comparison) (folded : Char) : SetItem → Bool
  | char n => if n ≥ 0x10000 then folded.toNat == n else (k.sources folded).contains n
  | range a b =>
    (k.sources folded).any (fun n => a ≤ n && n ≤ b && n < 0x10000)
      || (b ≥ 0x10000
        && ((a ≤ folded.toNat && folded.toNat ≤ b)
          || (a ≤ (Text.toUpper folded).toNat && (Text.toUpper folded).toNat ≤ b)))
  | category c negated ascii => c.has ascii folded != negated

/-- Whether a character belongs to an item of a set. -/
def has (c : Char) : SetItem → Bool
  | char n => c.toNat == n
  | range a b => a ≤ c.toNat && c.toNat ≤ b
  | category k negated ascii => k.has ascii c != negated

end SetItem

/-- Where in a text something is anchored. -/
inductive Anchor where
  /-- The start of the text. -/
  | start
  /-- The start of a line. -/
  | lineStart
  /-- The end of the text, or before a line feed at its end. -/
  | finish
  /-- The end of a line. -/
  | lineEnd
  /-- The end of the text and nowhere else. -/
  | strictEnd
  /-- Between a word character and another one. -/
  | boundary (ascii : Bool)
  | nonBoundary (ascii : Bool)
deriving DecidableEq, Repr, Inhabited

/-- How often a repetition tries to repeat. -/
inductive Greed where
  | greedy
  | lazy
  /-- As often as possible, and what a repetition has matched is not given back. -/
  | possessive
deriving DecidableEq, Repr, Inhabited

/-- The parts of a pattern. -/
inductive Node where
  | empty
  | any (lineFeedToo : Bool)
  /-- One character, by its code point, or with `negated` any other one. -/
  | char (k : Comparison) (negated : Bool) (code : Nat)
  | set (k : Comparison) (negated : Bool) (items : List SetItem)
  | anchor (a : Anchor)
  | cat (first second : Node)
  | alt (first second : Node)
  | repetition (greed : Greed) (min : Nat) (max : Option Nat) (body : Node)
  /-- A group with a number, or one without that has options of its own. -/
  | group (index : Option Nat) (body : Node)
  /-- Look ahead, or back over a fixed number of characters. -/
  | look (behind : Option Nat) (negated : Bool) (body : Node)
  | reference (k : Comparison) (index : Nat)
  | conditional (index : Nat) (yes no : Node)
  /-- The first way in which the body matches, and no other. -/
  | atomic (body : Node)
deriving DecidableEq, Repr, Inhabited

namespace Node

/-- Parts one after the other. -/
def ofList : List Node → Node
  | [] => empty
  | [n] => n
  | n :: ns => cat n (ofList ns)

/-- Parts of which one matches, the first one that does. -/
def ofAlternatives : List Node → Node
  | [] => empty
  | [n] => n
  | n :: ns => alt n (ofAlternatives ns)

end Node

end Pattern

/-- A pattern, the number of its groups, and whether classes such as `\w` are restricted to ASCII
outside of groups that say otherwise. -/
structure Pattern where
  node : Pattern.Node
  groups : Nat
  ascii : Bool := false
deriving Repr, Inhabited

end ProposalCheck
