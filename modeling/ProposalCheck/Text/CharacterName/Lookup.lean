import ProposalCheck.Text.CharacterName.Alias
import ProposalCheck.Text.CharacterName.Alphabet
import ProposalCheck.Text.CharacterName.Ancient
import ProposalCheck.Text.CharacterName.Ideogram
import ProposalCheck.Text.CharacterName.Notation
import ProposalCheck.Text.CharacterName.Script
import ProposalCheck.Text.CharacterName.Symbol
import ProposalCheck.Text.Ranges

/-!
# Characters by name

Most characters of the Unicode standard have a name that is listed. The names of Hangul syllables
are put together from the names of their letters, and those of unified ideographs from the code
point. `CharacterName.codePoint?` finds a character by its name.

The lists are written short. The names of consecutive characters follow each other, each as a
lower-case letter that tells how many characters to drop from the end of the name before (`a` none,
`b` one; `z` adds 25 to the letter after it) and then what to append. `@` and `@` enclose the code
point to go on with. Signs stand for frequent words.
-/

namespace ProposalCheck.Text

namespace CharacterName

/-! ## Listed names -/

/-- The signs that stand for frequent words. -/
def phrases : List (Char × String) := [
  ('!', "LETTER "), ('#', " WITH "), ('$', "CAPITAL "), ('%', "SMALL "), ('&', " AND "),
  ('*', " FORM"), ('+', " ABOVE"), (',', " BELOW"), ('.', " SIGN"), (':', "DOUBLE "),
  (';', "TRIANGLE"), ('<', "LEFTWARDS "), ('=', "ISOLATED"), ('>', "RIGHTWARDS "), ('?', " MARK"),
  ('[', "LEFT "), (']', "RIGHT "), ('^', "ARROW"), ('_', "SYLLABLE "), ('|', "VERTICAL "),
  ('~', "SYMBOL "), ('(', "HORIZONTAL "), (')', "BLACK ")]

/-- How far a list has been read. -/
structure Search where
  /-- The character whose name is being read. -/
  code : Nat := 0
  /-- The name as far as it is read, in reverse. -/
  name : List Char := []
  /-- What is to be dropped besides what the next letter says. -/
  drop : Nat := 0
  /-- The code point to go on with, while it is being read. -/
  jump : Option Nat := none
  /-- Whether a name has been started since the last jump. -/
  started : Bool := false
  found : Option Nat := none

namespace Search

/-- Ends a name: the character is found if it is the one that is looked for. -/
def close (target : List Char) (s : Search) : Search :=
  if s.started && s.found.isNone && s.name == target then { s with found := some s.code } else s

/-- Reads on. -/
def step (target : List Char) (s : Search) (c : Char) : Search :=
  match s.jump with
  | some n =>
    if c == '@' then { s with code := n, jump := none, started := false }
    else
      let digit := if c.isDigit then c.toNat - '0'.toNat else c.toNat - 'a'.toNat + 10
      { s with jump := some (16 * n + digit) }
  | none =>
    if c == '@' then { s.close target with jump := some 0 }
    else if c == 'z' then { s with drop := s.drop + 25 }
    else if c.isLower then
      let s := s.close target
      { s with
        code := if s.started then s.code + 1 else s.code
        name := s.name.drop (s.drop + (c.toNat - 'a'.toNat))
        drop := 0
        started := true }
    else
      match phrases.find? (·.1 == c) with
      | some p => { s with name := p.2.toList.reverse ++ s.name }
      | none => { s with name := c :: s.name }

end Search

/-- The character of a name in a list, which has to be in upper case. -/
def search (list : List String) (name : List Char) : Option Nat :=
  let target := name.reverse
  (list.foldl (fun s line => line.toList.foldl (Search.step target) s) ({} : Search)).close target
    |>.found

/-! ## Computed names -/

/-- The names of the letters that start a Hangul syllable. -/
def leads : List String :=
  ["G", "GG", "N", "D", "DD", "R", "M", "B", "BB", "S", "SS", "", "J", "JJ", "C", "K", "T", "P", "H"]

/-- The names of the vowels of a Hangul syllable. -/
def vowels : List String :=
  ["A", "AE", "YA", "YAE", "EO", "E", "YEO", "YE", "O", "WA", "WAE", "OE", "YO", "U", "WEO", "WE",
    "WI", "YU", "EU", "YI", "I"]

/-- The names of the letters that end a Hangul syllable. -/
def tails : List String :=
  ["", "G", "GG", "GS", "N", "NJ", "NH", "D", "L", "LG", "LM", "LB", "LS", "LT", "LP", "LH", "M",
    "B", "BS", "S", "SS", "NG", "J", "C", "K", "T", "P", "H"]

/-- The longest of some names at the start of a text, by its number, and the rest of the text. -/
def longest? (names : List String) (text : List Char) : Option (Nat × List Char) :=
  (names.zipIdx.foldl (fun best n =>
      let length := n.1.length
      if n.1.toList.isPrefixOf text && (match best with
        | some (_, l) => l < length
        | none => true)
      then some (n.2, length) else best) none).map
    fun (i, length) => (i, text.drop length)

/-- The Hangul syllable of a name without its first two words. -/
def hangul? (text : List Char) : Option Nat := do
  let (lead, text) ← longest? leads text
  let (vowel, text) ← longest? vowels text
  let (tail, text) ← longest? tails text
  if text.isEmpty then some (0xAC00 + (lead * 21 + vowel) * 28 + tail) else none

/-- The code points of the unified ideographs. -/
def unifiedIdeographs : Ranges := [
  (0x3400, 0x4DBF), (0x4E00, 0x9FFF), (0x20000, 0x2A6DF), (0x2A700, 0x2B738), (0x2B740, 0x2B81D),
  (0x2B820, 0x2CEA1), (0x2CEB0, 0x2EBE0), (0x30000, 0x3134A)]

/-- The unified ideograph with the code point that a text spells. -/
def ideograph? (text : List Char) : Option Nat :=
  if (text.length == 4 || text.length == 5)
      && text.all (fun c => c.isDigit || ('A' ≤ c && c ≤ 'F')) then
    let n := text.foldl (fun n c =>
      16 * n + (if c.isDigit then c.toNat - '0'.toNat else c.toNat - 'A'.toNat + 10)) 0
    if unifiedIdeographs.contains n then some n else none
  else none

/-- The variation selector of an abbreviation without its first two letters. -/
def variationSelector? (text : List Char) : Option Nat :=
  if text.isEmpty || text.head? == some '0' || !text.all Char.isDigit then none
  else
    let n := text.foldl (fun n c => 10 * n + (c.toNat - '0'.toNat)) 0
    if 1 ≤ n && n ≤ 16 then some (0xFE00 + n - 1)
    else if 17 ≤ n && n ≤ 256 then some (0xE0100 + n - 17)
    else none

/-! ## All names -/

/-- The rest of a text after a beginning. -/
def after? (beginning : String) (text : List Char) : Option (List Char) :=
  if beginning.toList.isPrefixOf text then some (text.drop beginning.length) else none

/-- The lists of names. -/
def lists : List (List String) :=
  [alphabetNames, scriptNames, symbolNames, ideogramNames, ancientNames, notationNames]

/-- The character with a name. The case of the letters does not matter, except in computed names. -/
def codePoint? (name : String) : Option Nat :=
  let text := name.toList
  match after? "HANGUL SYLLABLE " text with
  | some rest => hangul? rest
  | none =>
    match after? "CJK UNIFIED IDEOGRAPH-" text with
    | some rest => ideograph? rest
    | none =>
      let upper := text.map Char.toUpper
      ((after? "VS" upper).bind variationSelector?).or
        (((aliases.find? (·.2.toList == upper)).map (·.1)).or
          (lists.findSome? fun l => search l upper))

end CharacterName

end ProposalCheck.Text
