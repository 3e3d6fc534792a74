import ProposalCheck.Markup.Character
import ProposalCheck.Pattern.Matching
import ProposalCheck.Pattern.Reading
import ProposalCheck.Text.Case
import ProposalCheck.Text.Lines

/-!
# Bare addresses

Addresses with a scheme and mail addresses become links without any markup. `findAll` finds them in
a text; `atStart?` reads the one that a text starts with. `mayContain` is a quick test that texts
without addresses fail.
-/

namespace ProposalCheck.Markup.Autolink

/-! ## Characters -/

/-- The text of a character in a set of a pattern. -/
private def escaped (n : Nat) : String :=
  "\\U" ++ String.ofList (Text.hexDigits 8 n)

/-- The text of some ranges in a set of a pattern. -/
private def rangesText (rs : Text.Ranges) : String :=
  String.join (rs.map fun r => escaped r.1 ++ "-" ++ escaped r.2)

private def separators : Text.Ranges := [
  (0x20, 0x20), (0xA0, 0xA0), (0x1680, 0x1680), (0x2000, 0x200A), (0x2028, 0x2029),
  (0x202F, 0x202F), (0x205F, 0x205F), (0x3000, 0x3000)]

private def controls : Text.Ranges := [(0, 0x1F), (0x7F, 0x9F)]

/-- White space and control characters. -/
private def space : String :=
  "(?-i:[" ++ rangesText (separators ++ controls) ++ "])"

/-- White space, control characters and punctuation. -/
private def spaceOrMark : String :=
  "(?-i:[" ++ rangesText (separators ++ controls ++ Text.strictPunctuation) ++ "])"

/-- Characters that stand in no address. -/
private def barrier : String := "[><\\uff5c]"

/-- A character of a word. -/
private def letter : String :=
  "(?:(?!" ++ barrier ++ "|" ++ spaceOrMark ++ ")[\\s\\S])"

/-! ## Parts of addresses -/

private def byte : String := "(25[0-5]|2[0-4][0-9]|[01]?[0-9][0-9]?)"

private def numericHost : String := "(?:" ++ byte ++ "\\.)\x7b3\x7d" ++ byte

private def credentials : String := "(?:(?:(?!" ++ space ++ "|[@/\\[\\]()]).)\x7b1,50\x7d@)?"

private def port : String :=
  "(?::(?:6(?:[0-4]\\d\x7b3\x7d|5(?:[0-4]\\d\x7b2\x7d|5(?:[0-2]\\d|3[0-5])))|[1-5]?\\d\x7b1,4\x7d))?"

private def hostEnd : String :=
  "(?=$|" ++ barrier ++ "|" ++ spaceOrMark ++ ")(?!-|_|:\\d|\\.-|\\.(?!$|" ++ spaceOrMark ++ "))"

private def path : String :=
  let part (opening closing : String) : String :=
    opening ++ "(?:(?!" ++ space ++ "|[" ++ closing ++ "]).)"
  "(?:[/?#](?:"
    ++ "|".intercalate [
      "(?!" ++ space ++ "|" ++ barrier ++ "|[()[\\]\x7b\x7d.,\"'?!\\-;]).",
      part "\\[" "\\]" ++ "*\\]",
      part "\\(" ")" ++ "*\\)",
      part "\\\x7b" "\x7d" ++ "*\\\x7d",
      part "\\\"" "\"" ++ "+\\\"",
      part "\\'" "'" ++ "+\\'",
      "\\'(?=" ++ letter ++ "|[-])",
      "\\.\x7b2,\x7d[a-zA-Z0-9%/&]",
      "\\.(?!" ++ space ++ "|[.]|$)",
      "\\-+",
      ",(?!" ++ space ++ "|$)",
      ";(?!" ++ space ++ "|$)",
      "\\!+(?!" ++ space ++ "|[!]|$)",
      "\\?(?!" ++ space ++ "|[?]|$)"]
    ++ ")+|\\/)?"

private def mailName : String :=
  "[\\-;:&=\\+\\$,\\.a-zA-Z0-9_][\\-;:&=\\+\\$,\\\"\\.a-zA-Z0-9_]\x7b0,63\x7d"

private def encodedLabel : String := "xn--[a-z0-9\\-]\x7b1,59\x7d"

private def lastLabel : String := "(?:" ++ encodedLabel ++ "|" ++ letter ++ "\x7b1,63\x7d)"

private def label : String :=
  "(?:" ++ encodedLabel ++ "|(?:" ++ letter ++ ")|(?:" ++ letter ++ "(?:-|" ++ letter
    ++ ")\x7b0,61\x7d" ++ letter ++ "))"

private def host : String := "(?:(?:(?:(?:" ++ label ++ ")\\.)*" ++ label ++ "))"

/-- The last labels of the domain names that are recognized without a scheme. -/
private def knownDomains : String :=
  "|".intercalate [
    "biz|com|edu|gov|net|org|pro|web|xxx|aero|asia|coop|info|museum|name|shop|рф",
    "a[cdefgilmnoqrstuwxz]|b[abdefghijmnorstvwyz]|c[acdfghiklmnoruvwxyz]|d[ejkmoz]|e[cegrstu]",
    "f[ijkmor]|g[abdefghilmnpqrstuwy]|h[kmnrtu]|i[delmnoqrst]|j[emop]|k[eghimnprwyz]",
    "l[abcikrstuvy]|m[acdeghklmnopqrstuvwxyz]|n[acefgilopruz]|om|p[aefghklmnrstwy]|qa|r[eosuw]",
    "s[abcdeghijklmnortuvxyz]|t[cdfghjklmnortvwz]|u[agksyz]|v[aceginu]|w[fs]|y[et]|z[amw]",
    encodedLabel]

private def knownHost : String :=
  "(?:" ++ numericHost ++ "|(?:(?:(?:" ++ label ++ ")\\.)+(?:" ++ knownDomains ++ ")))"

/-! ## Patterns -/

private def ofText (source : String) : Pattern :=
  .ofText ("(?i)" ++ source)

private def schemeText : String :=
  "(^|(?!_)(?:" ++ barrier ++ "|" ++ spaceOrMark ++ "))(http:|https:|ftp:|//|mailto:)"

/-- A scheme, at the start of a text or after a character that ends words. -/
private def scheme : Pattern := ofText schemeText

private def schemeAtStart : Pattern := ofText ("^" ++ schemeText)

/-- What follows the scheme of a web address. -/
private def web : Pattern :=
  ofText ("^\\/\\/" ++ credentials ++ host ++ port ++ hostEnd ++ path)

/-- What follows two slashes without a scheme. -/
private def bare : Pattern :=
  ofText ("^" ++ credentials ++ "(?:localhost|(?:(?:" ++ label ++ ")\\.)+" ++ lastLabel ++ ")" ++ port
    ++ hostEnd ++ path)

/-- What follows the scheme of a mail address. -/
private def mail : Pattern := ofText ("^" ++ mailName ++ "@" ++ host ++ hostEnd)

/-- A mail address without a scheme. -/
private def bareMail : Pattern :=
  ofText ("(^|" ++ barrier ++ "|\"|\\(|" ++ space ++ ")(" ++ mailName ++ "@" ++ knownHost ++ hostEnd
    ++ ")")

private def hint : Pattern :=
  ofText ("(" ++ schemeText ++ ")|(localhost|www\\.|\\.\\d\x7b1,3\x7d\\.|(?:\\.(?:" ++ knownDomains
    ++ ")(?:" ++ spaceOrMark ++ "|>|$)))|@")

/-! ## Finding addresses -/

/-- An address in a text: where it stands, and whether a scheme is part of it. -/
structure Found where
  start : Nat
  stop : Nat
  scheme : String
deriving DecidableEq, Repr, Inhabited

/-- The number of characters that a pattern takes at the start of a text. -/
private def lengthAtStart (p : Pattern) (text : Array Char) : Nat :=
  match p.find? text with
  | some m => m.stop
  | none => 0

/-- The number of characters after a scheme that belong to the address, zero if there is none. -/
def lengthAfter (text : Array Char) (name : String) (p : Nat) : Nat :=
  let tail := text.extract p text.size
  match name with
  | "http:" => lengthAtStart web tail
  | "https:" => lengthAtStart web tail
  | "ftp:" => lengthAtStart web tail
  | "mailto:" => lengthAtStart mail tail
  | "//" =>
    let before := if 3 ≤ p then text[p - 3]? else none
    if before == some ':' || before == some '/' then 0 else lengthAtStart bare tail
  | _ => 0

/-- The address whose scheme a match has found, if one follows. -/
private def ofMatch? (text : Array Char) (m : Pattern.Match) : Option Found :=
  match m.group? 2 with
  | none => none
  | some (start, stop) =>
    let name := Text.lowercase (String.ofList (slice text start stop))
    match lengthAfter text name m.stop with
    | 0 => none
    | n => some { start, stop := m.stop + n, scheme := name }

/-- The first address with a scheme from a position on. -/
private def firstWithScheme? (text : Array Char) (p : Nat) : Option Found :=
  if text.any fun c => c == ':' || c == '/' then
    (scheme.findAllFrom text (2 * text.size + 2) false p).findSome? (ofMatch? text)
  else none

/-- The first mail address without a scheme from a position on. -/
private def firstMail? (text : Array Char) (p : Nat) : Option Found :=
  if text.contains '@' then
    match bareMail.findFrom text false (text.size - p) p with
    | none => none
    | some m =>
      let start := match m.group? 1 with
        | some (_, stop) => stop
        | none => m.start
      some { start, stop := m.stop, scheme := "mailto:" }
  else none

/-- The first address from a position of a text on; of two that start together, the longer one. -/
def first? (text : Array Char) (p : Nat) : Option Found :=
  match firstWithScheme? text p, firstMail? text p with
  | none, m => m
  | a, none => a
  | some a, some m =>
    if m.start < a.start || (m.start == a.start && m.stop > a.stop) then some m else some a

/-- The addresses from a position on, at most `fuel` of them. -/
private def findFrom (text : Array Char) : Nat → Nat → List Found
  | 0, _ => []
  | fuel + 1, p =>
    match first? text p with
    | none => []
    | some f => f :: findFrom text fuel f.stop

/-- The addresses in a text, from left to right. -/
def findAll (text : Array Char) : List Found :=
  findFrom text (text.size + 1) 0

/-- The address that a text starts with, scheme included. -/
def atStart? (text : Array Char) : Option (List Char) :=
  match schemeAtStart.find? text with
  | none => none
  | some m => (ofMatch? text m).map fun f => slice text f.start f.stop

/-- Whether a text can contain addresses at all. -/
def mayContain (text : Array Char) : Bool :=
  (text.any fun c => c == ':' || c == '/' || c == '@') && (hint.find? text).isSome

end ProposalCheck.Markup.Autolink
