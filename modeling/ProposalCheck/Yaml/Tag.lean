import ProposalCheck.Text.Numeral
import ProposalCheck.Yaml.Moment

/-!
# What a text stands for

A tag says what kind of data a part of a document is. A text without quotes and without a tag is
told by its form: `Tag.ofText` has the forms of numbers, truth values, moments and the rest.
-/

namespace ProposalCheck.Yaml

/-- The kind of data that a part of a document is. -/
inductive Tag where
  | null
  | bool
  | int
  | real
  | binary
  | timestamp
  | orderedMap
  | pairs
  | set
  | text
  | seq
  | map
  /-- As a key: the entries of another mapping belong to this one. -/
  | merge
  /-- As a key: the value that stands for the whole mapping. -/
  | value
  /-- A kind of which nothing is known. -/
  | other
deriving DecidableEq, Repr, Inhabited

namespace Tag

/-- How the names of all known kinds start. -/
def stem : String := "tag:yaml.org,2002:"

/-- The known kinds with the ends of their names. -/
def names : List (String × Tag) := [
  ("null", null), ("bool", bool), ("int", int), ("float", real), ("binary", binary),
  ("timestamp", timestamp), ("omap", orderedMap), ("pairs", pairs), ("set", set), ("str", text),
  ("seq", seq), ("map", map), ("merge", merge), ("value", value)]

/-- The kind that a name stands for. -/
def ofName (name : String) : Tag :=
  ((names.find? fun e => stem ++ e.1 == name).map (·.2)).getD other

/-! ## Forms of texts -/

/-- A word in the three ways in which its letters are written. -/
def spellings (word : String) : List String :=
  [word, word.capitalize, word.toUpper]

/-- The truth values by the words for them. -/
def truthWords : List (String × Bool) :=
  [("yes", true), ("no", false), ("true", true), ("false", false), ("on", true), ("off", false)]

/-- Whether a text is a truth value. -/
def isBool (s : String) : Bool :=
  (truthWords.flatMap fun e => spellings e.1).contains s

/-- Whether a text stands for nothing. -/
def isNull (s : String) : Bool :=
  s.isEmpty || s == "~" || (spellings "null").contains s

/-- A digit, or an underscore between digits. -/
def isDigitOrGap (c : Char) : Bool :=
  c.isDigit || c == '_'

/-- Past digits and underscores that start with a digit; `none` if there is no digit. -/
def dropDigits? : List Char → Option (List Char)
  | c :: r => if c.isDigit then some (r.dropWhile isDigitOrGap) else none
  | [] => none

/-- Past groups of at most two digits below sixty, each after a colon. -/
def dropSixties : Nat → List Char → List Char
  | 0, cs => cs
  | fuel + 1, cs =>
    match cs with
    | ':' :: a :: b :: r =>
      if '0' ≤ a && a ≤ '5' && b.isDigit then dropSixties fuel r
      else if a.isDigit then dropSixties fuel (b :: r)
      else cs
    | [':', a] => if a.isDigit then [] else cs
    | _ => cs

/-- Past one such group at least. -/
def dropSixties? (cs : List Char) : Option (List Char) :=
  let rest := dropSixties (cs.length + 1) cs
  if rest.length < cs.length then some rest else none

/-- Whether characters are there and all of them pass a test. -/
def areAll (test : Char → Bool) (cs : List Char) : Bool :=
  !cs.isEmpty && cs.all test

/-- A hexadecimal digit, or an underscore between digits. -/
def isHexOrGap (c : Char) : Bool :=
  isDigitOrGap c || ('a' ≤ c && c ≤ 'f') || ('A' ≤ c && c ≤ 'F')

/-- Whether a text is a whole number: in base two, eight, ten, sixteen or sixty. -/
def isInt (cs : List Char) : Bool :=
  match (Text.Numeral.takeSign cs).2 with
  | '0' :: 'b' :: r => areAll (fun c => c == '0' || c == '1' || c == '_') r
  | '0' :: 'x' :: r => areAll isHexOrGap r
  | '0' :: r => r.all fun c => ('0' ≤ c && c ≤ '7') || c == '_'
  | body =>
    match dropDigits? body with
    | some [] => true
    | some rest => dropSixties? rest == some []
    | none => false

/-- Whether a text is an exponent with a sign, or nothing. -/
def isExponent : List Char → Bool
  | [] => true
  | e :: sign :: r =>
    (e == 'e' || e == 'E') && (sign == '-' || sign == '+') && areAll Char.isDigit r
  | _ => false

/-- Whether a text, after its sign, is a number with a point: in base ten or sixty. -/
def isPointed (body : List Char) : Bool :=
  match dropDigits? body with
  | some ('.' :: r) => isExponent (r.dropWhile isDigitOrGap)
  | some rest =>
    match dropSixties? rest with
    | some ('.' :: r) => r.all isDigitOrGap
    | _ => false
  | none => false

/-- Whether a text is a real number. -/
def isReal (cs : List Char) : Bool :=
  let body := (Text.Numeral.takeSign cs).2
  let word := String.ofList (body.drop 1)
  let special := body.head? == some '.'
  isPointed body
    || (special && ["inf", "Inf", "INF"].contains word)
    || (special && body.length == cs.length && ["nan", "NaN", "NAN"].contains word)
    || (special && body.length == cs.length && ((dropDigits? (body.drop 1)).map isExponent).getD false)

/-- The kind of a text without a tag. A line feed at its end plays no part. -/
def ofText (s : String) : Tag :=
  let cs := if s.endsWith "\n" && s != "\n" then s.toList.dropLast else s.toList
  let t := String.ofList cs
  if isBool t then bool
  else if isReal cs then real
  else if isInt cs then int
  else if t == "<<" then merge
  else if isNull t then null
  else if Moment.isWritten cs then timestamp
  else if t == "=" then value
  else if ["!", "&", "*"].contains t then other
  else text

end Tag

end ProposalCheck.Yaml
