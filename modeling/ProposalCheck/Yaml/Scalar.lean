import ProposalCheck.Text.Case
import ProposalCheck.Yaml.Tag

/-!
# The values of texts

`Scalar.value` builds the value that a text has under a tag. A tag may be written out where the text
has not the form for it, so that each kind has errors of its own.
-/

namespace ProposalCheck.Yaml.Scalar

open Data (Value)

/-- Texts between the occurrences of a colon. -/
def colonParts (s : String) : List String :=
  Text.splitOn ':' s

/-- The sum of numbers, each of which counts sixty times as much as the next one. -/
def sexagesimal (parts : List Int) : Int :=
  parts.foldl (fun n p => 60 * n + p) 0

/-- The sign of a number and the rest of its text, without underscores. A number needs a
character. -/
def splitSign (s : String) : Except Error (Bool × String) :=
  let cs := s.toList.filter (· != '_')
  if cs.isEmpty then .error .emptyNumber
  else
    let (negative, rest) := Text.Numeral.takeSign cs
    .ok (negative, String.ofList rest)

/-- A whole number in the base that its start tells. -/
def readMagnitude (s : String) : Except Error Int :=
  let read (base : Nat) (s : String) := (Text.Numeral.readBase base s).mapError Error.numeral
  match s.toList with
  | [] => .error .emptyNumber
  | ['0'] => .ok 0
  | '0' :: 'b' :: r => read 2 (String.ofList r)
  | '0' :: 'x' :: r => read 16 (String.ofList r)
  | '0' :: _ => read 8 s
  | cs =>
    if cs.contains ':' then sexagesimal <$> (colonParts s).mapM (read 10)
    else read 10 s

/-- A whole number. -/
def readInt (s : String) : Except Error Int := do
  let (negative, rest) ← splitSign s
  let n ← readMagnitude rest
  return if negative then -n else n

/-! ## Real numbers -/

/-- Digits of any script at the start of a text, and the rest. -/
def takeDigits (cs : List Char) : List Nat × List Char :=
  let digits := cs.takeWhile fun c => (Text.digitValue? c).isSome
  (digits.filterMap Text.digitValue?, cs.drop digits.length)

/-- The exponent at the end of a number. -/
def readExponent? : List Char → Option Int
  | [] => some 0
  | 'e' :: r =>
    let (negative, r) := Text.Numeral.takeSign r
    match takeDigits r with
    | ([], _) => none
    | (ds, []) =>
      let n : Int := Text.Numeral.ofDigits 10 0 ds
      some (if negative then -n else n)
    | _ => none
  | _ => none

/-- A number in base ten, in small letters, without a sign. -/
def readDecimal? (negative : Bool) (cs : List Char) : Option Float := do
  let (whole, r) := takeDigits cs
  let (part, r) := match r with
    | '.' :: r => takeDigits r
    | r => ([], r)
  if whole.isEmpty && part.isEmpty then failure
  let exponent ← readExponent? r
  let digits := Text.Numeral.ofDigits 10 0 (whole ++ part)
  return Data.nearestReal negative digits (exponent - part.length)

/-- The infinite number of a sign. -/
def infinite (negative : Bool) : Float :=
  if negative then -1.0 / 0.0 else 1.0 / 0.0

/-- The value that is no number. -/
def notANumber : Float := 0.0 / 0.0

/-- A real number in small letters, with blanks around it. -/
def readPart (s : String) : Except Error Float :=
  let (negative, body) := Text.Numeral.takeSign (Text.trim s).toList
  let word := String.ofList body
  if word == "inf" || word == "infinity" then .ok (infinite negative)
  else if word == "nan" then .ok notANumber
  else match readDecimal? negative body with
    | some x => .ok x
    | none => .error (.notReal s)

/-- The sum of real numbers, each of which counts sixty times as much as the next one. -/
def realSexagesimal (parts : List Float) : Float :=
  (parts.reverse.zipIdx.map fun p => p.1 * Data.nearestReal false (Nat.pow 60 p.2) 0).foldl (· + ·) 0.0

/-- The greatest number of places in base sixty: the next one would count more than any
real number. -/
def maxPlaces : Nat := 174

/-- A real number. -/
def readReal (s : String) : Except Error Float := do
  let (negative, rest) ← splitSign (Text.lowercase s)
  let signed (x : Float) : Float := if negative then -x else x
  if rest == ".inf" then return infinite negative
  else if rest == ".nan" then return notANumber
  else if rest.toList.contains ':' then
    let parts ← (colonParts rest).mapM readPart
    unless parts.length ≤ maxPlaces do throw .tooManyPlaces
    return signed (realSexagesimal parts)
  else return signed (← readPart rest)

/-- Whether a text is the word for the value that is no number. -/
def isCommonNaN (s : String) : Bool :=
  match splitSign (Text.lowercase s) with
  | .ok (_, rest) => rest == ".nan"
  | .error _ => false

/-! ## Other kinds -/

/-- A truth value. -/
def readBool (s : String) : Except Error Bool :=
  let word := Text.lowercase s
  match Tag.truthWords.find? fun e => e.1 == word with
  | some e => .ok e.2
  | none => .error (.notBool word)

/-- The six bits that a character stands for in bytes written as text. -/
def sixBits? (c : Char) : Option Nat :=
  if c.isUpper then some (c.toNat - 'A'.toNat)
  else if c.isLower then some (c.toNat - 'a'.toNat + 26)
  else if c.isDigit then some (c.toNat - '0'.toNat + 52)
  else if c == '+' then some 62
  else if c == '/' then some 63
  else none

/-- Reads bytes written as text. Four characters give three bytes, of which the last ones may be
left out with a filling of equals signs; other characters are passed over. `place` is the place in
such a group, `rest` the bits that have not been used, and `filling` the number of equals signs
since the last character. -/
def readBytes (place rest filling : Nat) : List Char → Except Error (List UInt8)
  | [] => if place == 0 then .ok [] else .error .malformed
  | c :: r =>
    if c == '=' then
      if 2 ≤ place then
        if 4 ≤ place + filling + 1 then .ok [] else readBytes place rest (filling + 1) r
      else readBytes place rest filling r
    else match sixBits? c with
      | none => readBytes place rest filling r
      | some n =>
        match place with
        | 0 => readBytes 1 n 0 r
        | 1 => ((rest * 4 + n / 16).toUInt8 :: ·) <$> readBytes 2 (n % 16) 0 r
        | 2 => ((rest * 16 + n / 4).toUInt8 :: ·) <$> readBytes 3 (n % 4) 0 r
        | _ => ((rest * 64 + n).toUInt8 :: ·) <$> readBytes 0 0 0 r

/-- Bytes written as text, which is ASCII. -/
def readBinary (s : String) : Except Error (List UInt8) :=
  if s.toList.all (·.toNat < 0x80) then readBytes 0 0 0 s.toList else .error .malformed

/-- A day or a moment. A line feed at its end plays no part. -/
def readTimestamp (s : String) : Except Error Data.Timestamp := do
  let cs := if s.endsWith "\n" then s.toList.dropLast else s.toList
  match Moment.read? cs with
  | some m => m.toTimestamp.mapError .date
  | none => throw .notTimestamp

/-- The value of a text under a tag. Tags of lists and mappings do not fit a text. -/
def value (t : Tag) (s : String) : Except Error Value :=
  match t with
  | .null => .ok .null
  | .bool => .bool <$> readBool s
  | .int => .int <$> readInt s
  | .real => .real <$> readReal s
  | .binary => .bytes <$> readBinary s
  | .timestamp => .timestamp <$> readTimestamp s
  | .text => .ok (.text s)
  | _ => .error .malformed

end ProposalCheck.Yaml.Scalar
