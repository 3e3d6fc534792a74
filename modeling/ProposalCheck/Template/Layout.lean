import ProposalCheck.Data.Shortest
import ProposalCheck.Text.Numeral

/-!
# How a value is laid out

A layout is the part of a field after its colon: fill and alignment, sign, width, separators,
precision and a letter for the kind of presentation. `Layout.text` lays out a text and
`Layout.number` a whole number.
-/

namespace ProposalCheck.Template

/-- The kinds of values that fill a field. -/
inductive Kind where
  | text
  | number
deriving DecidableEq, Repr, Inhabited

/-- The name of a kind. -/
def Kind.name : Kind → String
  | text => "str"
  | number => "int"

/-- Why a value cannot be laid out. -/
inductive LayoutError where
  | tooManyDigits
  | missingPrecision
  | bothSeparators
  | separatorWith (separator presentation : Char)
  /-- Something is left over. -/
  | invalid (spec : String) (kind : Kind)
  | unknownPresentation (c : Char) (kind : Kind)
  | signOnText (space : Bool)
  | zeroCoercionOnText
  | alternateOnText
  | innerPaddingOnText
  | precisionOnNumber
  | zeroCoercionOnNumber
  | signOnCharacter
  | alternateOnCharacter
  /-- The number is no character. -/
  | noCharacter
  | tooLargeForCharacter
  | tooLargeForReal
  | numeral (e : Text.NumeralError)
deriving DecidableEq, Repr, Inhabited

namespace LayoutError

/-- A character in the wording of an error. -/
private def shown (c : Char) : String :=
  if 32 < c.toNat && c.toNat < 128 then String.ofList [c]
  else "\\x" ++ String.ofList (Nat.toDigits 16 c.toNat)

/-- The wording of the error. -/
def message : LayoutError → String
  | tooManyDigits => "Too many decimal digits in format string"
  | missingPrecision => "Format specifier missing precision"
  | bothSeparators => "Cannot specify both ',' and '_'."
  | separatorWith s p => "Cannot specify '" ++ String.ofList [s] ++ "' with '" ++ shown p ++ "'."
  | invalid spec kind =>
    "Invalid format specifier '" ++ spec ++ "' for object of type '" ++ kind.name ++ "'"
  | unknownPresentation c kind =>
    "Unknown format code '" ++ shown c ++ "' for object of type '" ++ kind.name ++ "'"
  | signOnText true => "Space not allowed in string format specifier"
  | signOnText false => "Sign not allowed in string format specifier"
  | zeroCoercionOnText => "Negative zero coercion (z) not allowed in string format specifier"
  | alternateOnText => "Alternate form (#) not allowed in string format specifier"
  | innerPaddingOnText => "'=' alignment not allowed in string format specifier"
  | precisionOnNumber => "Precision not allowed in integer format specifier"
  | zeroCoercionOnNumber => "Negative zero coercion (z) not allowed in integer format specifier"
  | signOnCharacter => "Sign not allowed with integer format specifier 'c'"
  | alternateOnCharacter => "Alternate form (#) not allowed with integer format specifier 'c'"
  | noCharacter => "%c arg not in range(0x110000)"
  | tooLargeForCharacter => "Python int too large to convert to C long"
  | tooLargeForReal => "int too large to convert to float"
  | numeral e => e.message

end LayoutError

/-- How a value is laid out. -/
structure Layout where
  fill : Char := ' '
  align : Char
  sign : Option Char := none
  zeroCoercion : Bool := false
  alternate : Bool := false
  width : Nat := 0
  separator : Option Char := none
  precision : Option Nat := none
  presentation : Char
deriving DecidableEq, Repr, Inhabited

namespace Layout

/-! ## Reading -/

/-- Whether a character says on which side a value is filled up. -/
def isAlign (c : Char) : Bool :=
  c == '<' || c == '>' || c == '=' || c == '^'

/-- Takes a character off the front if it satisfies a test. -/
def takeIf (test : Char → Bool) : List Char → Option Char × List Char
  | c :: r => if test c then (some c, r) else (none, c :: r)
  | [] => (none, [])

/-- The greatest number of positions. -/
def maxCount : Nat := Nat.pow 2 63 - 1

/-- Takes a number off the front; the digits may be of any script. -/
def takeNumber (cs : List Char) : Except LayoutError (Option Nat × List Char) :=
  let digits := cs.takeWhile fun c => (Text.digitValue? c).isSome
  let n := digits.foldl (fun n c => 10 * n + (Text.digitValue? c).getD 0) 0
  if digits.isEmpty then .ok (none, cs)
  else if n > maxCount then .error .tooManyDigits
  else .ok (some n, cs.drop digits.length)

/-- Fill and alignment at the front of a layout. -/
def takeAlign (cs : List Char) : Option Char × Option Char × List Char :=
  match cs with
  | f :: a :: r =>
    if isAlign a then (some f, some a, r)
    else if isAlign f then (none, some f, a :: r)
    else (none, none, cs)
  | [a] => if isAlign a then (none, some a, []) else (none, none, cs)
  | [] => (none, none, [])

/-- Whether separators can stand between the digits of a presentation. -/
def allowsSeparator (separator presentation : Char) : Bool :=
  ['d', 'e', 'f', 'g', 'E', 'G', '%', 'F'].contains presentation
    || (separator == '_' && ['b', 'o', 'x', 'X'].contains presentation)

/-- Reads a layout for values of a kind. -/
def read (kind : Kind) (spec : List Char) : Except LayoutError Layout := do
  let (standard, side) := match kind with
    | .text => ('s', '<')
    | .number => ('d', '>')
  let (fill, align, cs) := takeAlign spec
  let (sign, cs) := takeIf (fun c => c == ' ' || c == '+' || c == '-') cs
  let (coercion, cs) := takeIf (· == 'z') cs
  let (alternate, cs) := takeIf (· == '#') cs
  let (zero, cs) := if fill.isNone then takeIf (· == '0') cs else (none, cs)
  let (width, cs) ← takeNumber cs
  let (comma, cs) := takeIf (· == ',') cs
  let (underscore, cs) := takeIf (· == '_') cs
  if underscore.isSome && (comma.isSome || cs.head? == some ',') then throw .bothSeparators
  let (point, cs) := takeIf (· == '.') cs
  let (precision, cs) ← if point.isSome then takeNumber cs else pure (none, cs)
  if point.isSome && precision.isNone then throw .missingPrecision
  let presentation ← match cs with
    | [] => pure standard
    | [c] => pure c
    | _ => throw (.invalid (String.ofList spec) kind)
  let separator := comma <|> underscore
  if let some s := separator then
    if !allowsSeparator s presentation then throw (.separatorWith s presentation)
  return {
    fill := if zero.isSome then '0' else fill.getD ' '
    align := match align with
      | some a => a
      | none => if zero.isSome && side == '>' then '=' else side
    sign, zeroCoercion := coercion.isSome, alternate := alternate.isSome
    width := width.getD 0, separator, precision, presentation }

/-! ## Filling up -/

/-- Fills a text up to the width. -/
def pad (l : Layout) (cs : List Char) : List Char :=
  let n := l.width - cs.length
  let left := if l.align == '>' then n else if l.align == '^' then n / 2 else 0
  List.replicate left l.fill ++ cs ++ List.replicate (n - left) l.fill

/-- Groups digits, the last one first, and adds zeros until they take a width. -/
def groupDigits (size : Nat) (separator : Char) : Nat → List Char → Int → List Char
  | 0, ds, _ => ds
  | fuel + 1, ds, width =>
    let n := Nat.min size (Nat.max (Nat.max ds.length width.toNat) 1)
    let chunk := ds.take n ++ List.replicate (n - ds.length) '0'
    let rest := ds.drop n
    let width := width - n
    if rest.isEmpty && width ≤ 0 then chunk
    else chunk ++ separator :: groupDigits size separator fuel rest (width - 1)

/-- Lays out a number given by its parts: digits that may be grouped and what follows them. -/
def assemble (l : Layout) (negative : Bool) (marker digits tail : List Char) : List Char :=
  let sign : List Char :=
    if negative then ['-']
    else match l.sign with
      | some '+' => ['+']
      | some ' ' => [' ']
      | _ => []
  let fixed := sign.length + marker.length + tail.length
  let width : Int := if l.fill == '0' && l.align == '=' then l.width - fixed else 0
  let grouped :=
    if digits.isEmpty then []
    else match l.separator with
      | none => List.replicate (width.toNat - digits.length) '0' ++ digits
      | some s =>
        let size := if ['b', 'o', 'x', 'X'].contains l.presentation then 4 else 3
        (groupDigits size s (digits.length + l.width + 1) digits.reverse width).reverse
  if l.align == '=' then
    let n := l.width - (fixed + grouped.length)
    sign ++ marker ++ List.replicate n l.fill ++ grouped ++ tail
  else l.pad (sign ++ marker ++ grouped ++ tail)

/-! ## Texts -/

/-- Lays out a text. -/
def text (l : Layout) (cs : List Char) : Except LayoutError (List Char) := do
  if l.presentation != 's' then throw (.unknownPresentation l.presentation .text)
  if let some c := l.sign then throw (.signOnText (c == ' '))
  if l.zeroCoercion then throw .zeroCoercionOnText
  if l.alternate then throw .alternateOnText
  if l.align == '=' then throw .innerPaddingOnText
  return l.pad (match l.precision with
    | some n => cs.take n
    | none => cs)

/-! ## Numbers -/

/-- The digits of a number. -/
def digitsIn (base n : Nat) : List Char :=
  Nat.toDigits base n

/-- The quotient rounded to the nearest number, half to even. -/
def roundDiv (n d : Nat) : Nat :=
  let q := n / d
  let r := n % d
  if 2 * r > d || (2 * r == d && q % 2 == 1) then q + 1 else q

/-- A number rounded to some digits after the first one: its digits and its decimal exponent. -/
def significant (n places : Nat) : List Char × Nat :=
  if n == 0 then (List.replicate (places + 1) '0', 0)
  else
    let count := (digitsIn 10 n).length
    if count ≤ places + 1 then
      (digitsIn 10 n ++ List.replicate (places + 1 - count) '0', count - 1)
    else
      let ds := digitsIn 10 (roundDiv n (Nat.pow 10 (count - 1 - places)))
      if ds.length > places + 1 then (ds.dropLast, count) else (ds, count - 1)

/-- Digits after a decimal point; without digits there is a point only in the alternate form. -/
def fraction (alternate : Bool) (ds : List Char) : List Char :=
  if ds.isEmpty then (if alternate then ['.'] else []) else '.' :: ds

/-- The digits without zeros at the end. -/
def trimZeros (ds : List Char) : List Char :=
  (ds.reverse.dropWhile (· == '0')).reverse

/-- The exponent of a number in scientific notation. -/
def exponentText (e : Nat) : List Char :=
  let ds := digitsIn 10 e
  'e' :: '+' :: List.replicate (2 - ds.length) '0' ++ ds

/-- The whole part and the rest of a number as a real one. -/
def realParts (presentation : Char) (precision : Nat) (alternate : Bool) (n : Nat) :
    List Char × List Char :=
  match presentation with
  | 'e' =>
    let (ds, e) := significant n precision
    (ds.take 1, fraction alternate (ds.drop 1) ++ exponentText e)
  | 'g' =>
    let places := Nat.max precision 1 - 1
    let (ds, e) := significant n places
    let trim (ds : List Char) := if alternate then ds else trimZeros ds
    if e ≤ places then (ds.take (e + 1), fraction alternate (trim (ds.drop (e + 1))))
    else (ds.take 1, fraction alternate (trim (ds.drop 1)) ++ exponentText e)
  | _ => (digitsIn 10 n, fraction alternate (List.replicate precision '0'))

/-- The whole number that a real one without fraction is; `none` for one that is not finite. -/
def wholeOf? (x : Float) : Option Nat :=
  match Data.Parts.ofBits x.toBits with
  | .finite _ m q => some (if q ≥ 0 then m * Nat.pow 2 q.toNat else m / Nat.pow 2 (-q).toNat)
  | _ => none

/-- Lays out a number as a real one. -/
def real (l : Layout) (n : Int) : Except LayoutError (List Char) := do
  let x := Data.nearestReal false n.natAbs 0
  let percent := l.presentation == '%'
  if (wholeOf? x).isNone then throw .tooLargeForReal
  let upper := l.presentation.isUpper
  let cased (cs : List Char) := if upper then cs.map Char.toUpper else cs
  let (digits, tail) := match wholeOf? (if percent then x * 100.0 else x) with
    | some m => realParts l.presentation.toLower (l.precision.getD 6) l.alternate m
    | none => ([], "inf".toList)
  return l.assemble (n < 0) [] (cased digits) (cased tail ++ if percent then ['%'] else [])

/-- Lays out a number as a character. -/
def character (l : Layout) (n : Int) : Except LayoutError (List Char) := do
  if l.sign.isSome then throw .signOnCharacter
  if l.alternate then throw .alternateOnCharacter
  if n < -(maxCount : Int) - 1 || maxCount < n then throw .tooLargeForCharacter
  if n < 0 || n > 0x10FFFF then throw .noCharacter
  return l.assemble false [] [] [Char.ofNat n.toNat]

/-- Lays out a number in a base other than ten; the alternate form marks the base. -/
def based (l : Layout) (base : Nat) (n : Int) : List Char :=
  let digits := digitsIn base n.natAbs
  l.assemble (n < 0) (if l.alternate then ['0', l.presentation] else [])
    (if l.presentation.isUpper then digits.map Char.toUpper else digits) []

/-- Lays out a whole number. -/
def number (l : Layout) (n : Int) : Except LayoutError (List Char) := do
  if ['e', 'E', 'f', 'F', 'g', 'G', '%'].contains l.presentation then l.real n
  else if !(['b', 'c', 'd', 'o', 'x', 'X', 'n'].contains l.presentation) then
    throw (.unknownPresentation l.presentation .number)
  else
    if l.precision.isSome then throw .precisionOnNumber
    if l.zeroCoercion then throw .zeroCoercionOnNumber
    match l.presentation with
    | 'c' => l.character n
    | 'b' => return l.based 2 n
    | 'o' => return l.based 8 n
    | 'x' => return l.based 16 n
    | 'X' => return l.based 16 n
    | _ =>
      let digits ← (Text.Numeral.write n.natAbs).mapError .numeral
      return l.assemble (n < 0) [] digits.toList []

end Layout

end ProposalCheck.Template
