import ProposalCheck.Markup.Character
import ProposalCheck.Markup.Punycode
import ProposalCheck.Text.Blank
import ProposalCheck.Text.Case
import ProposalCheck.Text.Lines

/-!
# Addresses

`Url.parse` takes an address apart and `Url.format` puts it together. On top of these stand the form
in which an address is stored (`Url.normalize`: host names in ASCII, other characters in percent
notation), the form in which it is shown (`Url.display`), and the addresses that no link may have.
-/

namespace ProposalCheck.Markup

/-- The parts of an address. -/
structure Url where
  scheme : Option (List Char) := none
  slashes : Bool := false
  auth : Option (List Char) := none
  port : Option (List Char) := none
  host : Option (List Char) := none
  path : List Char := []
  query : List Char := []
  fragment : List Char := []
deriving DecidableEq, Repr, Inhabited

namespace Url

/-! ## Parts -/

/-- The text before the first of some characters, and the rest. -/
def cutAt (stops : Char → Bool) (cs : List Char) : List Char × List Char :=
  cs.span fun c => !stops c

/-- The text before the last occurrence of a character and the text after it. -/
def cutLast? (c : Char) (cs : List Char) : Option (List Char × List Char) :=
  match cs.reverse.span (· != c) with
  | (_, []) => none
  | (after, _ :: before) => some (before.reverse, after.reverse)

/-- Whether a character may stand in a scheme. -/
def isSchemeChar (c : Char) : Bool :=
  c.isAlphanum || c == '.' || c == '+' || c == '-' || c == '\u0131' || c == '\u017F'
    || c == '\u0130' || c == '\u212A'

/-- The scheme at the start of an address, colon included, and the rest. -/
def takeScheme (cs : List Char) : Option (List Char) × List Char :=
  match cs.span isSchemeChar with
  | (scheme@(_ :: _), ':' :: rest) => (some (scheme ++ [':']), rest)
  | _ => (none, cs)

/-- Whether no host follows a scheme. -/
def isHostless (scheme : List Char) : Bool :=
  scheme == "javascript:".toList

/-- Whether two slashes stand between a scheme and its host. -/
def isSlashed (scheme : List Char) : Bool :=
  ["http:", "https:", "ftp:", "gopher:", "file:"].any (·.toList == scheme)

/-- Whether a character ends a host name. -/
def endsHost (c : Char) : Bool :=
  "%/?;#'\x7b\x7d|\\^`<>\" \r\n\t".toList.contains c

/-- Whether a character may stand in a host name. -/
def isHostChar (c : Char) : Bool :=
  c.isAlphanum || c == '+' || c == '-' || c == '_'

/-- Whether a label of a host name has allowed characters only, and not too many. -/
def isHostLabel (label : List Char) : Bool :=
  label.all isHostChar && label.length ≤ 63

/-- The labels up to the first one that is not allowed, cut where it stops to be; and what remains
of the labels. Labels may hold any character outside ASCII. -/
def validLabels : List (List Char) → List (List Char) × List (List Char)
  | [] => ([], [])
  | label :: labels =>
    let ascii := label.map fun c => if c.toNat > 127 then 'x' else c
    if label.isEmpty || isHostLabel label || isHostLabel ascii then
      let (good, rest) := validLabels labels
      (label :: good, rest)
    else
      let good := (label.take 63).takeWhile isHostChar
      ([good], label.drop good.length :: labels)

/-- Host name and port of the text between them and the path. -/
def splitPort (host : List Char) : List Char × Option (List Char) :=
  match cutLast? ':' host with
  | some (name, port) =>
    if port.all Char.isDigit then (name, if port.isEmpty then none else some port)
    else (host, none)
  | none => (host, none)

/-- Host, credentials and port at the start of a text, and the rest. -/
def takeHost (cs : List Char) :
    Option (List Char) × List Char × Option (List Char) × List Char :=
  let (authority, _) := cutAt (fun c => c == '/' || c == '?' || c == '#') cs
  let (auth, cs) :=
    match cutLast? '@' authority with
    | some (auth, _) => (some auth, cs.drop (auth.length + 1))
    | none => (none, cs)
  let (host, rest) := cutAt endsHost cs
  let (host, rest) :=
    match host.getLast? with
    | some ':' => (host.dropLast, ':' :: rest)
    | _ => (host, rest)
  let (name, port) := splitPort host
  if name.head? == some '[' && name.getLast? == some ']' then
    let name := if name.length > 255 then [] else name
    (auth, name.drop 1 |>.dropLast, port, rest)
  else
    let (good, bad) := validLabels (Text.split '.' name)
    let rest := if bad.isEmpty then rest else ['.'].intercalate bad ++ rest
    let name := ['.'].intercalate good
    (auth, if name.length > 255 then [] else name, port, rest)

/-- The parts of an address. Two slashes in front always announce a host. -/
def parse (address : List Char) : Url :=
  let rest := Text.trimChars address
  let (scheme, rest) := takeScheme rest
  let hostless := match scheme with
    | some s => isHostless s
    | none => false
  let announced := Text.startsWith ['/', '/'] rest
  let rest := if announced && !hostless then rest.drop 2 else rest
  let hasHost := !hostless && (announced || match scheme with
    | some s => !isSlashed s
    | none => false)
  let (auth, host, port, rest) :=
    if hasHost then
      let (auth, host, port, rest) := takeHost rest
      (auth, some host, port, rest)
    else (none, none, none, rest)
  let (rest, fragment) := cutAt (· == '#') rest
  let (path, query) := cutAt (· == '?') rest
  { scheme, slashes := announced && !hostless, auth, port, host, path, query, fragment }

/-- The part of an address in front of its host. -/
def beforeHost (u : Url) : List Char :=
  let auth := match u.auth with
    | some a => if a.isEmpty then [] else a ++ ['@']
    | none => []
  u.scheme.getD [] ++ (if u.slashes then ['/', '/'] else []) ++ auth

/-- The part of an address behind its host. -/
def afterHost (u : Url) : List Char :=
  let port := match u.port with
    | some p => if p.isEmpty then [] else ':' :: p
    | none => []
  port ++ u.path ++ u.query ++ u.fragment

/-- The address of some parts, each part written by `write`. A host with a colon stands in square
brackets, which are not part of it. -/
def formatWith (write : List Char → List Char) (u : Url) : List Char :=
  let host := u.host.getD []
  let written := write host
  write u.beforeHost ++ (if host.contains ':' then '[' :: written ++ [']'] else written)
    ++ write u.afterHost

/-- The address of some parts. -/
def format (u : Url) : List Char :=
  u.formatWith id

/-! ## Percent notation -/

/-- The digits of a byte in hexadecimal. -/
def hexByte (n : Nat) : List Char :=
  let digit (d : Nat) : Char := if d < 10 then Char.ofNat (d + 48) else Char.ofNat (d + 55)
  [digit (n / 16), digit (n % 16)]

/-- Whether a character is a hexadecimal digit. -/
def isHex (c : Char) : Bool :=
  c.isDigit || ('a' ≤ c && c ≤ 'f') || ('A' ≤ c && c ≤ 'F')

/-- The value of a hexadecimal digit. -/
def hexValue (c : Char) : Nat :=
  if c.isDigit then c.toNat - 48 else if c.isUpper then c.toNat - 55 else c.toNat - 87

/-- A character in percent notation. -/
def percent (c : Char) : List Char :=
  (String.ofList [c]).toUTF8.toList.flatMap fun b => '%' :: hexByte b.toNat

/-- Whether a character stands for itself in an address. -/
def isPlain (c : Char) : Bool :=
  c.isAlphanum || ";/?:@&=+$,-_.!~*'()#".toList.contains c

/-- An address with all other characters in percent notation; what is in it already is kept. -/
def encode : List Char → List Char
  | '%' :: a :: b :: r =>
    if isHex a && isHex b then '%' :: a :: b :: encode r else "%25".toList ++ encode (a :: b :: r)
  | c :: r => (if isPlain c then [c] else percent c) ++ encode r
  | [] => []

/-- The character that a sequence of bytes encodes. -/
def decodeBytes? (bs : List Nat) : Option Char :=
  let bytes := ByteArray.mk (bs.map UInt8.ofNat).toArray
  match String.fromUTF8? bytes with
  | some s => match s.toList with
    | [c] => some c
    | _ => none
  | none => none

/-- Whether a byte continues a character. -/
def isContinuation (b : Nat) : Bool :=
  0x80 ≤ b && b < 0xC0

/-- The number of bytes of the character that a byte starts, if it starts a long one. -/
def sequenceLength? (b : Nat) : Option Nat :=
  if 0xC0 ≤ b && b < 0xE0 then some 2
  else if 0xE0 ≤ b && b < 0xF0 then some 3
  else if 0xF0 ≤ b && b < 0xF8 then some 4
  else none

/-- The characters of some bytes. What encodes no character becomes replacement characters, and
characters that have a meaning in an address stay in percent notation. -/
def decodeRun : Nat → List Nat → List Char
  | 0, _ => []
  | _, [] => []
  | fuel + 1, b :: bs =>
    if b < 0x80 then
      let c := Char.ofNat b
      (if ";/?:@&=+$,#%".toList.contains c then '%' :: hexByte b else [c]) ++ decodeRun fuel bs
    else
      let single := '\uFFFD' :: decodeRun fuel bs
      match sequenceLength? b with
      | none => single
      | some n =>
        let tail := bs.take (n - 1)
        if tail.length == n - 1 && tail.all isContinuation then
          (match decodeBytes? (b :: tail) with
            | some c => [c]
            | none => List.replicate n '\uFFFD') ++ decodeRun fuel (bs.drop (n - 1))
        else single

/-- The bytes in percent notation at the start of a text, and the rest. -/
def takePercent : List Char → List Nat × List Char
  | '%' :: a :: b :: r =>
    if isHex a && isHex b then
      let (bs, rest) := takePercent r
      ((16 * hexValue a + hexValue b) :: bs, rest)
    else ([], '%' :: a :: b :: r)
  | cs => ([], cs)

/-- An address with percent notation replaced by the characters it stands for. -/
def decodeFrom : Nat → List Char → List Char
  | 0, cs => cs
  | _, [] => []
  | fuel + 1, c :: r =>
    match takePercent (c :: r) with
    | ([], _) => c :: decodeFrom fuel r
    | (bs, rest) => decodeRun bs.length bs ++ decodeFrom fuel rest

/-- An address with percent notation replaced by the characters it stands for. -/
def decode (cs : List Char) : List Char :=
  decodeFrom (cs.length + 1) cs

/-! ## Stored and shown form -/

/-- Whether the host of an address is a domain name that may be written in two ways. -/
def hasDomain (u : Url) : Bool :=
  (match u.host with
    | some h => !h.isEmpty
    | none => false) &&
  match u.scheme with
  | none => true
  | some s => s.isEmpty || ["http:", "https:", "mailto:"].any (·.toList == s)

/-- Changes each label of a host name; a part before an at sign is kept. Fails where a
label does. -/
def mapLabels? (f : List Char → Option (List Char)) (host : List Char) : Option (List Char) := do
  let (local', host) := match Text.split '@' host with
    | a :: b :: _ => (a ++ ['@'], b)
    | _ => ([], host)
  let dots := host.map fun c => if c == '\u3002' || c == '\uFF0E' || c == '\uFF61' then '.' else c
  let labels ← (Text.split '.' dots).mapM f
  return local' ++ ['.'].intercalate labels

/-- An address with another host name, if there is one. -/
def withHost (u : Url) (f : List Char → Option (List Char)) : Url :=
  if u.hasDomain then
    match u.host.bind (mapLabels? f) with
    | some h => { u with host := some h }
    | none => u
  else u

/-- A label in ASCII. -/
def labelToAscii (label : List Char) : Option (List Char) :=
  some (if label.any fun c => c.toNat > 0x7E then "xn--".toList ++ Punycode.encode label else label)

/-- A label in its own characters. -/
def labelToUnicode (label : List Char) : Option (List Char) :=
  if Text.startsWith "xn--".toList label then
    Punycode.decode (label.drop 4 |>.map Text.toLower)
  else some label

/-- The form in which an address is stored. -/
def normalize (address : List Char) : List Char :=
  ((parse address).withHost labelToAscii).formatWith encode

/-- The form in which an address is shown. -/
def display (address : List Char) : List Char :=
  decode ((parse address).withHost labelToUnicode).format

/-- Whether a link may lead to an address: no scripts and local files, and of embedded data only
images. -/
def isAllowed (address : List Char) : Bool :=
  let url := (Text.lowercase (String.ofList (Text.trimChars address))).toList
  let starts (s : String) : Bool := Text.startsWith s.toList url
  if ["vbscript:", "javascript:", "file:", "data:"].any starts then
    ["gif", "png", "jpeg", "webp"].any fun kind => starts ("data:image/" ++ kind ++ ";")
  else true

end Url

end ProposalCheck.Markup
