import ProposalCheck.Text.Quoted

/-!
# Reading UTF-8

`Decoding.decode` reads the text that some bytes encode. Bytes that encode no text are refused, and
the error says where the first sequence is that no character has, and what is wrong with it.
-/

namespace ProposalCheck.Text

namespace Decoding

/-- What is wrong with a sequence of bytes. -/
inductive Fault where
  /-- No character starts with the byte. -/
  | start
  /-- The byte after the sequence does not continue it. -/
  | continuation
  /-- The bytes end before the character does. -/
  | ended
deriving DecidableEq, Repr, Inhabited

/-- The wording of a fault. -/
def Fault.text : Fault → String
  | start => "invalid start byte"
  | continuation => "invalid continuation byte"
  | ended => "unexpected end of data"

end Decoding

/-- Why bytes are not a text: the first of them that encode no character. -/
structure DecodingError where
  position : Nat
  bytes : List UInt8
  fault : Decoding.Fault
deriving DecidableEq, Repr, Inhabited

namespace DecodingError

/-- The wording of the error. -/
def message (e : DecodingError) : String :=
  let place := match e.bytes with
    | [b] => "byte 0x" ++ String.ofList (hexDigits 2 b.toNat) ++ " in position " ++ toString e.position
    | bs => "bytes in position " ++ toString e.position ++ "-" ++ toString (e.position + bs.length - 1)
  "'utf-8' codec can't decode " ++ place ++ ": " ++ e.fault.text

end DecodingError

namespace Decoding

/-- Whether a byte can stand inside a character. -/
def isInner (b : UInt8) : Bool :=
  0x80 ≤ b && b < 0xC0

/-- Whether a byte can follow the first byte of a character. -/
def canFollow (first b : UInt8) : Bool :=
  isInner b && (first != 0xE0 || 0xA0 ≤ b) && (first != 0xED || b < 0xA0)
    && (first != 0xF0 || 0x90 ≤ b) && (first != 0xF4 || b < 0x90)

/-- The number of bytes of a character after its first one. -/
def innerCount? (first : UInt8) : Option Nat :=
  if first < 0x80 then some 0
  else if 0xC2 ≤ first && first < 0xE0 then some 1
  else if 0xE0 ≤ first && first < 0xF0 then some 2
  else if 0xF0 ≤ first && first < 0xF5 then some 3
  else none

/-- The bytes that continue a character with this first byte. -/
def takeInner (first : UInt8) (bs : List UInt8) : List UInt8 :=
  match bs with
  | [] => []
  | b :: r => if canFollow first b then b :: r.takeWhile isInner else []

/-- The code point of a first byte and the bytes after it. -/
def codePoint (first : UInt8) (inner : List UInt8) : Nat :=
  let lead := match inner.length with
    | 0 => first.toNat
    | 1 => first.toNat % 32
    | 2 => first.toNat % 16
    | _ => first.toNat % 8
  inner.foldl (fun n b => 64 * n + b.toNat % 64) lead

/-- The character at the start of some bytes, with the number of bytes after its first one. -/
def readChar (first : UInt8) (rest : List UInt8) : Except (List UInt8 × Fault) (Char × Nat) :=
  match innerCount? first with
  | none => .error ([first], .start)
  | some n =>
    let present := rest.take n
    let inner := takeInner first present
    if inner.length < present.length then .error (first :: inner, .continuation)
    else if present.length < n then .error (first :: present, .ended)
    else .ok (Char.ofNat (codePoint first inner), n)

/-- The characters of bytes that start at a position. -/
def decodeFrom (position : Nat) : List UInt8 → Except DecodingError (List Char)
  | [] => .ok []
  | first :: rest =>
    match readChar first rest with
    | .error (bytes, fault) => .error { position, bytes, fault }
    | .ok (c, n) => (c :: ·) <$> decodeFrom (position + 1 + n) (rest.drop n)
termination_by bs => bs.length
decreasing_by
  simp only [List.length_drop, List.length_cons]
  omega

/-- The text that bytes encode. -/
def decode (bs : List UInt8) : Except DecodingError String :=
  String.ofList <$> decodeFrom 0 bs

end Decoding

end ProposalCheck.Text
