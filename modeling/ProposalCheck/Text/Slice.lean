import ProposalCheck.Text.Decoding

/-!
# Slices of bytes

Leading slices of the encoding of a text, in terms of bytes: `ceilByte` moves the end of a slice
behind the bytes that stand inside a character, and `decodeSlice?` reads such a slice with the
decoder that refuses what is no text.
-/

namespace ProposalCheck.Text

/-- The bytes that encode some characters. -/
def encode (cs : List Char) : List UInt8 :=
  cs.flatMap String.utf8EncodeChar

/-- A byte offset, moved behind the bytes from there on that stand inside a character. Offsets
outside the bytes count as their ends. -/
def ceilByte (bytes : List UInt8) (offset : Int) : Nat :=
  if bytes.length ≤ offset then bytes.length
  else if offset ≤ 0 then 0
  else offset.toNat + ((bytes.drop offset.toNat).takeWhile Decoding.isInner).length

/-- The characters that the bytes before an offset encode, when it has been moved behind the bytes
inside a character. -/
def decodeSlice? (cs : List Char) (offset : Int) : Option (List Char) :=
  let bytes := encode cs
  (Decoding.decodeFrom 0 (bytes.take (ceilByte bytes offset))).toOption

end ProposalCheck.Text
