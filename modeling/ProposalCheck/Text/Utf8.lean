/-!
# Positions in the UTF-8 encoding of a text

Ranges in diagnostics are byte offsets into the UTF-8 encoding. `byteOffset` turns a character
position into a byte offset, `ceilBoundary` rounds a byte offset up to the start of a character, and
`decodePrefix?` reads the characters of a leading slice of bytes, which fails when the slice ends
inside a character. `charsBefore?` rounds first, which makes the reading succeed:
`charsBefore?_isSome`.
-/

namespace ProposalCheck.Text

/-- The number of bytes of the UTF-8 encoding of some characters. -/
def byteLength : List Char → Nat
  | [] => 0
  | c :: r => c.utf8Size + byteLength r

@[simp] theorem byteLength_nil : byteLength [] = 0 := rfl

@[simp] theorem byteLength_cons (c : Char) (r : List Char) :
    byteLength (c :: r) = c.utf8Size + byteLength r := rfl

@[simp] theorem byteLength_append (a b : List Char) :
    byteLength (a ++ b) = byteLength a + byteLength b := by
  induction a with
  | nil => simp
  | cons c r ih => simp [ih, Nat.add_assoc]

/-- The byte offset of a character position; positions outside the text count as its ends. -/
def byteOffset (cs : List Char) (index : Int) : Nat :=
  byteLength (cs.take index.toNat)

/-- The least start of a character, or end of the text, that is not before a byte offset. An offset
past the end gives the end. -/
def ceilBoundary : List Char → Int → Nat
  | [], _ => 0
  | c :: r, i => if i ≤ 0 then 0 else c.utf8Size + ceilBoundary r (i - c.utf8Size)

/-- The characters whose encoding is the first `n` bytes; `none` when a character is split there. -/
def decodePrefix? : List Char → Nat → Option (List Char)
  | _, 0 => some []
  | [], _ + 1 => none
  | c :: r, n + 1 =>
    if c.utf8Size ≤ n + 1 then (decodePrefix? r (n + 1 - c.utf8Size)).map (c :: ·) else none

@[simp] theorem decodePrefix?_zero (cs : List Char) : decodePrefix? cs 0 = some [] := by
  cases cs <;> rfl

/-- The bytes of whole characters decode to these characters. -/
theorem decodePrefix?_byteLength_append (a b : List Char) :
    decodePrefix? (a ++ b) (byteLength a) = some a := by
  induction a with
  | nil => simp
  | cons c r ih =>
    have hc : 0 < c.utf8Size := Char.utf8Size_pos c
    obtain ⟨n, hn⟩ : ∃ n, c.utf8Size + byteLength r = n + 1 := ⟨c.utf8Size + byteLength r - 1, by omega⟩
    simp only [List.cons_append, byteLength_cons, hn, decodePrefix?]
    rw [if_pos (by omega), show n + 1 - c.utf8Size = byteLength r by omega, ih]
    rfl

/-- Rounding up ends at the bytes of whole characters. -/
theorem exists_ceilBoundary (cs : List Char) (i : Int) :
    ∃ a b, cs = a ++ b ∧ ceilBoundary cs i = byteLength a := by
  induction cs generalizing i with
  | nil => exact ⟨[], [], rfl, rfl⟩
  | cons c r ih =>
    simp only [ceilBoundary]
    split
    · exact ⟨[], c :: r, rfl, rfl⟩
    · obtain ⟨a, b, h, e⟩ := ih (i - c.utf8Size)
      exact ⟨c :: a, b, by simp [h], by simp [e]⟩

/-- The characters before a byte offset, which is rounded up to the start of a character. -/
def charsBefore? (cs : List Char) (offset : Int) : Option (List Char) :=
  decodePrefix? cs (ceilBoundary cs offset)

/-- No character is split at a rounded offset. -/
theorem charsBefore?_isSome (cs : List Char) (offset : Int) : (charsBefore? cs offset).isSome := by
  obtain ⟨a, b, h, e⟩ := exists_ceilBoundary cs offset
  rw [charsBefore?, e, h, decodePrefix?_byteLength_append]
  rfl

/-- The byte range of `length` characters from character `start` on. -/
def byteRange (cs : List Char) (start length : Int) : Nat × Nat :=
  (byteOffset cs start, byteOffset cs (start + length))

end ProposalCheck.Text
