import Mathlib.Order.Bounds.Basic
import ProposalCheck.Proofs.Annotations

/-!
# Characters as bytes

`Level.spanChars_survives`: the bytes of a range of characters are read as just these characters, the
ends of the range keep the order of the positions from which they come, and moving an offset behind
the bytes inside a character gives the least boundary that is not before it.

A boundary is the number of bytes of the characters in front of it, and so a larger one if more
characters are in front (`Text.byteOffset_mono`). Rounding goes through the characters of a text one
by one, and stops at the first boundary that is not before the offset (`Text.le_ceilBoundary`,
`Text.ceilBoundary_le`).
-/

namespace ProposalCheck

namespace Text

/-! ### Positions of characters -/

/-- The characters of a text whose indices are in a range, the end of which is left out. -/
def charsWithin (cs : List Char) (start stop : Int) : List Char :=
  (cs.zipIdx.filter fun p => start ≤ p.2 ∧ (p.2 : Int) < stop).map (·.1)

theorem filter_zipIdx (cs : List Char) (start stop : Int) (index : Nat) :
    ((cs.zipIdx index).filter fun p => start ≤ p.2 ∧ (p.2 : Int) < stop).map (·.1)
      = (cs.take (stop - index).toNat).drop (start - index).toNat := by
  induction cs generalizing index with
  | nil => simp
  | cons c r ih =>
    have hnext := ih (index + 1)
    rw [List.zipIdx_cons, List.filter_cons]
    by_cases hstop : (index : Int) < stop
    · obtain ⟨m, hm⟩ : ∃ m, (stop - index).toNat = m + 1 := ⟨(stop - index).toNat - 1, by omega⟩
      have hm' : (stop - (index + 1 : Nat)).toNat = m := by omega
      rw [hm'] at hnext
      rw [hm, List.take_succ_cons]
      by_cases hstart : start ≤ index
      · have hzero : (start - index).toNat = 0 := by omega
        have hzero' : (start - (index + 1 : Nat)).toNat = 0 := by omega
        rw [hzero', List.drop_zero] at hnext
        rw [if_pos (by simp [hstart, hstop]), List.map_cons, hnext, hzero, List.drop_zero]
      · obtain ⟨n, hn⟩ : ∃ n, (start - index).toNat = n + 1 := ⟨(start - index).toNat - 1, by omega⟩
        have hn' : (start - (index + 1 : Nat)).toNat = n := by omega
        rw [hn'] at hnext
        rw [if_neg (by simp [hstart]), hnext, hn, List.drop_succ_cons]
    · have hzero : (stop - index).toNat = 0 := by omega
      have hzero' : (stop - (index + 1 : Nat)).toNat = 0 := by omega
      rw [hzero', List.take_zero, List.drop_nil] at hnext
      rw [if_neg (by simp [hstop]), hnext, hzero, List.take_zero, List.drop_nil]

theorem charsWithin_eq (cs : List Char) (start stop : Int) :
    charsWithin cs start stop = (cs.take stop.toNat).drop start.toNat := by
  have h := filter_zipIdx cs start stop 0
  simp only [Int.natCast_zero, Int.sub_zero] at h
  exact h

theorem byteOffset_mono (cs : List Char) {i j : Int} (h : i ≤ j) :
    byteOffset cs i ≤ byteOffset cs j := by
  have hle : i.toNat ≤ j.toNat := by omega
  exact byteLength_take_le cs hle

/-! ### Rounding up -/

theorem le_ceilBoundary {cs : List Char} {i : Int} (h : i ≤ byteLength cs) :
    i ≤ ceilBoundary cs i := by
  induction cs generalizing i with
  | nil => exact h
  | cons c r ih =>
    rw [byteLength_cons] at h
    rw [ceilBoundary]
    split
    · assumption
    · have hrest : i - c.utf8Size ≤ byteLength r := by omega
      have hle := ih hrest
      omega

theorem ceilBoundary_le {before after : List Char} {i : Int} (h : i ≤ byteLength before) :
    ceilBoundary (before ++ after) i ≤ byteLength before := by
  induction before generalizing i with
  | nil =>
    -- nothing is in front of the boundary, so that the offset is no later than the start
    cases after with
    | nil => exact Nat.le_refl 0
    | cons c r =>
      have hi : i ≤ 0 := h
      rw [List.nil_append, ceilBoundary, if_pos hi]
      exact Nat.zero_le _
  | cons c r ih =>
    rw [byteLength_cons] at h
    rw [List.cons_append, ceilBoundary, byteLength_cons]
    split
    · exact Nat.zero_le _
    · have hrest : i - c.utf8Size ≤ byteLength r := by omega
      have hle := ih hrest
      omega

/-- Rounding gives the first boundary that is not before an offset inside a text. -/
theorem isLeast_ceilBoundary {cs : List Char} {i : Int} (h : i ≤ byteLength cs) :
    IsLeast {b : Int | IsBoundary cs b ∧ i ≤ b} (ceilBoundary cs i) := by
  obtain ⟨before, after, hcs, hboundary⟩ := exists_ceilBoundary cs i
  constructor
  · exact ⟨⟨before, after, hcs, congrArg _ hboundary⟩, le_ceilBoundary h⟩
  · rintro b ⟨⟨before', after', hcs', rfl⟩, hle⟩
    rw [hcs']
    exact Int.ofNat_le.2 (ceilBoundary_le hle)

theorem ceilBoundary_of_ge {cs : List Char} {i : Int} (h : byteLength cs ≤ i) :
    ceilBoundary cs i = byteLength cs := by
  induction cs generalizing i with
  | nil => rfl
  | cons c r ih =>
    have hpos : 0 < c.utf8Size := Char.utf8Size_pos c
    rw [byteLength_cons] at h
    have hrest : byteLength r ≤ i - c.utf8Size := by omega
    rw [ceilBoundary, if_neg (by omega), ih hrest, byteLength_cons]

theorem ceilBoundary_byteOffset (cs : List Char) (index : Int) :
    ceilBoundary cs (byteOffset cs index) = byteOffset cs index := by
  have hlength : (byteOffset cs index : Int) ≤ byteLength cs :=
    Int.ofNat_le.2 (byteOffset_le cs index)
  have hleast := (isLeast_ceilBoundary hlength).2 ⟨isBoundary_byteOffset cs index, le_refl _⟩
  have hle := le_ceilBoundary hlength
  omega

end Text

/-! ### Ranges of characters -/

namespace Level

/-- The bytes of a range of characters are read as just these characters; the ends of the range move
up with the positions of the characters; and an offset is rounded up to the least boundary that is
not before it, or else to the end, which leaves the offset of a character as it is. -/
theorem spanChars_survives (level : Level) (text : String) (start : Int) {length : Int}
    (h : 0 ≤ length) :
    (level.spanChars text start length).Fits text ∧
      Text.Decoding.decode ((level.spanChars text start length).bytes text)
        = .ok (String.ofList (Text.charsWithin text.toList (max 0 start) (start + length))) ∧
      (∀ start' length', start ≤ start' →
        (level.spanChars text start length).start ≤ (level.spanChars text start' length').start) ∧
      (∀ start' length', start + length ≤ start' + length' →
        (level.spanChars text start length).stop ≤ (level.spanChars text start' length').stop) ∧
      (∀ i : Int, i ≤ Text.byteLength text.toList →
        IsLeast {b : Int | Text.IsBoundary text.toList b ∧ i ≤ b}
          (Text.ceilByte (Text.encode text.toList) i)) ∧
      (∀ i : Int, Text.byteLength text.toList ≤ i →
        Text.ceilByte (Text.encode text.toList) i = Text.byteLength text.toList) ∧
      ∀ index, Text.ceilByte (Text.encode text.toList) (Text.byteOffset text.toList index)
        = Text.byteOffset text.toList index := by
  have hchars : Text.charsWithin text.toList (max 0 start) (start + length)
      = (text.toList.take (start + length).toNat).drop start.toNat := by
    have hstart : (max 0 start).toNat = start.toNat := by omega
    rw [Text.charsWithin_eq, hstart]
  refine ⟨level.spanChars_fits text start h, ?_, ?_, ?_, ?_, ?_, ?_⟩
  · rw [hchars, level.bytes_spanChars text start h, Text.decode_encode]
  · intro start' length' hle
    exact Int.ofNat_le.2 (Text.byteOffset_mono _ hle)
  · intro start' length' hle
    exact Int.ofNat_le.2 (Text.byteOffset_mono _ hle)
  · intro i hi
    rw [Text.ceilByte_encode]
    exact Text.isLeast_ceilBoundary hi
  · intro i hi
    rw [Text.ceilByte_encode, Text.ceilBoundary_of_ge hi]
  · intro index
    rw [Text.ceilByte_encode, Text.ceilBoundary_byteOffset]

/-- A range that starts in front of the text has the characters up to its end. -/
theorem spanChars_survives_accents :
    (0 : Int) ≤ 4 ∧ (error.spanChars "aé€😀z" (-1) 4).Fits "aé€😀z" ∧
      Text.Decoding.decode ((error.spanChars "aé€😀z" (-1) 4).bytes "aé€😀z") = .ok "aé€" := by
  have hlength : (0 : Int) ≤ 4 := by decide
  obtain ⟨hfits, hdecode, -⟩ := error.spanChars_survives "aé€😀z" (-1) hlength
  have hchars : String.ofList (Text.charsWithin "aé€😀z".toList (max 0 (-1)) (-1 + 4)) = "aé€" := by
    decide +kernel
  rw [hchars] at hdecode
  exact ⟨hlength, hfits, hdecode⟩

end Level

end ProposalCheck
