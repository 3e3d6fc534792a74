import ProposalCheck.Proofs.Lines
import ProposalCheck.Proofs.Slices

/-!
# Lines by their bytes

`Text.lineOf` is the line on which a byte of a text stands: as many line feeds are in front of it. An
excerpt is laid out by other means, with a range of bytes for each of its lines.
`SourceLine.start_le_iff` and `SourceLine.le_stop_iff` say that these come to the same: the lines
that start before a byte are those up to its own, and the lines that end behind it are those from its
own on. Both go through the lines one by one (`Text.lineOf_next`).
-/

namespace ProposalCheck

namespace Text

/-- The index of the line on which a byte of a text stands. A line feed belongs to the line that it
ends, and the end of the text to the last line. -/
def lineOf (cs : List Char) (offset : Nat) : Nat :=
  ((encode cs).take offset).count 10

theorem count_encode {l : List Char} (h : '\n' ∉ l) : (encode l).count 10 = 0 := by
  rw [List.count_eq_zero]
  intro hmem
  obtain ⟨c, hc, hmem⟩ := List.mem_flatMap.1 hmem
  obtain rfl : c = '\n' := eq_of_mem_encodeChar (by decide) hmem
  exact h hc

theorem count_take_encode {l : List Char} (h : '\n' ∉ l) (offset : Nat) :
    ((encode l).take offset).count 10 = 0 := by
  have hle := (List.take_sublist offset (encode l)).count_le 10
  have hnone := count_encode h
  omega

theorem encode_lineFeed (l rest : List Char) :
    encode (l ++ '\n' :: rest) = encode l ++ 10 :: encode rest := by
  rw [encode_append, encode_cons]
  rfl

/-- The bytes of a line, its line feed included, are on the first line. -/
theorem lineOf_first {l : List Char} (hl : '\n' ∉ l) {offset : Nat} (h : offset ≤ byteLength l)
    (rest : List Char) : lineOf (l ++ '\n' :: rest) offset = 0 := by
  have hlength : offset ≤ (encode l).length := by rwa [length_encode]
  rw [lineOf, encode_lineFeed, List.take_append_of_le_length hlength]
  exact count_take_encode hl offset

/-- The bytes behind a line are one line further down than in the rest of the text. -/
theorem lineOf_next {l : List Char} (hl : '\n' ∉ l) (rest : List Char) (offset : Nat) :
    lineOf (l ++ '\n' :: rest) (byteLength l + 1 + offset) = lineOf rest offset + 1 := by
  have htake : (encode l ++ 10 :: encode rest).take (byteLength l + 1 + offset)
      = encode l ++ 10 :: (encode rest).take offset := by
    have hlength : byteLength l + 1 + offset = (encode l).length + (offset + 1) := by
      rw [length_encode]
      omega
    rw [hlength, List.take_length_add_append, List.take_succ_cons]
  rw [lineOf, encode_lineFeed, htake, List.count_append, List.count_cons_self, count_encode hl,
    Nat.zero_add, lineOf]

theorem lineOf_mono (cs : List Char) {p q : Nat} (h : p ≤ q) : lineOf cs p ≤ lineOf cs q := by
  have hsublist := (List.take_sublist p ((encode cs).take q)).count_le 10
  rwa [List.take_take, Nat.min_eq_left h] at hsublist

theorem lineOf_lt {ls : List (List Char)} (hls : ls ≠ []) (h : ∀ l ∈ ls, '\n' ∉ l) (offset : Nat) :
    lineOf (Fence.unlines ls) offset < ls.length := by
  induction ls generalizing offset with
  | nil => exact absurd rfl hls
  | cons l rest ih =>
    obtain ⟨hl, hrest⟩ := List.forall_mem_cons.1 h
    by_cases hne : rest = []
    · rw [hne, Fence.unlines_singleton, lineOf, count_take_encode hl]
      exact Nat.zero_lt_succ _
    · rw [Fence.unlines_cons l hne, List.length_cons]
      by_cases hle : offset ≤ byteLength l
      · rw [lineOf_first hl hle]
        exact Nat.zero_lt_succ _
      · obtain ⟨q, rfl⟩ : ∃ q, offset = byteLength l + 1 + q := ⟨offset - (byteLength l + 1), by omega⟩
        rw [lineOf_next hl]
        exact Nat.succ_lt_succ (ih hne hrest q)

end Text

namespace SourceLine

open Text

theorem map_text_place (offset : Nat) (ls : List (List Char)) : (place offset ls).map (·.text) = ls := by
  induction ls generalizing offset with
  | nil => rfl
  | cons l ls ih => rw [place, List.map_cons, ih]

theorem map_text_all (cs : List Char) : (all cs).map (·.text) = charLines cs :=
  map_text_place 0 _

/-- A line is as long as its text, and does not start before the offset of the first one. -/
theorem of_mem_place {offset : Nat} {ls : List (List Char)} {x : SourceLine}
    (h : x ∈ place offset ls) : offset ≤ x.start ∧ x.stop = x.start + byteLength x.text := by
  induction ls generalizing offset with
  | nil => cases h
  | cons l ls ih =>
    rcases List.mem_cons.1 h with rfl | h
    · exact ⟨Nat.le_refl _, rfl⟩
    · obtain ⟨hstart, hstop⟩ := ih h
      exact ⟨by omega, hstop⟩

theorem stop_le_of_mem_place {offset : Nat} {ls : List (List Char)} {x : SourceLine}
    (h : x ∈ place offset ls) : x.stop ≤ offset + byteLength (Fence.unlines ls) := by
  induction ls generalizing offset with
  | nil => cases h
  | cons l rest ih =>
    by_cases hne : rest = []
    · subst hne
      obtain rfl := List.mem_singleton.1 h
      rw [Fence.unlines_singleton]
    · rw [Fence.unlines_cons l hne, byteLength_append, byteLength_cons]
      have hfeed : '\n'.utf8Size = 1 := by decide
      rcases List.mem_cons.1 h with rfl | h
      · dsimp only
        omega
      · have hstop := ih h
        omega

/-- The lines that start before a byte are those up to its own, and the lines that end behind it are
those from its own on. -/
theorem place_iff {offset : Nat} {ls : List (List Char)} (h : ∀ l ∈ ls, '\n' ∉ l) {i : Nat}
    {x : SourceLine} (hx : (place offset ls)[i]? = some x) {p : Nat}
    (hp : p ≤ byteLength (Fence.unlines ls)) :
    (x.start ≤ offset + p ↔ i ≤ lineOf (Fence.unlines ls) p) ∧
      (offset + p ≤ x.stop ↔ lineOf (Fence.unlines ls) p ≤ i) := by
  induction ls generalizing offset i p with
  | nil => simp [place] at hx
  | cons l rest ih =>
    obtain ⟨hl, hrest⟩ := List.forall_mem_cons.1 h
    by_cases hne : rest = []
    · -- the only line has all bytes
      subst hne
      rw [Fence.unlines_singleton] at hp ⊢
      have hline : lineOf l p = 0 := count_take_encode hl p
      cases i with
      | zero =>
        obtain rfl := Option.some.inj hx
        dsimp only
        omega
      | succ i => simp [place] at hx
    · rw [Fence.unlines_cons l hne] at hp ⊢
      rw [byteLength_append, byteLength_cons] at hp
      have hfeed : '\n'.utf8Size = 1 := by decide
      by_cases hle : p ≤ byteLength l
      · rw [lineOf_first hl hle]
        cases i with
        | zero =>
          obtain rfl := Option.some.inj hx
          dsimp only
          omega
        | succ i =>
          have hrest : x ∈ place (offset + byteLength l + 1) rest := List.mem_of_getElem? hx
          obtain ⟨hstart, hstop⟩ := of_mem_place hrest
          omega
      · obtain ⟨q, rfl⟩ : ∃ q, p = byteLength l + 1 + q := ⟨p - (byteLength l + 1), by omega⟩
        rw [lineOf_next hl]
        cases i with
        | zero =>
          obtain rfl := Option.some.inj hx
          dsimp only
          omega
        | succ i =>
          have hq : q ≤ byteLength (Fence.unlines rest) := by omega
          obtain ⟨hstart, hstop⟩ := ih hrest hx hq
          omega

section

variable {cs : List Char} {i : Nat} {x : SourceLine} (hx : (all cs)[i]? = some x) {p : Nat}
  (hp : p ≤ byteLength cs)

include hx hp

theorem start_le_iff : x.start ≤ p ↔ i ≤ lineOf cs p := by
  have hfeeds : ∀ l ∈ charLines cs, '\n' ∉ l := fun l hl => not_mem_of_mem_split hl
  rw [← Fence.unlines_charLines cs] at hp ⊢
  have h := (place_iff hfeeds hx hp).1
  rwa [Nat.zero_add] at h

theorem le_stop_iff : p ≤ x.stop ↔ lineOf cs p ≤ i := by
  have hfeeds : ∀ l ∈ charLines cs, '\n' ∉ l := fun l hl => not_mem_of_mem_split hl
  rw [← Fence.unlines_charLines cs] at hp ⊢
  have h := (place_iff hfeeds hx hp).2
  rwa [Nat.zero_add] at h

end

theorem length_all (cs : List Char) : (all cs).length = (charLines cs).length := by
  rw [← map_text_all, List.length_map]

/-- Each byte is on a line. -/
theorem exists_lineOf (cs : List Char) (p : Nat) : ∃ x, (all cs)[lineOf cs p]? = some x := by
  have hlt := lineOf_lt (split_ne_nil '\n' cs) (fun l hl => not_mem_of_mem_split hl) p
  rw [← charLines, Fence.unlines_charLines, ← length_all] at hlt
  exact ⟨_, List.getElem?_eq_getElem hlt⟩

theorem stop_le {cs : List Char} {x : SourceLine} (h : x ∈ all cs) : x.stop ≤ byteLength cs := by
  have hstop := stop_le_of_mem_place h
  rwa [Fence.unlines_charLines, Nat.zero_add] at hstop

/-- Different lines have different ranges. -/
theorem index_unique {cs : List Char} {i j : Nat} {x : SourceLine} (hi : (all cs)[i]? = some x)
    (hj : (all cs)[j]? = some x) : i = j := by
  have hmem := List.mem_of_getElem? hi
  have hle : x.start ≤ x.stop := by
    have hstop := (of_mem_place hmem).2
    omega
  have hx : x.start ≤ byteLength cs := hle.trans (stop_le hmem)
  have h₁ := (start_le_iff hi hx).1 (Nat.le_refl _)
  have h₂ := (start_le_iff hj hx).1 (Nat.le_refl _)
  have h₃ := (le_stop_iff hi hx).1 hle
  have h₄ := (le_stop_iff hj hx).1 hle
  omega

end SourceLine

end ProposalCheck
