import ProposalCheck.Proofs.Underlines

/-!
# Where a message points

`Message.render_points`: the place that a message names in its second row is that of the first marker
row of the annotation that starts first. The line is the number printed in front of the line under
which that row stands, and the column tells how far in the row the strokes begin.

The place is found by reading all characters in front of the start of the annotation, the marker by
reading those of one line. `SourceLine.charLines_charsBefore` says how these are related: the lines of
the former are the lines above, and the latter as the last one.
-/

namespace ProposalCheck

open Text

namespace Text

/-! ### Characters before an offset -/

theorem charsBefore_append_of_le {a b : List Char} {offset : Int} (h : offset ≤ byteLength a) :
    charsBefore (a ++ b) offset = charsBefore a offset := by
  induction a generalizing offset with
  | nil =>
    have hoffset : offset ≤ 0 := h
    cases b with
    | nil => rfl
    | cons c r => exact if_pos hoffset
  | cons c r ih =>
    rw [byteLength_cons] at h
    rw [List.cons_append, charsBefore, charsBefore]
    split
    · rfl
    · rw [ih (by omega)]

theorem charsBefore_append (a b : List Char) (offset : Nat) :
    charsBefore (a ++ b) (byteLength a + offset : Nat) = a ++ charsBefore b offset := by
  induction a with
  | nil => rw [List.nil_append, List.nil_append, byteLength_nil, Nat.zero_add]
  | cons c r ih =>
    have hpos : 0 < c.utf8Size := Char.utf8Size_pos c
    have hoffset : ((byteLength (c :: r) + offset : Nat) : Int) - c.utf8Size
        = (byteLength r + offset : Nat) := by
      rw [byteLength_cons]
      omega
    rw [List.cons_append, charsBefore, if_neg (by rw [byteLength_cons]; omega), hoffset, ih,
      List.cons_append]

theorem not_mem_charsBefore {l : List Char} (h : '\n' ∉ l) (offset : Int) :
    '\n' ∉ charsBefore l offset := by
  obtain ⟨⟨after, hafter⟩, -⟩ := charsBefore_spec l offset
  rw [hafter] at h
  exact fun hmem => h (List.mem_append_left _ hmem)

end Text

namespace SourceLine

/-- The characters in front of a position on a line are the lines above and the characters in front of
it on the line. -/
theorem charLines_charsBefore {offset : Nat} {ls : List (List Char)} (h : ∀ l ∈ ls, '\n' ∉ l)
    {i : Nat} {x : SourceLine} (hx : (place offset ls)[i]? = some x) {p : Nat}
    (hstart : x.start ≤ offset + p) (hstop : offset + p ≤ x.stop) :
    charLines (charsBefore (Fence.unlines ls) p)
      = ls.take i ++ [charsBefore x.text (offset + p - x.start : Nat)] := by
  induction ls generalizing offset i p with
  | nil => simp [place] at hx
  | cons l rest ih =>
    obtain ⟨hl, hrest⟩ := List.forall_mem_cons.1 h
    cases i with
    | zero =>
      obtain rfl := Option.some.inj hx
      dsimp only at hstart hstop ⊢
      have hp : (p : Int) ≤ byteLength l := by omega
      have hchars : charsBefore (Fence.unlines (l :: rest)) p = charsBefore l p := by
        by_cases hne : rest = []
        · rw [hne, Fence.unlines_singleton]
        · rw [Fence.unlines_cons l hne, charsBefore_append_of_le hp]
      have hback : offset + p - offset = p := by omega
      rw [hchars, hback, List.take_zero, List.nil_append]
      exact charLines_of_not_mem (not_mem_charsBefore hl _)
    | succ i =>
      have hx' : (place (offset + byteLength l + 1) rest)[i]? = some x := hx
      have hne : rest ≠ [] := by
        rintro rfl
        simp [place] at hx'
      have hbegin := (of_mem_place (List.mem_of_getElem? hx')).1
      have hfeed : byteLength (l ++ ['\n']) = byteLength l + 1 := byteLength_append l ['\n']
      obtain ⟨q, rfl⟩ : ∃ q, p = byteLength (l ++ ['\n']) + q :=
        ⟨p - byteLength (l ++ ['\n']), by omega⟩
      have hsplit : Fence.unlines (l :: rest) = (l ++ ['\n']) ++ Fence.unlines rest := by
        rw [Fence.unlines_cons l hne, List.append_assoc, List.singleton_append]
      have hback : offset + (byteLength (l ++ ['\n']) + q) = offset + byteLength l + 1 + q := by omega
      rw [hback] at hstart hstop ⊢
      rw [hsplit, charsBefore_append, List.append_assoc, List.singleton_append,
        charLines_append hl, ih hrest hx' hstart hstop, List.take_succ_cons, List.cons_append]

end SourceLine

namespace Snippet

variable {s : Snippet}

/-- A position on a line has the number of the line, and comes behind the characters in front of it
on the line. -/
theorem position_eq {i : Nat} {x : SourceLine} (hx : s.lines[i]? = some x) {p : Nat}
    (hstart : x.start ≤ p) (hstop : p ≤ x.stop) :
    s.position p = (s.lineStart + i, (charsBefore x.text (p - x.start : Nat)).length + 1) := by
  have hfeeds : ∀ l ∈ charLines s.source.toList, '\n' ∉ l := fun l hl => not_mem_of_mem_split hl
  have hlines := SourceLine.charLines_charsBefore hfeeds hx (p := p) (by omega) (by omega)
  rw [Fence.unlines_charLines, Nat.zero_add] at hlines
  have hi : i < (charLines s.source.toList).length := by
    rw [← SourceLine.length_all]
    exact (List.getElem?_eq_some_iff.1 hx).1
  have hlength : ((charLines s.source.toList).take i).length = i := by
    rw [List.length_take]
    omega
  simp only [position, hlines, List.length_append, List.length_singleton, hlength,
    Nat.add_sub_cancel, List.getLastD_eq_getLast?, List.getLast?_append, List.getLast?_singleton]
  rfl

theorem foldl_earlier (bs : List Highlight) (best : Highlight) :
    bs.foldl (fun best b => if b.start < best.start then b else best) best ∈ best :: bs ∧
      ∀ b ∈ best :: bs,
        (bs.foldl (fun best b => if b.start < best.start then b else best) best).start ≤ b.start := by
  induction bs generalizing best with
  | nil => exact ⟨List.mem_cons_self, fun b hb => List.mem_singleton.1 hb ▸ Int.le_refl _⟩
  | cons c bs ih =>
    obtain ⟨hmem, hle⟩ := ih (if c.start < best.start then c else best)
    rw [List.forall_mem_cons] at hle
    rw [List.foldl_cons]
    by_cases hlt : c.start < best.start
    · rw [if_pos hlt] at hmem hle ⊢
      refine ⟨List.mem_cons_of_mem _ hmem, ?_⟩
      rw [List.forall_mem_cons, List.forall_mem_cons]
      exact ⟨by omega, hle⟩
    · rw [if_neg hlt] at hmem hle ⊢
      refine ⟨?_, ?_⟩
      · rcases List.mem_cons.1 hmem with h | h
        · rw [h]
          exact List.mem_cons_self
        · exact List.mem_cons_of_mem _ (List.mem_cons_of_mem _ h)
      · rw [List.forall_mem_cons, List.forall_mem_cons]
        exact ⟨hle.1, by omega, hle.2⟩

/-- An excerpt names the place where its annotations begin. -/
theorem place_eq {a : Highlight} (ha : a ∈ s.annotations)
    (h : ∀ b ∈ s.annotations, a.start ≤ b.start) : s.place = s.position a.start := by
  unfold place firstAnnotation?
  cases hannotations : s.annotations with
  | nil => simp [hannotations] at ha
  | cons c bs =>
    obtain ⟨hmem, hle⟩ := foldl_earlier bs c
    rw [← hannotations] at hmem hle
    have hstart := Int.le_antisymm (hle a ha) (h _ hmem)
    exact congrArg s.position hstart

/-- The first marker row of an annotation stands under the line of a number, and its strokes begin
behind some spaces. -/
def MarksFirst (s : Snippet) (a : Highlight) (width : Nat) (number : Int) (spaces : Nat) : Prop :=
  ∃ (x : SourceLine) (front : List Row) (markers : List Highlight) (back : List Row) (rest : String),
    s.rows = front ++ (.line number x.text :: markers.map (.marker x) ++ back) ∧
      a ∈ markers ∧ (∀ y, .marker y a ∉ front) ∧
      (Row.line number x.text).text width
        = padLeft width (toString number) ++ " |" ++ trimEnd (" " ++ String.ofList x.text) ∧
      (Row.marker x a).text width = repeated width ' ' ++ " | " ++ repeated spaces ' '
        ++ String.singleton (Highlight.stroke a.level) ++ rest

theorem marksFirst {a : Highlight} (ha : a ∈ s.annotations) (h : a.Within s.source) (width : Nat) :
    ∃ number spaces, s.position a.start = (number, spaces + 1) ∧
      s.MarksFirst a width number spaces := by
  obtain ⟨x, hx⟩ := SourceLine.exists_lineOf s.source.toList a.firstByte
  have hline : s.lines[a.firstLine s.source]? = some x := hx
  have hfirst := h.cast_firstByte
  have hlength := h.firstByte_le.trans h.lastByte_le
  have hstart := (SourceLine.start_le_iff hx hlength).2 (Nat.le_refl _)
  have hstop := (SourceLine.le_stop_iff hx hlength).2 (Nat.le_refl _)
  have htouches := (Highlight.touches_iff h hx).2 ⟨Nat.le_refl _, h.firstLine_le⟩
  have hannotated := mem_annotatedLines.2 ⟨x, hline, a, ha, htouches⟩
  obtain ⟨front, back, hrows, hfront, -⟩ := exists_rows hline (shows_of_mem hannotated)
  obtain ⟨n, hn⟩ := a.exists_strokes x
  refine ⟨s.lineStart + a.firstLine s.source, a.column x, ?_, x, front, s.markersOn x, back,
    repeated n (Highlight.stroke a.level) ++ trimEnd (a.labelText x), hrows,
    mem_markersOn.2 ⟨ha, htouches⟩, ?_, Row.text_line _ _ _, ?_⟩
  · have hcolumn : max a.start x.start - x.start = ((a.firstByte - x.start : Nat) : Int) := by omega
    rw [← hfirst, position_eq hline hstart hstop, Highlight.column, hcolumn]
  · -- above the line on which it begins an annotation is not marked
    intro y hmem
    rcases hfront _ hmem with hgap | ⟨j, z, hj, hz, hmem⟩
    · cases hgap
    · obtain ⟨-, -, habove⟩ := mem_lineRows_marker hmem
      obtain ⟨rfl, -⟩ := mem_lineRows_marker hmem
      have hle := ((Highlight.touches_iff h hz).1 habove).1
      omega
  · rw [Row.text_marker, Highlight.marks, hn]
    apply String.toList_injective
    simp [toList_repeated, List.replicate_succ]

end Snippet

namespace Message

theorem located?_eq {m : Message} {before after : List Snippet} {s : Snippet} {origin : String}
    (hs : m.snippets = before ++ s :: after) (hbefore : ∀ t ∈ before, t.origin = none)
    (horigin : s.origin = some origin) : m.located? = some (s, origin) := by
  have hnone : before.findSome? (fun t => t.origin.map (t, ·)) = none := by
    rw [List.findSome?_eq_none_iff]
    intro t ht
    rw [hbefore t ht, Option.map_none]
  rw [located?, hs, List.findSome?_append, hnone, Option.none_or, List.findSome?_cons, horigin,
    Option.map_some]

/-- The second row of a message names the number of the line under which the first marker row of the
annotation stands that starts first, and the column at which the strokes of that row begin. -/
theorem render_points {m : Message} {before after : List Snippet} {s : Snippet} {origin : String}
    (hs : m.snippets = before ++ s :: after) (hbefore : ∀ t ∈ before, t.origin = none)
    (horigin : s.origin = some origin) (hwithin : ∀ b ∈ s.annotations, b.Within s.source)
    {a : Highlight} (ha : a ∈ s.annotations) (hfirst : ∀ b ∈ s.annotations, a.start ≤ b.start) :
    ∃ (number : Int) (spaces : Nat) (above below : List Row),
      m.render = unlines (m.header :: (repeated m.gutterWidth ' ' ++ "--> "
          ++ (origin ++ ":" ++ toString number ++ ":" ++ toString (spaces + 1)))
        :: (above ++ (s.rows ++ below)).map (Row.text m.gutterWidth)) ∧
      s.MarksFirst a m.gutterWidth number spaces := by
  obtain ⟨number, spaces, hposition, hmarks⟩ :=
    Snippet.marksFirst ha (hwithin a ha) m.gutterWidth
  have hplace : m.placeRows = [.place origin number (spaces + 1)] := by
    rw [placeRows, located?_eq hs hbefore horigin]
    dsimp only
    rw [Snippet.place_eq ha hfirst, hposition]
  refine ⟨number, spaces, before.flatMap (fun t => .gutter :: t.rows) ++ [.gutter],
    after.flatMap (fun t => .gutter :: t.rows) ++ m.closing, ?_, hmarks⟩
  have hrows : m.rows = .header m.header :: .place origin number (spaces + 1)
      :: (before.flatMap (fun t => .gutter :: t.rows) ++ [.gutter]
        ++ (s.rows ++ (after.flatMap (fun t => .gutter :: t.rows) ++ m.closing))) := by
    rw [rows, opening, hplace, hs]
    simp
  rw [render_eq, hrows, List.map_cons, List.map_cons]
  rfl

/-- The excerpt without an origin is passed over, and the second annotation starts before the first. -/
theorem render_points_poem :
    ((∀ t ∈ [({ source := "x" } : Snippet)], t.origin = none) ∧
      (∀ b ∈ Snippet.verses.annotations, b.Within Snippet.verses.source) ∧
      ∀ b ∈ Snippet.verses.annotations, Highlight.across.start ≤ b.start) ∧
      ∃ (number : Int) (spaces : Nat) (above below : List Row),
        poem.render = unlines (poem.header :: (repeated poem.gutterWidth ' ' ++ "--> "
            ++ ("a.md" ++ ":" ++ toString number ++ ":" ++ toString (spaces + 1)))
          :: (above ++ (Snippet.verses.rows ++ below)).map (Row.text poem.gutterWidth)) ∧
        Snippet.verses.MarksFirst .across poem.gutterWidth number spaces := by
  have hbefore : ∀ t ∈ [({ source := "x" } : Snippet)], t.origin = none := by decide
  have hwithin : ∀ b ∈ Snippet.verses.annotations, b.Within Snippet.verses.source := by
    have hbounds : ∀ b ∈ Snippet.verses.annotations, 0 ≤ b.start ∧ b.start ≤ b.stop ∧
        b.stop ≤ byteLength Snippet.verses.source.toList := by
      decide +kernel
    intro b hb
    obtain ⟨hnonneg, hle, hstop⟩ := hbounds b hb
    exact ⟨hnonneg, hle, hstop⟩
  have hfirst : ∀ b ∈ Snippet.verses.annotations, Highlight.across.start ≤ b.start := by decide
  have hacross : Highlight.across ∈ Snippet.verses.annotations :=
    List.mem_cons_of_mem _ List.mem_cons_self
  have hsnippets : poem.snippets = [{ source := "x" }] ++ Snippet.verses :: [] := rfl
  exact ⟨⟨hbefore, hwithin, hfirst⟩, render_points hsnippets hbefore rfl hwithin hacross hfirst⟩

end Message

end ProposalCheck
