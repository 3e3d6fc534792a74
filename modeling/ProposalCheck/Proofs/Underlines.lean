import ProposalCheck.Proofs.Rows
import ProposalCheck.Proofs.SourceLines

/-!
# Where annotations are marked

`Message.render_underlines`: an annotation whose range is inside its excerpt has marker rows under
just the lines on which it lies. These are consecutive lines, all of them are shown, also in a folded
excerpt, and the label stands on the last of the marker rows alone.

What lies where is said without the layout: a byte is on the line that `Text.lineOf` counts. The
layout asks instead whether a line touches the range, and whether the range ends on the line, its line
feed included. Both come down to the lines of the first and of the last byte of the range
(`Highlight.touches_iff`, `Highlight.labelText_eq`).
-/

namespace ProposalCheck

open Text

namespace Highlight

/-- The range of an annotation is inside a text. Its ends may split characters. -/
structure Within (a : Highlight) (source : String) : Prop where
  nonneg : 0 ≤ a.start
  start_le : a.start ≤ a.stop
  stop_le : a.stop ≤ byteLength source.toList

/-- An annotation lies on a line of a text if a byte of its range does, or its position if it has no
bytes. -/
def LiesOn (a : Highlight) (source : String) (index : Nat) : Prop :=
  ∃ offset : Nat, (a.start ≤ offset ∧ offset < a.stop ∨ a.start = offset ∧ a.stop = offset) ∧
    lineOf source.toList offset = index

/-- The first byte of an annotation, or its position if it has no bytes. -/
def firstByte (a : Highlight) : Nat :=
  a.start.toNat

/-- The last byte of an annotation, or its position if it has no bytes. -/
def lastByte (a : Highlight) : Nat :=
  (max a.start (a.stop - 1)).toNat

/-- The line on which an annotation begins. -/
def firstLine (a : Highlight) (source : String) : Nat :=
  lineOf source.toList a.firstByte

/-- The line on which an annotation ends. -/
def lastLine (a : Highlight) (source : String) : Nat :=
  lineOf source.toList a.lastByte

/-- What is written behind the strokes of an annotation. -/
def caption (a : Highlight) : String :=
  match a.label with
  | some label => if label = "" then "" else " " ++ labelLead a.level ++ label
  | none => ""

variable {a : Highlight} {source : String} {i : Nat} {x : SourceLine}

namespace Within

variable (h : a.Within source)

include h

theorem cast_firstByte : (a.firstByte : Int) = a.start :=
  Int.toNat_of_nonneg h.nonneg

theorem cast_lastByte : (a.lastByte : Int) = max a.start (a.stop - 1) :=
  Int.toNat_of_nonneg (Int.le_trans h.nonneg (Int.le_max_left _ _))

theorem firstByte_le : a.firstByte ≤ a.lastByte := by
  have hfirst := h.cast_firstByte
  have hlast := h.cast_lastByte
  omega

theorem lastByte_le : a.lastByte ≤ byteLength source.toList := by
  have hlast := h.cast_lastByte
  have hstart := h.start_le
  have hstop := h.stop_le
  omega

theorem firstLine_le : a.firstLine source ≤ a.lastLine source :=
  lineOf_mono _ h.firstByte_le

end Within

theorem lastLine_lt (a : Highlight) (source : String) :
    a.lastLine source < (SourceLine.all source.toList).length := by
  obtain ⟨x, hx⟩ := SourceLine.exists_lineOf source.toList a.lastByte
  exact (List.getElem?_eq_some_iff.1 hx).1

section

variable (h : a.Within source) (hx : (SourceLine.all source.toList)[i]? = some x)

include h hx

theorem firstLine_le_iff : a.firstLine source ≤ i ↔ a.firstByte ≤ x.stop :=
  (SourceLine.le_stop_iff hx (h.firstByte_le.trans h.lastByte_le)).symm

theorem le_lastLine_iff : i ≤ a.lastLine source ↔ x.start ≤ a.lastByte :=
  (SourceLine.start_le_iff hx h.lastByte_le).symm

theorem lastLine_le_iff : a.lastLine source ≤ i ↔ a.lastByte ≤ x.stop :=
  (SourceLine.le_stop_iff hx h.lastByte_le).symm

/-- An annotation is shown under the lines from that of its first byte to that of its last. -/
theorem touches_iff :
    a.touches x = true ↔ a.firstLine source ≤ i ∧ i ≤ a.lastLine source := by
  have hle := h.start_le
  have hfirst := h.cast_firstByte
  have hlast := h.cast_lastByte
  rw [firstLine_le_iff h hx, le_lastLine_iff h hx, touches]
  split
  · rw [Bool.and_eq_true, decide_eq_true_eq, decide_eq_true_eq]
    omega
  · rw [Bool.and_eq_true, decide_eq_true_eq, decide_eq_true_eq]
    omega

/-- Of the lines under which an annotation is shown the last one has the label. -/
theorem labelText_eq (hfirst : a.firstLine source ≤ i) (hlast : i ≤ a.lastLine source) :
    a.labelText x = if i = a.lastLine source then a.caption else "" := by
  have hends : a.stop ≤ x.stop + 1 ↔ i = a.lastLine source := by
    have hstart := (firstLine_le_iff h hx).1 hfirst
    have hend := lastLine_le_iff h hx
    have hfirstByte := h.cast_firstByte
    have hlastByte := h.cast_lastByte
    omega
  unfold labelText caption
  cases a.label with
  | none => exact (ite_self "").symm
  | some label =>
    simp only [hends]
    by_cases hempty : label = ""
    · simp [hempty]
    · simp [hempty]

end

/-- An annotation lies on the lines from that of its first byte to that of its last. -/
theorem liesOn_iff (h : a.Within source) :
    a.LiesOn source i ↔ a.firstLine source ≤ i ∧ i ≤ a.lastLine source := by
  have hle := h.start_le
  have hfirstByte := h.cast_firstByte
  have hlastByte := h.cast_lastByte
  constructor
  · rintro ⟨offset, hoffset, rfl⟩
    have habove : a.firstByte ≤ offset := by omega
    have hbelow : offset ≤ a.lastByte := by omega
    exact ⟨lineOf_mono _ habove, lineOf_mono _ hbelow⟩
  · rintro ⟨hfirst, hlast⟩
    obtain ⟨x, hx⟩ : ∃ x, (SourceLine.all source.toList)[i]? = some x :=
      ⟨_, List.getElem?_eq_getElem (hlast.trans_lt (a.lastLine_lt source))⟩
    have hstop := (firstLine_le_iff h hx).1 hfirst
    have hstart := (le_lastLine_iff h hx).1 hlast
    have hline := (SourceLine.of_mem_place (List.mem_of_getElem? hx)).2
    -- the first byte of the line, or of the range if that comes later
    have hoffset : max a.firstByte x.start ≤ byteLength source.toList :=
      (Nat.max_le.2 ⟨h.firstByte_le, hstart⟩).trans h.lastByte_le
    have hbelow := (SourceLine.le_stop_iff hx hoffset).1 (Nat.max_le.2 ⟨hstop, by omega⟩)
    have habove := (SourceLine.start_le_iff hx hoffset).1 (Nat.le_max_right _ _)
    exact ⟨max a.firstByte x.start, by omega, Nat.le_antisymm hbelow habove⟩

end Highlight

/-! ### Marker rows -/

namespace Snippet

/-- An annotation is marked in an excerpt under the lines from `first` to `last`, and labelled on the
last of them. -/
structure Underlines (s : Snippet) (a : Highlight) (first last : Nat) : Prop where
  /-- The lines of the excerpt are those of its source. -/
  lines_eq : s.lines.map (·.text) = charLines s.source.toList
  first_le : first ≤ last
  last_lt : last < s.lines.length
  /-- The annotation lies on just these lines. -/
  liesOn_iff : ∀ i, a.LiesOn s.source i ↔ first ≤ i ∧ i ≤ last
  /-- Each of them is shown, and the rows right under it mark the annotation as often as the excerpt
  has it. -/
  under : ∀ i x, s.lines[i]? = some x → first ≤ i → i ≤ last →
    ∃ (front : List Row) (markers : List Highlight) (back : List Row),
      s.rows = front ++ (.line (s.lineStart + i) x.text :: markers.map (.marker x) ++ back) ∧
        markers.count a = s.annotations.count a ∧ ∀ b, .marker x b ∉ front ∧ .marker x b ∉ back
  /-- No other row marks it. -/
  only : ∀ x, .marker x a ∈ s.rows → ∃ i, first ≤ i ∧ i ≤ last ∧ s.lines[i]? = some x
  /-- Each row of it has its strokes, and the last one its label behind them. -/
  text : ∀ i x, s.lines[i]? = some x → first ≤ i → i ≤ last → ∀ width,
    (Row.marker x a).text width = repeated width ' ' ++ " | " ++ a.marks x
      ++ if i = last then trimEnd a.caption else ""

theorem underlines {s : Snippet} {a : Highlight} (ha : a ∈ s.annotations) (h : a.Within s.source) :
    s.Underlines a (a.firstLine s.source) (a.lastLine s.source) where
  lines_eq := SourceLine.map_text_all _
  first_le := h.firstLine_le
  last_lt := a.lastLine_lt s.source
  liesOn_iff := fun i => Highlight.liesOn_iff h
  under := by
    intro i x hx hfirst hlast
    have htouches := (Highlight.touches_iff h hx).2 ⟨hfirst, hlast⟩
    have hannotated := mem_annotatedLines.2 ⟨x, hx, a, ha, htouches⟩
    obtain ⟨front, back, hrows, hfront, hback⟩ := exists_rows hx (shows_of_mem hannotated)
    have hother : ∀ j y b, s.lines[j]? = some y → Row.marker x b ∈ s.lineRows j y → j = i := by
      intro j y b hy hmem
      obtain ⟨rfl, -⟩ := mem_lineRows_marker hmem
      exact SourceLine.index_unique hy hx
    refine ⟨front, s.markersOn x, back, hrows, count_markersOn htouches, fun b => ⟨?_, ?_⟩⟩
    · intro hmem
      rcases hfront _ hmem with hgap | ⟨j, y, hj, hy, hmem⟩
      · cases hgap
      · exact absurd (hother j y b hy hmem) (Nat.ne_of_lt hj)
    · intro hmem
      rcases hback _ hmem with hgap | ⟨j, y, hj, hy, hmem⟩
      · cases hgap
      · exact absurd (hother j y b hy hmem) (Nat.ne_of_gt hj)
  only := by
    intro x hmem
    rcases mem_rowsFrom hmem with hgap | ⟨i, y, hy, hmem⟩
    · cases hgap
    · obtain ⟨rfl, -, htouches⟩ := mem_lineRows_marker hmem
      obtain ⟨hfirst, hlast⟩ := (Highlight.touches_iff h hy).1 htouches
      exact ⟨i, hfirst, hlast, hy⟩
  text := by
    intro i x hx hfirst hlast width
    rw [Row.text_marker, Highlight.labelText_eq h hx hfirst hlast]
    split
    · rfl
    · rfl

end Snippet

namespace Message

theorem exists_rows_of_mem {m : Message} {s : Snippet} (hs : s ∈ m.snippets) :
    ∃ above below, m.rows = above ++ (s.rows ++ below) := by
  obtain ⟨before, after, hsnippets⟩ := List.append_of_mem hs
  refine ⟨m.opening ++ before.flatMap (fun s => .gutter :: s.rows) ++ [.gutter],
    after.flatMap (fun s => .gutter :: s.rows) ++ m.closing, ?_⟩
  simp [rows, hsnippets]

/-- The rendering of a message marks each annotation whose range is inside its excerpt under just the
lines on which it lies, and labels it on the last of them. -/
theorem render_underlines (m : Message) {s : Snippet} (hs : s ∈ m.snippets) {a : Highlight}
    (ha : a ∈ s.annotations) (h : a.Within s.source) :
    (∃ above below, m.render
      = unlines ((above ++ (s.rows ++ below)).map (Row.text m.gutterWidth))) ∧
      s.Underlines a (a.firstLine s.source) (a.lastLine s.source) := by
  obtain ⟨above, below, hrows⟩ := exists_rows_of_mem hs
  refine ⟨⟨above, below, ?_⟩, Snippet.underlines ha h⟩
  rw [render_eq, hrows]

/-- The annotation begins inside a character and goes over an empty line. -/
theorem render_underlines_poem :
    (Snippet.verses ∈ poem.snippets ∧ Highlight.across ∈ Snippet.verses.annotations ∧
      Highlight.across.Within Snippet.verses.source) ∧
      (∃ above below, poem.render
        = unlines ((above ++ (Snippet.verses.rows ++ below)).map (Row.text poem.gutterWidth))) ∧
      Snippet.verses.Underlines .across 0 2 := by
  have hsnippet : Snippet.verses ∈ poem.snippets := List.mem_cons_of_mem _ List.mem_cons_self
  have hannotation : Highlight.across ∈ Snippet.verses.annotations :=
    List.mem_cons_of_mem _ List.mem_cons_self
  have hwithin : Highlight.across.Within Snippet.verses.source :=
    ⟨by decide, by decide, by decide +kernel⟩
  have hfirst : Highlight.across.firstLine Snippet.verses.source = 0 := by decide +kernel
  have hlast : Highlight.across.lastLine Snippet.verses.source = 2 := by decide +kernel
  obtain ⟨hrender, hunderlines⟩ := render_underlines poem hsnippet hannotation hwithin
  rw [hfirst, hlast] at hunderlines
  exact ⟨⟨hsnippet, hannotation, hwithin⟩, hrender, hunderlines⟩

end Message

end ProposalCheck
