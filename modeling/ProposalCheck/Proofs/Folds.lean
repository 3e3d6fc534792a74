import ProposalCheck.Proofs.Underlines

/-!
# Folded excerpts and their gutter

`Message.render_folds`: an excerpt shows just the lines that are no more than one line away from a line
with an annotation, or all lines if it is not folded or has no such line; each longest run of hidden
lines is replaced by one row; and the bars of the gutter stand in one column.

The layout goes through the lines once and remembers whether it has just left one out. What it gives
is said by `Snippet.Folded`, whose rules cut the lines at the ends of the hidden runs
(`Snippet.rowsFrom_folded`). The gutter is as wide as the number of the last line of some excerpt, and
no number in front of it is longer (`Text.length_toString_le`).
-/

namespace ProposalCheck

open Text

namespace Text

/-! ### Numbers -/

theorem length_repr_le {m n : Nat} (h : m ≤ n) : m.repr.length ≤ n.repr.length := by
  have hlength : ∀ k : Nat, k.repr.length = (Nat.toDigits 10 k).length := fun k => by
    rw [Nat.repr, String.length_ofList]
  rw [hlength, hlength]
  have hpos : 0 < (Nat.toDigits 10 n).length := List.length_pos_iff.2 Nat.toDigits_ne_nil
  have hn := (Nat.length_toDigits_le_iff (by decide) hpos).1 (Nat.le_refl _)
  exact (Nat.length_toDigits_le_iff (by decide) hpos).2 (h.trans_lt hn)

/-- A larger number is not shorter. -/
theorem length_toString_le {m n : Int} (hm : 0 ≤ m) (h : m ≤ n) :
    (toString m).length ≤ (toString n).length := by
  obtain ⟨k, rfl⟩ := Int.eq_ofNat_of_zero_le hm
  obtain ⟨l, rfl⟩ := Int.eq_ofNat_of_zero_le (Int.le_trans hm h)
  exact length_repr_le (Int.ofNat_le.1 h)

theorem bar_not_mem_toString {n : Int} (hn : 0 ≤ n) : '|' ∉ (toString n).toList := by
  obtain ⟨k, rfl⟩ := Int.eq_ofNat_of_zero_le hn
  intro hmem
  have hdigits : '|' ∈ Nat.toDigits 10 k := by
    have hrepr : toString (k : Int) = String.ofList (Nat.toDigits 10 k) := rfl
    rwa [hrepr, String.toList_ofList] at hmem
  have hdigit := Nat.isDigit_of_mem_toDigits (by decide) (by decide) hdigits
  exact absurd hdigit (by decide)

theorem length_padLeft {width : Nat} {s : String} (h : s.length ≤ width) :
    (padLeft width s).length = width := by
  rw [padLeft, String.length_append, ← String.length_toList, toList_repeated, List.length_replicate]
  omega

theorem bar_not_mem_padLeft {width : Nat} {s : String} (h : '|' ∉ s.toList) :
    '|' ∉ (padLeft width s).toList := by
  rw [padLeft, String.toList_append, toList_repeated, List.mem_append, List.mem_replicate]
  rintro (⟨-, hspace⟩ | hmem)
  · exact absurd hspace (by decide)
  · exact h hmem

end Text

namespace Row

/-- The number and the text of a row that shows a line. -/
def source? : Row → Option (Int × List Char)
  | line number t => some (number, t)
  | _ => none

/-- Whether a row has a gutter, and so a bar. -/
def hasGutter : Row → Bool
  | gutter => true
  | line .. => true
  | marker .. => true
  | _ => false

end Row

namespace Snippet

variable {s : Snippet}

/-! ### Lines that are shown -/

/-- An annotation is marked under the line of an index. -/
def IsAnnotated (s : Snippet) (index : Nat) : Prop :=
  ∃ x, s.lines[index]? = some x ∧ ∃ a ∈ s.annotations, a.touches x = true

/-- The line of an index is shown: in a folded excerpt with annotated lines it has to be one of them
or next to one. -/
def IsShown (s : Snippet) (index : Nat) : Prop :=
  s.fold = true → (∃ j, s.IsAnnotated j) →
    ∃ j, s.IsAnnotated j ∧ index ≤ j + 1 ∧ j ≤ index + 1

theorem shows_iff {index : Nat} :
    s.shows (s.annotatedLines s.lines) index = true ↔ s.IsShown index := by
  have hannotated : ∀ j, j ∈ s.annotatedLines s.lines ↔ s.IsAnnotated j := fun j =>
    mem_annotatedLines
  have hempty : (s.annotatedLines s.lines).isEmpty = false ↔ ∃ j, s.IsAnnotated j := by
    rw [List.isEmpty_eq_false_iff_exists_mem]
    exact exists_congr hannotated
  unfold shows IsShown
  cases hfold : s.fold with
  | false => simp
  | true =>
    cases hnone : (s.annotatedLines s.lines).isEmpty with
    | true =>
      have hno : ¬ ∃ j, s.IsAnnotated j := by
        rw [← hempty, hnone]
        exact Bool.noConfusion
      simp [hno]
    | false =>
      have hsome := hempty.1 hnone
      simp [hsome, hannotated]

instance (s : Snippet) (index : Nat) : Decidable (s.IsShown index) :=
  decidable_of_iff _ shows_iff

/-- Lines with their indices, and the rows that show them. A line that is shown gives its rows; a
longest run of hidden lines gives one row for all of them. -/
inductive Folded (s : Snippet) : List (SourceLine × Nat) → List Row → Prop
  | done : Folded s [] []
  | shown {x : SourceLine} {index : Nat} {ls : List (SourceLine × Nat)} {rows : List Row} :
    s.IsShown index → Folded s ls rows → Folded s ((x, index) :: ls) (s.lineRows index x ++ rows)
  | hidden {run ls : List (SourceLine × Nat)} {rows : List Row} : run ≠ [] →
    (∀ p ∈ run, ¬ s.IsShown p.2) → (∀ p ∈ ls.head?, s.IsShown p.2) → Folded s ls rows →
    Folded s (run ++ ls) (.gap :: rows)

/-- The rows from a line on: behind a line that is hidden, those of the rest of its run are left
out. -/
theorem rowsFrom_folded (index : Nat) (ls : List SourceLine) :
    s.Folded (ls.zipIdx index) (s.rowsFrom index false ls) ∧
      ∃ run rest, ls.zipIdx index = run ++ rest ∧ (∀ p ∈ run, ¬ s.IsShown p.2) ∧
        (∀ p ∈ rest.head?, s.IsShown p.2) ∧ s.Folded rest (s.rowsFrom index true ls) := by
  induction ls generalizing index with
  | nil => exact ⟨.done, [], [], rfl, by simp, by simp, .done⟩
  | cons x ls ih =>
    obtain ⟨hfresh, run, rest, hsplit, hrun, hrest, hrows⟩ := ih (index + 1)
    rw [List.zipIdx_cons]
    by_cases hshown : s.IsShown index
    · have hshows := shows_iff.2 hshown
      rw [rowsFrom, rowsFrom, if_pos hshows, if_pos hshows]
      refine ⟨.shown hshown hfresh, [], _, rfl, by simp, ?_, .shown hshown hfresh⟩
      simpa using hshown
    · have hshows := mt shows_iff.1 hshown
      rw [rowsFrom, rowsFrom, if_neg hshows, if_neg hshows]
      have hlonger : ∀ p ∈ (x, index) :: run, ¬ s.IsShown p.2 :=
        List.forall_mem_cons.2 ⟨hshown, hrun⟩
      rw [hsplit]
      exact ⟨.hidden (List.cons_ne_nil _ _) hlonger hrest hrows, (x, index) :: run, rest, rfl,
        hlonger, hrest, hrows⟩

theorem filterMap_lineRows (index : Nat) (x : SourceLine) :
    (s.lineRows index x).filterMap Row.source? = [(s.lineStart + index, x.text)] := by
  rw [lineRows, List.filterMap_cons_some (by rfl)]
  congr 1
  rw [List.filterMap_eq_nil_iff]
  intro r hr
  obtain ⟨a, -, rfl⟩ := List.mem_map.1 hr
  rfl

/-- The lines that are shown are shown in order, with their numbers. -/
theorem Folded.filterMap_source? {ls : List (SourceLine × Nat)} {rows : List Row}
    (h : s.Folded ls rows) :
    rows.filterMap Row.source?
      = (ls.filter fun p => s.IsShown p.2).map fun p => (s.lineStart + p.2, p.1.text) := by
  induction h with
  | done => rfl
  | shown hshown _ ih =>
    rw [List.filterMap_append, filterMap_lineRows, ih, List.filter_cons_of_pos (by simpa using hshown)]
    rfl
  | @hidden run ls rows hne hrun _ _ ih =>
    have hnone : run.filter (fun p => decide (s.IsShown p.2)) = [] := by
      rw [List.filter_eq_nil_iff]
      intro p hp
      simpa using hrun p hp
    rw [List.filterMap_cons_none (by rfl), ih, List.filter_append, hnone, List.nil_append]

/-! ### The gutter -/

theorem count_lineFeeds (s : Snippet) : Text.count '\n' s.source + 1 = s.lines.length := by
  have hcount := Fence.count_unlines (split_ne_nil '\n' s.source.toList)
    (fun l hl => not_mem_of_mem_split hl)
  rw [← charLines, Fence.unlines_charLines, String.ofList_toList] at hcount
  rw [hcount, lines, SourceLine.length_all]

/-- Line numbers do not exceed that of the last line. -/
theorem number_le {number : Int} {t : List Char} (h : .line number t ∈ s.rows) :
    s.lineStart ≤ number ∧ number ≤ s.lastLine := by
  rcases mem_rowsFrom h with hgap | ⟨i, x, hx, hmem⟩
  · cases hgap
  · have hi := (List.getElem?_eq_some_iff.1 hx).1
    have hcount := s.count_lineFeeds
    rcases List.mem_cons.1 hmem with hline | hmarker
    · obtain ⟨rfl, -⟩ := Row.line.inj hline
      unfold lastLine
      omega
    · obtain ⟨a, -, ha⟩ := List.mem_map.1 hmarker
      cases ha

/-- Only the row that stands for hidden lines has no bar. -/
theorem text_eq_dots_iff {r : Row} (h : r ∈ s.rows) (width : Nat) :
    r.text width = "..." ↔ r = .gap := by
  have hbar : ∀ {a b : String}, '|' ∈ a.toList → ¬ a ++ b = "..." := by
    intro a b ha heq
    have hmem : '|' ∈ (a ++ b).toList := by
      rw [String.toList_append]
      exact List.mem_append_left _ ha
    rw [heq] at hmem
    exact absurd hmem (by decide)
  constructor
  · intro htext
    rcases mem_rowsFrom h with hgap | ⟨i, x, -, hmem⟩
    · exact hgap
    · exfalso
      rcases List.mem_cons.1 hmem with rfl | hmarker
      · rw [Row.text_line] at htext
        exact hbar (by simp) htext
      · obtain ⟨a, -, rfl⟩ := List.mem_map.1 hmarker
        rw [Row.text_marker] at htext
        exact hbar (by simp) htext
  · rintro rfl
    rfl

/-- How an excerpt is shown in a message whose line numbers have a width. -/
structure ShowsLines (s : Snippet) (width : Nat) : Prop where
  /-- A line that is shown gives its rows, and a longest run of hidden lines one row. -/
  folded : s.Folded s.lines.zipIdx s.rows
  /-- The lines that are shown stand in order, each with its number. -/
  source : s.rows.filterMap Row.source?
    = ((charLines s.source.toList).zipIdx.filter fun p => s.IsShown p.2).map
        fun p => (s.lineStart + p.2, p.1)
  /-- A line is shown behind its number, without the blanks at its end. -/
  text_line : ∀ number t, .line number t ∈ s.rows → (Row.line number t).text width
    = padLeft width (toString number) ++ " |" ++ trimEnd (" " ++ String.ofList t)
  /-- The annotated lines are those that have a marker row. -/
  annotated : ∀ i x, s.lines[i]? = some x → (s.IsAnnotated i ↔ ∃ a, .marker x a ∈ s.rows)
  /-- No other row looks like that for a run of hidden lines. -/
  text_gap : ∀ r ∈ s.rows, r.text width = "..." ↔ r = .gap

theorem isAnnotated_iff {i : Nat} {x : SourceLine} (hx : s.lines[i]? = some x) :
    s.IsAnnotated i ↔ ∃ a, .marker x a ∈ s.rows := by
  constructor
  · intro hannotated
    obtain ⟨front, back, hrows, -, -⟩ := exists_rows hx (shows_of_mem (mem_annotatedLines.2 hannotated))
    obtain ⟨y, hy, a, ha, htouches⟩ := hannotated
    obtain rfl := Option.some.inj (hx.symm.trans hy)
    have hmarker : .marker x a ∈ s.lineRows i x :=
      List.mem_cons_of_mem _ (List.mem_map_of_mem (mem_markersOn.2 ⟨ha, htouches⟩))
    rw [hrows]
    exact ⟨a, List.mem_append_right _ (List.mem_append_left _ hmarker)⟩
  · rintro ⟨a, hmarker⟩
    rcases mem_rowsFrom hmarker with hgap | ⟨j, y, hy, hmem⟩
    · cases hgap
    · obtain ⟨rfl, ha, htouches⟩ := mem_lineRows_marker hmem
      obtain rfl := SourceLine.index_unique hy hx
      exact ⟨x, hx, a, ha, htouches⟩

theorem rows_folded (s : Snippet) : s.Folded s.lines.zipIdx s.rows :=
  (rowsFrom_folded 0 s.lines).1

theorem showsLines (s : Snippet) (width : Nat) : s.ShowsLines width where
  folded := s.rows_folded
  source := by
    rw [s.rows_folded.filterMap_source?, ← SourceLine.map_text_all, List.zipIdx_map,
      List.filter_map, List.map_map]
    rfl
  text_line := fun number t _ => Row.text_line width number t
  annotated := fun _ _ => isAnnotated_iff
  text_gap := fun r hr => text_eq_dots_iff hr width

end Snippet

namespace Message

theorem le_gutterWidth {m : Message} {s : Snippet} (hs : s ∈ m.snippets) :
    (toString s.lastLine).length ≤ m.gutterWidth := by
  have hfold : ∀ (ss : List Snippet) (w : Nat),
      w ≤ ss.foldl (fun w s => max w (toString s.lastLine).length) w ∧
        ∀ s ∈ ss, (toString s.lastLine).length
          ≤ ss.foldl (fun w s => max w (toString s.lastLine).length) w := by
    intro ss
    induction ss with
    | nil => exact fun w => ⟨Nat.le_refl _, by simp⟩
    | cons t ss ih =>
      intro w
      obtain ⟨hw, hss⟩ := ih (max w (toString t.lastLine).length)
      rw [List.foldl_cons, List.forall_mem_cons]
      exact ⟨(Nat.le_max_left _ _).trans hw, (Nat.le_max_right _ _).trans hw, hss⟩
  exact (hfold m.snippets 1).2 s hs

theorem exists_of_line_mem {m : Message} {number : Int} {t : List Char}
    (h : .line number t ∈ m.rows) : ∃ s ∈ m.snippets, .line number t ∈ s.rows := by
  rw [rows, List.mem_append, List.mem_append] at h
  rcases h with (h | h) | h
  · exfalso
    rcases List.mem_cons.1 h with h | h
    · cases h
    · unfold placeRows at h
      split at h
      · cases h
      · cases List.mem_singleton.1 h
  · obtain ⟨s, hs, h⟩ := List.mem_flatMap.1 h
    rcases List.mem_cons.1 h with h | h
    · cases h
    · exact ⟨s, hs, h⟩
  · exfalso
    rcases List.mem_append.1 h with h | h
    · split at h
      · cases h
      · cases List.mem_singleton.1 h
    · obtain ⟨f, -, hf⟩ := List.mem_map.1 h
      cases hf

/-- The bar of a row stands behind as many characters as line numbers have at most, and a space. -/
theorem exists_bar {m : Message} (h : ∀ s ∈ m.snippets, 0 ≤ s.lineStart) {r : Row} (hr : r ∈ m.rows)
    (hgutter : r.hasGutter = true) :
    ∃ lead rest, r.text m.gutterWidth = lead ++ " |" ++ rest ∧ lead.length = m.gutterWidth ∧
      '|' ∉ lead.toList := by
  have hspaces : (repeated m.gutterWidth ' ').length = m.gutterWidth ∧
      '|' ∉ (repeated m.gutterWidth ' ').toList := by
    rw [← String.length_toList, toList_repeated, List.length_replicate, List.mem_replicate]
    exact ⟨rfl, fun hbar => absurd hbar.2 (by decide)⟩
  cases r with
  | gutter =>
    exact ⟨_, "", by rw [Row.text, String.append_empty], hspaces⟩
  | marker x a =>
    refine ⟨_, " " ++ (a.marks x ++ trimEnd (a.labelText x)), ?_, hspaces⟩
    rw [Row.text_marker]
    apply String.toList_injective
    simp
  | line number t =>
    obtain ⟨s, hs, hmem⟩ := exists_of_line_mem hr
    obtain ⟨hstart, hlast⟩ := Snippet.number_le hmem
    have hnumber : 0 ≤ number := Int.le_trans (h s hs) hstart
    have hlength := (length_toString_le hnumber hlast).trans (le_gutterWidth hs)
    exact ⟨_, _, Row.text_line _ _ _, length_padLeft hlength,
      bar_not_mem_padLeft (bar_not_mem_toString hnumber)⟩
  | header => cases hgutter
  | place => cases hgutter
  | gap => cases hgutter
  | footer => cases hgutter

/-- Each excerpt of a message shows its lines, folded or not, and the bars of all rows with a gutter
stand in one column. -/
theorem render_folds (m : Message) (h : ∀ s ∈ m.snippets, 0 ≤ s.lineStart) :
    m.render = unlines (m.rows.map (Row.text m.gutterWidth)) ∧
      m.rows = m.opening ++ m.snippets.flatMap (fun s => .gutter :: s.rows) ++ m.closing ∧
      (∀ s ∈ m.snippets, s.ShowsLines m.gutterWidth) ∧
      ∀ r ∈ m.rows, r.hasGutter = true → ∃ lead rest, r.text m.gutterWidth = lead ++ " |" ++ rest ∧
        lead.length = m.gutterWidth ∧ '|' ∉ lead.toList :=
  ⟨m.render_eq, rfl, fun s _ => s.showsLines m.gutterWidth, fun _ => exists_bar h⟩

/-- The line numbers have one digit and two, and the last line is hidden. -/
theorem render_folds_poem :
    (∀ s ∈ poem.snippets, 0 ≤ s.lineStart) ∧ Snippet.verses.ShowsLines 2 ∧
      Snippet.verses.rows.filterMap Row.source?
        = [(8, ['a', 'é']), (9, []), (10, ['b', '€']), (11, ['c'])] ∧
      ∀ r ∈ poem.rows, r.hasGutter = true →
        ∃ lead rest, r.text 2 = lead ++ " |" ++ rest ∧ lead.length = 2 ∧ '|' ∉ lead.toList := by
  have hstart : ∀ s ∈ poem.snippets, 0 ≤ s.lineStart := by decide
  have hwidth : poem.gutterWidth = 2 := by decide +kernel
  obtain ⟨-, -, hlines, hbars⟩ := poem.render_folds hstart
  rw [hwidth] at hlines hbars
  have hverses := hlines .verses (List.mem_cons_of_mem _ List.mem_cons_self)
  have hshown : ((charLines Snippet.verses.source.toList).zipIdx.filter
        fun p => Snippet.verses.IsShown p.2).map (fun p => (Snippet.verses.lineStart + p.2, p.1))
      = [(8, ['a', 'é']), (9, []), (10, ['b', '€']), (11, ['c'])] := by
    decide +kernel
  exact ⟨hstart, hverses, hverses.source.trans hshown, hbars⟩

end Message

end ProposalCheck
