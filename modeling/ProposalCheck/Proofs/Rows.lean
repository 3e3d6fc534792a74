import ProposalCheck.Diagnostic.Rendering

/-!
# Rows

A rendered message is a list of rows, and a row has a meaning before it has a text: it is a line of
an excerpt, or an annotation under a line, or it stands for lines that are left out. `Message.rows`
lists the rows of a message in this sense, and `Message.render_eq` says that their texts are what
`Message.render` gives.

`Row.text_line` and `Row.text_marker` say how the rows with a gutter begin: blanks are only cut off
behind the gutter, and behind the strokes of an annotation.
-/

namespace ProposalCheck

open Text

namespace Text

/-! ### Characters before an offset -/

/-- The characters before a byte offset; one that the offset splits belongs to them. -/
def charsBefore : List Char → Int → List Char
  | [], _ => []
  | c :: r, i => if i ≤ 0 then [] else c :: charsBefore r (i - c.utf8Size)

theorem charsBefore_spec (cs : List Char) (i : Int) :
    (∃ after, cs = charsBefore cs i ++ after) ∧ byteLength (charsBefore cs i) = ceilBoundary cs i := by
  induction cs generalizing i with
  | nil => exact ⟨⟨[], rfl⟩, rfl⟩
  | cons c r ih =>
    obtain ⟨⟨after, hafter⟩, hlength⟩ := ih (i - c.utf8Size)
    rw [charsBefore, ceilBoundary]
    split
    · exact ⟨⟨c :: r, rfl⟩, rfl⟩
    · refine ⟨⟨after, ?_⟩, ?_⟩
      · rw [List.cons_append, ← hafter]
      · rw [byteLength_cons, hlength]

theorem charsBefore?_eq (cs : List Char) (i : Int) : charsBefore? cs i = some (charsBefore cs i) := by
  obtain ⟨⟨after, hafter⟩, hlength⟩ := charsBefore_spec cs i
  have hdecoded := decodePrefix?_byteLength_append (charsBefore cs i) after
  rwa [← hafter, hlength] at hdecoded

/-! ### Trimming -/

theorem toList_repeated (n : Nat) (c : Char) : (repeated n c).toList = List.replicate n c := by
  rw [repeated, String.toList_ofList]

theorem trimEndChars_concat {c : Char} (h : isBlank c = false) (a b : List Char) :
    trimEndChars (a ++ c :: b) = a ++ c :: trimEndChars b := by
  have hstop : (b.reverse ++ c :: a.reverse).dropWhile isBlank
      = b.reverse.dropWhile isBlank ++ c :: a.reverse := by
    induction b.reverse with
    | nil => rw [List.nil_append, List.dropWhile_cons_of_neg (by simp [h]), List.dropWhile_nil,
        List.nil_append]
    | cons d r ih =>
      cases hd : isBlank d with
      | true => rw [List.cons_append, List.dropWhile_cons_of_pos hd, List.dropWhile_cons_of_pos hd, ih]
      | false =>
        rw [List.cons_append, List.dropWhile_cons_of_neg (by simp [hd]),
          List.dropWhile_cons_of_neg (by simp [hd]), List.cons_append]
  simp only [trimEndChars, List.reverse_append, List.reverse_cons, List.append_assoc,
    List.singleton_append, hstop, List.reverse_reverse]

/-- Nothing is cut off in front of a character that is no blank. -/
theorem trimEnd_append {c : Char} (h : isBlank c = false) (front : List Char) (a b : String)
    (ha : a.toList = front ++ [c]) : trimEnd (a ++ b) = a ++ trimEnd b := by
  apply String.toList_injective
  rw [toList_trimEnd, String.toList_append, String.toList_append, toList_trimEnd, ha,
    List.append_assoc, List.append_assoc, List.singleton_append, List.singleton_append,
    trimEndChars_concat h]

end Text

/-! ### Single rows -/

namespace Highlight

/-- The number of characters of a line in front of an annotation. -/
def column (a : Highlight) (l : SourceLine) : Nat :=
  (charsBefore l.text (max a.start l.start - l.start)).length

/-- The number of strokes under a line: one for each annotated character, and one if there is none. -/
def strokes (a : Highlight) (l : SourceLine) : Nat :=
  max ((charsBefore l.text (min a.stop l.stop - l.start)).length - a.column l) 1

/-- The strokes of an annotation under a line, at their column. -/
def marks (a : Highlight) (l : SourceLine) : String :=
  repeated (a.column l) ' ' ++ repeated (a.strokes l) (stroke a.level)

theorem markerChecked?_eq (a : Highlight) (l : SourceLine) :
    a.markerChecked? charsBefore? l = some (a.marks l ++ a.labelText l) := by
  simp only [markerChecked?, charsBefore?_eq]
  rfl

theorem exists_strokes (a : Highlight) (l : SourceLine) : ∃ n, a.strokes l = n + 1 := by
  have hpos : 0 < a.strokes l := Nat.le_max_right _ _
  exact ⟨a.strokes l - 1, by omega⟩

theorem isBlank_stroke (k : Level) : isBlank (stroke k) = false := by
  cases k <;> decide +kernel

end Highlight

/-- A row of a rendered message, by what it shows. -/
inductive Row where
  /-- What the message says. -/
  | header (text : String)
  /-- Where the message points. -/
  | place (origin : String) (number : Int) (column : Nat)
  /-- An empty gutter, in front of and behind an excerpt. -/
  | gutter
  /-- Lines that are left out. -/
  | gap
  /-- A line of an excerpt. -/
  | line (number : Int) (text : List Char)
  /-- An annotation under a line. -/
  | marker (l : SourceLine) (a : Highlight)
  /-- A footer. -/
  | footer (level : Level) (title : String)
deriving DecidableEq, Repr

namespace Row

/-- The text of a row in a message whose line numbers have a width. -/
def text (width : Nat) : Row → String
  | header t => t
  | place origin number column =>
    repeated width ' ' ++ "--> " ++ (origin ++ ":" ++ toString number ++ ":" ++ toString column)
  | gutter => repeated width ' ' ++ " |"
  | gap => "..."
  | line number t => trimEnd (padLeft width (toString number) ++ " | " ++ String.ofList t)
  | marker l a => trimEnd (repeated width ' ' ++ " | " ++ (a.marks l ++ a.labelText l))
  | footer level title => repeated width ' ' ++ " = " ++ level.name ++ ": " ++ title

theorem text_line (width : Nat) (number : Int) (t : List Char) :
    (line number t).text width
      = padLeft width (toString number) ++ " |" ++ trimEnd (" " ++ String.ofList t) := by
  have hbar : isBlank '|' = false := by decide +kernel
  have hsplit : padLeft width (toString number) ++ " | " ++ String.ofList t
      = (padLeft width (toString number) ++ " |") ++ (" " ++ String.ofList t) := by
    simp only [String.append_assoc]
    rfl
  rw [text, hsplit]
  refine trimEnd_append hbar ((padLeft width (toString number)).toList ++ [' ']) _ _ ?_
  rw [String.toList_append, List.append_assoc]
  rfl

theorem text_marker (width : Nat) (l : SourceLine) (a : Highlight) :
    (marker l a).text width
      = repeated width ' ' ++ " | " ++ a.marks l ++ trimEnd (a.labelText l) := by
  obtain ⟨n, hn⟩ := a.exists_strokes l
  rw [text, ← String.append_assoc]
  refine trimEnd_append (Highlight.isBlank_stroke a.level) ((repeated width ' ' ++ " | "
    ++ repeated (a.column l) ' ').toList ++ List.replicate n (Highlight.stroke a.level)) _ _ ?_
  rw [Highlight.marks, hn, ← String.append_assoc, String.toList_append, toList_repeated,
    List.replicate_succ', List.append_assoc]

end Row

/-! ### Excerpts -/

namespace Snippet

/-- The lines of an excerpt. -/
def lines (s : Snippet) : List SourceLine :=
  SourceLine.all s.source.toList

/-- The rows of the line of an index: the line itself and what is marked under it. -/
def lineRows (s : Snippet) (index : Nat) (l : SourceLine) : List Row :=
  .line (s.lineStart + index) l.text :: (s.markersOn l).map (.marker l)

/-- The rows of consecutive lines from an index on; `elided` tells that the line before is hidden. -/
def rowsFrom (s : Snippet) : Nat → Bool → List SourceLine → List Row
  | _, _, [] => []
  | index, elided, l :: ls =>
    if s.shows (s.annotatedLines s.lines) index then
      s.lineRows index l ++ s.rowsFrom (index + 1) false ls
    else if elided then s.rowsFrom (index + 1) true ls
    else .gap :: s.rowsFrom (index + 1) true ls

/-- The rows of an excerpt. -/
def rows (s : Snippet) : List Row :=
  s.rowsFrom 0 false s.lines

theorem lineRowsChecked?_eq (s : Snippet) (width index : Nat) (l : SourceLine) :
    s.lineRowsChecked? charsBefore? width index l
      = some ((s.lineRows index l).map (Row.text width)) := by
  have hmarkers : ((s.markersOn l).mapM fun a => do
        let marker ← a.markerChecked? charsBefore? l
        return trimEnd (repeated width ' ' ++ " | " ++ marker))
      = some ((s.markersOn l).map fun a => (Row.marker l a).text width) := by
    simp only [Highlight.markerChecked?_eq]
    exact List.mapM_pure
  simp only [lineRowsChecked?, hmarkers, lineRows, List.map_cons, List.map_map]
  rfl

theorem rowsFromChecked?_eq (s : Snippet) (width index : Nat) (elided : Bool) (ls : List SourceLine) :
    s.rowsFromChecked? charsBefore? width (s.annotatedLines s.lines) index elided ls
      = some ((s.rowsFrom index elided ls).map (Row.text width)) := by
  induction ls generalizing index elided with
  | nil => rfl
  | cons l ls ih =>
    simp only [rowsFromChecked?, rowsFrom, lineRowsChecked?_eq, ih]
    by_cases hshown : s.shows (s.annotatedLines s.lines) index
    · simp [hshown]
    · cases elided <;> simp [hshown, Row.text]

theorem rowsChecked?_eq (s : Snippet) (width : Nat) :
    s.rowsChecked? charsBefore? width = some (s.rows.map (Row.text width)) :=
  s.rowsFromChecked?_eq width 0 false s.lines

/-! ### Rows of a line -/

section

variable {s : Snippet}

theorem mem_annotatedLines {ls : List SourceLine} {i : Nat} :
    i ∈ s.annotatedLines ls ↔ ∃ x, ls[i]? = some x ∧ ∃ a ∈ s.annotations, a.touches x = true := by
  simp only [annotatedLines, List.mem_map, List.mem_filter, List.any_eq_true]
  constructor
  · rintro ⟨⟨x, j⟩, ⟨hx, ha⟩, rfl⟩
    exact ⟨x, List.mem_zipIdx_iff_getElem?.1 hx, ha⟩
  · rintro ⟨x, hx, ha⟩
    exact ⟨(x, i), ⟨List.mem_zipIdx_iff_getElem?.2 hx, ha⟩, rfl⟩

/-- Lines with annotations are never folded away. -/
theorem shows_of_mem {annotated : List Nat} {i : Nat} (h : i ∈ annotated) :
    s.shows annotated i = true := by
  unfold shows
  split
  · exact List.any_eq_true.2 ⟨i, h, by simp⟩
  · rfl

theorem mem_markersOn {a : Highlight} {x : SourceLine} :
    a ∈ s.markersOn x ↔ a ∈ s.annotations ∧ a.touches x = true := by
  rw [markersOn, List.mem_mergeSort, List.mem_filter]

theorem count_markersOn {a : Highlight} {x : SourceLine} (h : a.touches x = true) :
    (s.markersOn x).count a = s.annotations.count a := by
  rw [markersOn, (List.mergeSort_perm _ _).count_eq]
  exact List.count_filter h

/-- Each row that stands for no gap belongs to a line. -/
theorem mem_rowsFrom {index : Nat} {elided : Bool} {ls : List SourceLine} {r : Row}
    (h : r ∈ s.rowsFrom index elided ls) :
    r = .gap ∨ ∃ j y, ls[j]? = some y ∧ r ∈ s.lineRows (index + j) y := by
  induction ls generalizing index elided with
  | nil => cases h
  | cons l ls ih =>
    have hnext : ∀ {elided}, r ∈ s.rowsFrom (index + 1) elided ls →
        r = .gap ∨ ∃ j y, (l :: ls)[j]? = some y ∧ r ∈ s.lineRows (index + j) y := by
      intro elided h
      rcases ih h with hgap | ⟨j, y, hy, hr⟩
      · exact .inl hgap
      · rw [Nat.add_assoc, Nat.add_comm 1 j] at hr
        exact .inr ⟨j + 1, y, hy, hr⟩
    rw [rowsFrom] at h
    split at h
    · rcases List.mem_append.1 h with h | h
      · exact .inr ⟨0, l, rfl, h⟩
      · exact hnext h
    · split at h
      · exact hnext h
      · rcases List.mem_cons.1 h with rfl | h
        · exact .inl rfl
        · exact hnext h

theorem rowsFrom_append {index : Nat} {elided : Bool} {before after : List SourceLine}
    {x : SourceLine}
    (h : s.shows (s.annotatedLines s.lines) (index + before.length) = true) :
    s.rowsFrom index elided (before ++ x :: after)
      = s.rowsFrom index elided before ++ (s.lineRows (index + before.length) x
        ++ s.rowsFrom (index + before.length + 1) false after) := by
  induction before generalizing index elided with
  | nil =>
    simp only [List.nil_append, rowsFrom]
    exact if_pos h
  | cons l before ih =>
    have hlength : index + (l :: before).length = index + 1 + before.length := by
      rw [List.length_cons]
      omega
    rw [hlength] at h ⊢
    rw [List.cons_append, rowsFrom, rowsFrom, ih h, ih h]
    split
    · rw [List.append_assoc]
    · split <;> rfl

/-- The rows of a line that is shown stand together; the rows in front of them are of lines above,
and the rows behind them of lines below. -/
theorem exists_rows {i : Nat} {x : SourceLine} (hx : s.lines[i]? = some x)
    (h : s.shows (s.annotatedLines s.lines) i = true) :
    ∃ front back, s.rows = front ++ (s.lineRows i x ++ back) ∧
      (∀ r ∈ front, r = .gap ∨ ∃ j y, j < i ∧ s.lines[j]? = some y ∧ r ∈ s.lineRows j y) ∧
      ∀ r ∈ back, r = .gap ∨ ∃ j y, i < j ∧ s.lines[j]? = some y ∧ r ∈ s.lineRows j y := by
  obtain ⟨hi, rfl⟩ := List.getElem?_eq_some_iff.1 hx
  have hlines : s.lines = s.lines.take i ++ s.lines[i] :: s.lines.drop (i + 1) := by
    rw [← List.drop_eq_getElem_cons hi, List.take_append_drop]
  have hlength : 0 + (s.lines.take i).length = i := by
    rw [List.length_take]
    omega
  refine ⟨s.rowsFrom 0 false (s.lines.take i), s.rowsFrom (i + 1) false (s.lines.drop (i + 1)), ?_,
    ?_, ?_⟩
  · rw [rows]
    conv => lhs; rw [hlines]
    rw [rowsFrom_append (by rwa [hlength]), hlength]
  · intro r hr
    rcases mem_rowsFrom hr with hgap | ⟨j, y, hy, hr⟩
    · exact .inl hgap
    · rw [List.getElem?_take] at hy
      split at hy
      · rw [Nat.zero_add] at hr
        exact .inr ⟨j, y, ‹_›, hy, hr⟩
      · cases hy
  · intro r hr
    rcases mem_rowsFrom hr with hgap | ⟨j, y, hy, hr⟩
    · exact .inl hgap
    · rw [List.getElem?_drop] at hy
      exact .inr ⟨i + 1 + j, y, by omega, hy, hr⟩

theorem mem_lineRows_marker {i : Nat} {x y : SourceLine} {a : Highlight}
    (h : Row.marker x a ∈ s.lineRows i y) : x = y ∧ a ∈ s.annotations ∧ a.touches x = true := by
  rcases List.mem_cons.1 h with h | h
  · cases h
  · obtain ⟨b, hb, hrow⟩ := List.mem_map.1 h
    obtain ⟨rfl, rfl⟩ := Row.marker.inj hrow
    exact ⟨rfl, mem_markersOn.1 hb⟩

end

/-! ### Places -/

/-- The line and column of a byte offset. -/
def position (s : Snippet) (offset : Int) : Int × Nat :=
  let ls := charLines (charsBefore s.source.toList offset)
  (s.lineStart + (ls.length - 1 : Nat), (ls.getLastD []).length + 1)

/-- The line and column that an excerpt names: where its first annotation starts. -/
def place (s : Snippet) : Int × Nat :=
  match s.firstAnnotation? with
  | some a => s.position a.start
  | none => (s.lineStart, 1)

theorem placeChecked?_eq (s : Snippet) (origin : String) :
    s.placeChecked? charsBefore? origin
      = some (origin ++ ":" ++ toString s.place.1 ++ ":" ++ toString s.place.2) := by
  unfold placeChecked? place
  cases s.firstAnnotation? with
  | none => rfl
  | some a =>
    simp only [positionChecked?, charsBefore?_eq]
    rfl

end Snippet

/-! ### Messages -/

namespace Message

/-- The row that names a place, if an excerpt has an origin. -/
def placeRows (m : Message) : List Row :=
  match m.located? with
  | none => []
  | some (s, origin) => [.place origin s.place.1 s.place.2]

/-- The rows in front of the excerpts. -/
def opening (m : Message) : List Row :=
  .header m.header :: m.placeRows

/-- The rows behind the excerpts. -/
def closing (m : Message) : List Row :=
  (if m.snippets.isEmpty then [] else [.gutter]) ++ m.footers.map fun f => .footer f.level f.title

/-- The rows of a message. -/
def rows (m : Message) : List Row :=
  m.opening ++ m.snippets.flatMap (fun s => .gutter :: s.rows) ++ m.closing

theorem placeRowChecked?_eq (m : Message) :
    m.placeRowChecked? charsBefore? = some (m.placeRows.map (Row.text m.gutterWidth)) := by
  unfold placeRowChecked? placeRows
  cases m.located? with
  | none => rfl
  | some p =>
    simp only [Snippet.placeChecked?_eq]
    rfl

theorem snippetRowsChecked?_eq (m : Message) :
    m.snippetRowsChecked? charsBefore?
      = some ((m.snippets.flatMap fun s => .gutter :: s.rows).map (Row.text m.gutterWidth)) := by
  have hblocks : m.snippets.mapM (·.rowsChecked? charsBefore? m.gutterWidth)
      = some (m.snippets.map fun s => s.rows.map (Row.text m.gutterWidth)) := by
    simp only [Snippet.rowsChecked?_eq]
    exact List.mapM_pure
  simp only [snippetRowsChecked?, hblocks, List.map_flatMap, List.map_cons]
  show some (List.flatMap _ _) = _
  rw [List.flatMap_map]
  rfl

/-- A message is rendered as the texts of its rows. -/
theorem render_eq (m : Message) : m.render = unlines (m.rows.map (Row.text m.gutterWidth)) := by
  have hrows : m.renderChecked? charsBefore?
      = some (unlines (m.rows.map (Row.text m.gutterWidth))) := by
    simp only [renderChecked?, placeRowChecked?_eq, snippetRowsChecked?_eq, rows, opening, closing,
      List.map_append, List.map_cons, List.map_map, ← List.append_assoc]
    cases m.snippets <;> rfl
  simp only [render, hrows, Option.get_some]

end Message

/-- An annotation from inside a character to a line further down. -/
def Highlight.across : Highlight :=
  { start := 2, stop := 6, level := .warning, label := some "so far " }

/-- A folded excerpt with an annotation across lines and one on an empty line. -/
def Snippet.verses : Snippet where
  source := "aé\n\nb€\nc\nd"
  lineStart := 8
  origin := some "a.md"
  annotations := [{ start := 4, stop := 4, level := .error, label := some "nothing" }, .across]
  fold := true

/-- A message with two excerpts, of which the second one has an origin. -/
def Message.poem : Message where
  level := .error
  title := "verses"
  snippets := [{ source := "x" }, .verses]

/-- The label stands on the last row of its annotation, and one row stands for the hidden lines. -/
example : Message.poem.render = unlines ["error: verses", "  --> a.md:8:3", "   |", " 1 | x", "   |",
    " 8 | aé", "   |   -", " 9 |", "   | -", "   | ^ nothing", "10 | b€", "   | - so far", "11 | c",
    "...", "   |"] := by
  cbv

end ProposalCheck
