import ProposalCheck.Diagnostic.Basic
import ProposalCheck.Text.Blank
import ProposalCheck.Text.Lines

/-!
# Diagnostics as plain text

A message is laid out in rows: a header, the place of the first excerpt that has an origin, the
lines of each excerpt behind a gutter of line numbers with marker rows under annotated text, and one
row for each footer.

Positions are found by reading the characters in front of a byte offset. How they are read is a
parameter, `before?`, of everything up to `Message.renderChecked?`. A message is rendered with
`Text.charsBefore?`, which rounds the offset and always succeeds, so that there is a text for every
message: `Message.render`.
-/

namespace ProposalCheck

open Text

/-- A line of an excerpt with the byte range that it takes in the whole excerpt. -/
structure SourceLine where
  text : List Char
  start : Nat
  stop : Nat
deriving DecidableEq, Repr, Inhabited

namespace SourceLine

/-- Byte ranges for consecutive lines, the first of which starts at `offset`. -/
def place (offset : Nat) : List (List Char) → List SourceLine
  | [] => []
  | l :: ls =>
    let stop := offset + byteLength l
    ⟨l, offset, stop⟩ :: place (stop + 1) ls

/-- The lines of a text with their byte ranges. -/
def all (cs : List Char) : List SourceLine :=
  place 0 (charLines cs)

end SourceLine

namespace Highlight

/-- Whether an annotation is shown under a line. An empty range is shown where its position is; any
other under the lines that it meets, their line break included. -/
def touches (a : Highlight) (l : SourceLine) : Bool :=
  if a.start = a.stop then l.start ≤ a.start && a.start ≤ l.stop
  else a.start < l.stop + 1 && a.stop > l.start

/-- The order in which annotations of one line are shown: by start, then by end. -/
def shownBefore (a b : Highlight) : Bool :=
  a.start < b.start || (a.start == b.start && a.stop ≤ b.stop)

/-- What stands before a label. -/
def labelLead : Level → String
  | .info => "info: "
  | .note => "note: "
  | .help => "help: "
  | _ => ""

/-- The character that underlines annotated text. -/
def stroke : Level → Char
  | .error => '^'
  | _ => '-'

/-- The label of an annotation on the row of a line: only the line on which the annotation ends
shows it. -/
def labelText (a : Highlight) (l : SourceLine) : String :=
  match a.label with
  | some label => if label ≠ "" ∧ a.stop ≤ l.stop + 1 then " " ++ labelLead a.level ++ label else ""
  | none => ""

end Highlight

section

variable (before? : List Char → Int → Option (List Char))

/-- The marker row of an annotation under a line, without the gutter. -/
def Highlight.markerChecked? (a : Highlight) (l : SourceLine) : Option String := do
  let column ← (before? l.text (max a.start l.start - l.start)).map List.length
  let stop ← (before? l.text (min a.stop l.stop - l.start)).map List.length
  let width := max (stop - column) 1
  return repeated column ' ' ++ repeated width (Highlight.stroke a.level) ++ a.labelText l

namespace Snippet

/-- The annotations shown under a line, in the order of their rows. -/
def markersOn (s : Snippet) (l : SourceLine) : List Highlight :=
  (s.annotations.filter (·.touches l)).mergeSort Highlight.shownBefore

/-- The indices of the lines that carry an annotation. -/
def annotatedLines (s : Snippet) (ls : List SourceLine) : List Nat :=
  (ls.zipIdx.filter fun p => s.annotations.any (·.touches p.1)).map (·.2)

/-- Whether the line of an index is shown: all are unless the excerpt is folded and has an annotated
line; then those at most one line away from an annotated one. -/
def shows (s : Snippet) (annotated : List Nat) (index : Nat) : Bool :=
  if s.fold && !annotated.isEmpty then annotated.any fun a => index ≤ a + 1 && a ≤ index + 1
  else true

/-- The rows of a line: its number and text, then its markers. -/
def lineRowsChecked? (s : Snippet) (width index : Nat) (l : SourceLine) : Option (List String) := do
  let number := padLeft width (toString (s.lineStart + index))
  let row := trimEnd (number ++ " | " ++ String.ofList l.text)
  let markers ← (s.markersOn l).mapM fun a => do
    let marker ← a.markerChecked? before? l
    return trimEnd (repeated width ' ' ++ " | " ++ marker)
  return row :: markers

/-- The rows of consecutive lines from an index on; `elided` tells that the line before is hidden. A
run of hidden lines gives one row. -/
def rowsFromChecked? (s : Snippet) (width : Nat) (annotated : List Nat) :
    Nat → Bool → List SourceLine → Option (List String)
  | _, _, [] => some []
  | index, elided, l :: ls =>
    if s.shows annotated index then do
      let here ← s.lineRowsChecked? before? width index l
      let rest ← rowsFromChecked? s width annotated (index + 1) false ls
      return here ++ rest
    else do
      let rest ← rowsFromChecked? s width annotated (index + 1) true ls
      return if elided then rest else "..." :: rest

/-- The rows of an excerpt. -/
def rowsChecked? (s : Snippet) (width : Nat) : Option (List String) :=
  let ls := SourceLine.all s.source.toList
  s.rowsFromChecked? before? width (s.annotatedLines ls) 0 false ls

/-- The number of the last line of an excerpt. -/
def lastLine (s : Snippet) : Int :=
  s.lineStart + Text.count '\n' s.source

/-- The line and column, both counted from one, of a byte offset. -/
def positionChecked? (s : Snippet) (offset : Int) : Option (Int × Nat) := do
  let before ← before? s.source.toList offset
  let ls := charLines before
  return (s.lineStart + (ls.length - 1 : Nat), (ls.getLastD []).length + 1)

/-- The annotation that starts first; of several the one that was added first. -/
def firstAnnotation? (s : Snippet) : Option Highlight :=
  match s.annotations with
  | [] => none
  | a :: as => some (as.foldl (fun best b => if b.start < best.start then b else best) a)

/-- The place that an excerpt of a known origin names in the header. -/
def placeChecked? (s : Snippet) (origin : String) : Option String := do
  let position ← match s.firstAnnotation? with
    | some a => s.positionChecked? before? a.start
    | none => some (s.lineStart, 1)
  return origin ++ ":" ++ toString position.1 ++ ":" ++ toString position.2

end Snippet

namespace Message

/-- The width of the line numbers: that of the longest last line number. -/
def gutterWidth (m : Message) : Nat :=
  m.snippets.foldl (fun w s => max w (toString s.lastLine).length) 1

/-- The header row. -/
def header (m : Message) : String :=
  let id := match m.id with
    | some id => if id = "" then "" else "[" ++ id ++ "]"
    | none => ""
  m.level.name ++ id ++ ": " ++ m.title

/-- The first excerpt that has an origin, and that origin. -/
def located? (m : Message) : Option (Snippet × String) :=
  m.snippets.findSome? fun s => s.origin.map (s, ·)

/-- The row that names the place of the message, if an excerpt has an origin. -/
def placeRowChecked? (m : Message) : Option (List String) :=
  match m.located? with
  | none => some []
  | some (s, origin) => do
    let place ← s.placeChecked? before? origin
    return [repeated m.gutterWidth ' ' ++ "--> " ++ place]

/-- The rows of the excerpts, each after an empty gutter row. -/
def snippetRowsChecked? (m : Message) : Option (List String) := do
  let width := m.gutterWidth
  let blocks ← m.snippets.mapM (·.rowsChecked? before? width)
  return blocks.flatMap fun rows => (repeated width ' ' ++ " |") :: rows

/-- The text of a message, if all characters that are asked for can be read. -/
def renderChecked? (m : Message) : Option String := do
  let pad := repeated m.gutterWidth ' '
  let place ← m.placeRowChecked? before?
  let excerpts ← m.snippetRowsChecked? before?
  let close := if m.snippets.isEmpty then [] else [pad ++ " |"]
  let footers := m.footers.map fun f => pad ++ " = " ++ f.level.name ++ ": " ++ f.title
  return unlines (m.header :: place ++ excerpts ++ close ++ footers)

end Message

end

/-! ## Rendering succeeds -/

/-- A list of successful steps is a successful list. -/
theorem isSome_mapM {α β : Type} (f : α → Option β) (xs : List α) (h : ∀ x, (f x).isSome) :
    (xs.mapM f).isSome := by
  induction xs with
  | nil => rfl
  | cons x xs ih =>
    obtain ⟨y, hy⟩ := Option.isSome_iff_exists.1 (h x)
    obtain ⟨ys, hys⟩ := Option.isSome_iff_exists.1 ih
    simp [List.mapM_cons, hy, hys]

section

variable {before? : List Char → Int → Option (List Char)}

theorem Highlight.markerChecked?_isSome (h : ∀ cs i, (before? cs i).isSome) (a : Highlight)
    (l : SourceLine) : (a.markerChecked? before? l).isSome := by
  obtain ⟨c, hc⟩ := Option.isSome_iff_exists.1 (h l.text (max a.start l.start - l.start))
  obtain ⟨d, hd⟩ := Option.isSome_iff_exists.1 (h l.text (min a.stop l.stop - l.start))
  simp [markerChecked?, hc, hd]

theorem Snippet.lineRowsChecked?_isSome (h : ∀ cs i, (before? cs i).isSome) (s : Snippet)
    (width index : Nat) (l : SourceLine) : (s.lineRowsChecked? before? width index l).isSome := by
  obtain ⟨rows, hr⟩ := Option.isSome_iff_exists.1 (isSome_mapM
    (fun a => do
      let marker ← a.markerChecked? before? l
      return trimEnd (repeated width ' ' ++ " | " ++ marker)) (s.markersOn l) (by
        intro a
        obtain ⟨m, hm⟩ := Option.isSome_iff_exists.1 (a.markerChecked?_isSome h l)
        simp [hm]))
  simp only [lineRowsChecked?, hr]
  rfl

theorem Snippet.rowsFromChecked?_isSome (h : ∀ cs i, (before? cs i).isSome) (s : Snippet)
    (width : Nat) (annotated : List Nat) (index : Nat) (elided : Bool) (ls : List SourceLine) :
    (s.rowsFromChecked? before? width annotated index elided ls).isSome := by
  induction ls generalizing index elided with
  | nil => rfl
  | cons l ls ih =>
    obtain ⟨here, hh⟩ := Option.isSome_iff_exists.1 (s.lineRowsChecked?_isSome h width index l)
    obtain ⟨shown, hs⟩ := Option.isSome_iff_exists.1 (ih (index + 1) false)
    obtain ⟨hidden, hd⟩ := Option.isSome_iff_exists.1 (ih (index + 1) true)
    simp only [rowsFromChecked?]
    split
    · simp [hh, hs]
    · simp [hd]

theorem Snippet.placeChecked?_isSome (h : ∀ cs i, (before? cs i).isSome) (s : Snippet)
    (origin : String) : (s.placeChecked? before? origin).isSome := by
  simp only [placeChecked?]
  cases s.firstAnnotation? with
  | none => rfl
  | some a =>
    obtain ⟨p, hp⟩ := Option.isSome_iff_exists.1 (h s.source.toList a.start)
    simp [positionChecked?, hp]

/-- Rendering fails only where characters cannot be read. -/
theorem Message.renderChecked?_isSome (h : ∀ cs i, (before? cs i).isSome) (m : Message) :
    (m.renderChecked? before?).isSome := by
  have place : (m.placeRowChecked? before?).isSome := by
    simp only [placeRowChecked?]
    cases m.located? with
    | none => rfl
    | some p =>
      obtain ⟨t, ht⟩ := Option.isSome_iff_exists.1 (p.1.placeChecked?_isSome h p.2)
      simp [ht]
  have excerpts : (m.snippetRowsChecked? before?).isSome := by
    obtain ⟨rows, hr⟩ := Option.isSome_iff_exists.1 (isSome_mapM
      (fun s : Snippet => s.rowsChecked? before? m.gutterWidth) m.snippets
      (fun s => s.rowsFromChecked?_isSome h _ _ _ _ _))
    simp [snippetRowsChecked?, hr]
  obtain ⟨p, hp⟩ := Option.isSome_iff_exists.1 place
  obtain ⟨e, he⟩ := Option.isSome_iff_exists.1 excerpts
  simp [renderChecked?, hp, he]

end

/-- The plain text of a message, without a line break at its end. -/
def Message.render (m : Message) : String :=
  (m.renderChecked? charsBefore?).get (m.renderChecked?_isSome charsBefore?_isSome)

end ProposalCheck
