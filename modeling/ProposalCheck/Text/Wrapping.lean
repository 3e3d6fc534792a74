import ProposalCheck.Text.Blank
import ProposalCheck.Text.Width

/-!
# Wrapping lines

A line that is wider than a terminal goes on in the next row. Rows break between words; only a word
that is wider than a row is broken itself, between what is drawn together. `breaks` gives the
positions at which rows start.
-/

namespace ProposalCheck.Text

/-- The words of a text, each with the blanks behind it. -/
def wordsFrom : Nat → List Char → List (List Char)
  | 0, _ => []
  | fuel + 1, cs =>
    let letters := cs.takeWhile fun c => !isBlank c
    if letters.isEmpty then []
    else
      let rest := cs.drop letters.length
      let gap := rest.takeWhile isBlank
      (letters ++ gap) :: wordsFrom fuel (rest.drop gap.length)

/-- The words of a line, each with the blanks behind it. Blanks in front belong to the first word. A
line of blanks has none. -/
def words (cs : List Char) : List (List Char) :=
  let gap := cs.takeWhile isBlank
  match wordsFrom cs.length (cs.drop gap.length) with
  | [] => []
  | w :: ws => (gap ++ w) :: ws

/-- The pieces of a word in rows of limited width: clusters are put into a row as long
as they fit. -/
def foldWord (limit : Nat) : List Char → Nat → List Cluster → List (List Char)
  | row, used, [] => if used == 0 then [] else [row]
  | row, used, k :: ks =>
    if used + k.width > limit then row :: foldWord limit k.chars k.width ks
    else foldWord limit (row ++ k.chars) (used + k.width) ks

/-- The positions at which pieces of a word start, the first of which is `start`, and the width of
the last piece. -/
def pieceStarts : Nat → List (List Char) → List Nat × Nat
  | _, [] => ([], 0)
  | start, [piece] => ([start], width piece)
  | start, piece :: pieces =>
    let (starts, used) := pieceStarts (start + piece.length) pieces
    (start :: starts, used)

/-- The positions at which new rows start, for words from position `start` on in a row of which some
columns are used. -/
def breaksFrom (limit : Nat) : Nat → Nat → List (List Char) → List Nat
  | _, _, [] => []
  | start, used, w :: ws =>
    let next := start + w.length
    let needed := width (trimEndChars w)
    if used + needed ≤ limit then breaksFrom limit next (used + width w) ws
    else if limit < needed then
      let (starts, last) := pieceStarts start (foldWord limit [] 0 (clusters w))
      starts.filter (· != 0) ++ breaksFrom limit next last ws
    else start :: breaksFrom limit next (width w) ws

/-- The positions at which the rows of a line start, but for the first one. -/
def breaks (limit : Nat) (cs : List Char) : List Nat :=
  breaksFrom limit 0 0 (words cs)

/-- A text cut at ascending positions, which count from position `start`. -/
def cut {α : Type} : Nat → List Nat → List α → List (List α)
  | _, [], cs => [cs]
  | start, p :: ps, cs => cs.take (p - start) :: cut p ps (cs.drop (p - start))

/-- A row without the blanks at its end that stand behind position `limit`. -/
def dropExcess (limit : Nat) (cs : List Char) : List Char :=
  let blanksAtEnd := cs.length - (trimEndChars cs).length
  cs.take (cs.length - Nat.min blanksAtEnd (cs.length - limit))

end ProposalCheck.Text
