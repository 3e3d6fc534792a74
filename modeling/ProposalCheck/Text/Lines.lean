/-!
# Texts as sequences of pieces

`split` cuts a text at every occurrence of a separator and `List.intercalate` puts the pieces
together again. The lines of a text are its pieces between line feeds; there is always at least one,
and a text that ends in a line feed has an empty last line.
-/

namespace ProposalCheck.Text

/-- The pieces of a text between the occurrences of a separator. -/
def split (sep : Char) : List Char → List (List Char)
  | [] => [[]]
  | c :: r =>
    if c = sep then [] :: split sep r
    else match split sep r with
      | [] => [[c]]
      | p :: ps => (c :: p) :: ps

theorem split_ne_nil (sep : Char) (cs : List Char) : split sep cs ≠ [] := by
  cases cs with
  | nil => simp [split]
  | cons c r =>
    simp only [split]
    split
    · simp
    · split <;> simp

/-- The pieces of a text between the occurrences of a separator, as texts. -/
def splitOn (sep : Char) (s : String) : List String :=
  (split sep s.toList).map String.ofList

/-- The lines of a text: its pieces between line feeds. -/
def lines (s : String) : List String :=
  splitOn '\n' s

/-- The lines of a list of characters. -/
def charLines (cs : List Char) : List (List Char) :=
  split '\n' cs

/-- The text that has these lines. -/
def unlines (ls : List String) : String :=
  "\n".intercalate ls

/-- The number of occurrences of a character. -/
def count (c : Char) (s : String) : Nat :=
  s.toList.count c

/-- Whether the first list of characters starts the second. -/
def startsWith : List Char → List Char → Bool
  | [], _ => true
  | _, [] => false
  | a :: as, b :: bs => a == b && startsWith as bs

/-- The index of the first occurrence of a text within another. -/
def indexOf? (needle : List Char) : List Char → Option Nat
  | [] => if needle.isEmpty then some 0 else none
  | c :: r =>
    if startsWith needle (c :: r) then some 0 else (indexOf? needle r).map (· + 1)

/-- Whether a text occurs within another. -/
def occursIn (needle hay : String) : Bool :=
  (indexOf? needle.toList hay.toList).isSome

/-- A text repeated `n` times. -/
def repeated (n : Nat) (c : Char) : String :=
  String.ofList (List.replicate n c)

/-- The text preceded by as many spaces as bring it to a width. -/
def padLeft (width : Nat) (s : String) : String :=
  repeated (width - s.length) ' ' ++ s

/-- Texts ordered by their code points. -/
def le (a b : String) : Bool :=
  !decide (b < a)

/-- A list of texts in ascending order of code points. -/
def sorted (ss : List String) : List String :=
  ss.mergeSort le

end ProposalCheck.Text
