import ProposalCheck.Markup.Tree

/-!
# Visiting a tree

`Node.places` lists a node and everything below it in preorder, each with the lines it belongs to.
`walk` goes through a tree in the same order, telling a visitor when it comes to a node and when it
leaves it; the visitor sees where in the tree the node is, and may keep the walk from looking below
it. A visitor is put together from `Callbacks`, which are called by the category of a node.
-/

namespace ProposalCheck.Markup

/-- A node in its tree. -/
structure Place where
  node : Node
  /-- The lines of the node or, if it has none of its own, of the nearest node around it
  that has. -/
  lines : Option LineSpan
deriving Repr, Inhabited

namespace Place

/-- What the node is. -/
def construct (p : Place) : Construct :=
  p.node.construct

end Place

mutual

/-- The node and everything below it in preorder, inside a node with the lines `outer`. -/
def Node.placesIn (outer : Option LineSpan) : Node → List Place
  | .node c l cs => ⟨.node c l cs, l <|> outer⟩ :: Node.listPlacesIn (l <|> outer) cs

/-- The nodes of a list and everything below them in preorder. -/
def Node.listPlacesIn (outer : Option LineSpan) : List Node → List Place
  | [] => []
  | n :: ns => n.placesIn outer ++ Node.listPlacesIn outer ns

end

/-- The node and everything below it in preorder. -/
def Node.places (n : Node) : List Place :=
  n.placesIn none

/-- The text that a construct adds to the text of a tree. -/
def Construct.shownText : Construct → String
  | .text s => s
  | .code s => s
  | .softBreak => "\n"
  | .hardBreak => "\n"
  | _ => ""

/-- The text of a tree: its texts, pieces of code and line breaks in order. -/
def Node.textContent (n : Node) : String :=
  String.join (n.places.map fun p => p.construct.shownText)

/-- A node in its tree, with the nodes around it. -/
structure Position extends Place where
  /-- The nodes around it, the innermost first, each with the number of the child that it is or is
  below. -/
  around : List (Place × Nat)
deriving Repr, Inhabited

/-- The position of a node inside some nodes. -/
def Node.position (around : List (Place × Nat)) (n : Node) : Position :=
  ⟨⟨n, n.lines <|> around.head?.bind (·.1.lines)⟩, around⟩

/-- What is around the child with number `k` of a node. -/
def Position.child (p : Position) (k : Nat) : List (Place × Nat) :=
  (p.toPlace, k) :: p.around

/-- What to do after coming to a node. -/
inductive Next where
  | below
  /-- Go on after the node, without leaving it. -/
  | past
deriving DecidableEq, Repr, Inhabited

/-- What happens when a walk comes to a node and when it leaves it. -/
structure Visitor (m : Type → Type) where
  enter : Position → m Next
  depart : Position → m Unit

/-- What to do at a node, by its category. An answer may be left out, and then the walk goes on below
the node. -/
structure Callbacks (m : Type → Type) where
  enter : String → Position → m (Option Next)
  depart : String → Position → m Unit

/-- The visitor that calls the callbacks of the category of a node. -/
def Callbacks.visitor {m : Type → Type} [Monad m] (c : Callbacks m) : Visitor m where
  enter p := do
    let answer ← c.enter p.construct.category p
    return answer.getD .below
  depart p := c.depart p.construct.category p

mutual

/-- Walks through a node inside some nodes. -/
def Node.walkIn {m : Type → Type} [Monad m] (v : Visitor m) (around : List (Place × Nat)) :
    Node → m Unit
  | .node c l cs => do
    let p := (Node.node c l cs).position around
    match ← v.enter p with
    | .past => pure ()
    | .below =>
      Node.walkListIn v p 0 cs
      v.depart p

/-- Walks through children of a node one after the other, the first of which has the number `k`. -/
def Node.walkListIn {m : Type → Type} [Monad m] (v : Visitor m) (p : Position) (k : Nat) :
    List Node → m Unit
  | [] => pure ()
  | n :: ns => do
    n.walkIn v (p.child k)
    Node.walkListIn v p (k + 1) ns

end

/-- Walks through a tree. -/
def Node.walk {m : Type → Type} [Monad m] (n : Node) (v : Visitor m) : m Unit :=
  n.walkIn v []

end ProposalCheck.Markup
