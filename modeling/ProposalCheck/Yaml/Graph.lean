import ProposalCheck.Yaml.Scalar

/-!
# The nodes of a document

A document is a graph: a node that has a name can be part of several others, and even of itself.
Nodes are numbered and know their parts by number. The entries of other mappings can be merged into
a mapping; they come first, so that the entries of the mapping itself win. `Graph.flatten` puts the
merged entries into their places.
-/

namespace ProposalCheck.Yaml

/-- A node of a document. -/
inductive Node where
  | scalar (tag : Tag) (text : String)
  | sequence (tag : Tag) (items : List Nat)
  | mapping (tag : Tag) (entries : List (Nat × Nat))
deriving DecidableEq, Repr, Inhabited

namespace Node

/-- Nothing where a value could be. -/
def empty : Node := scalar .null ""

/-- The tag of a node. -/
def tag : Node → Tag
  | scalar t _ => t
  | sequence t _ => t
  | mapping t _ => t

/-- The node with another tag. -/
def withTag (t : Tag) : Node → Node
  | scalar _ text => scalar t text
  | sequence _ items => sequence t items
  | mapping _ entries => mapping t entries

/-- The entries of a mapping. -/
def entries : Node → List (Nat × Nat)
  | mapping _ es => es
  | _ => []

/-- Whether a node is a mapping. -/
def isMapping : Node → Bool
  | mapping _ _ => true
  | _ => false

end Node

/-- The nodes of a document by number. -/
abbrev Graph := Array Node

namespace Graph

/-- The node of a number. -/
def node (g : Graph) (n : Nat) : Node :=
  g[n]?.getD .empty

/-- The entries of the mapping of a number. -/
def entries (g : Graph) (n : Nat) : List (Nat × Nat) :=
  (g.node n).entries

/-- The graph with other entries in a mapping. -/
def withEntries (g : Graph) (n : Nat) (entries : List (Nat × Nat)) : Graph :=
  match g.node n with
  | .mapping t _ => g.setIfInBounds n (.mapping t entries)
  | _ => g

/-- Whether a key has a tag. -/
def hasTag (g : Graph) (t : Tag) (key : Nat) : Bool :=
  (g.node key).tag == t

/-- The graph with the keys of a mapping that stand for the whole made texts. -/
def withTextKeys (g : Graph) (n : Nat) : Graph :=
  (g.entries n).foldl (fun g e =>
    if g.hasTag .value e.1 then g.setIfInBounds e.1 ((g.node e.1).withTag .text) else g) g

/-! ## Merging -/

/-- The number of the first merged part of a mapping, and the other entries. -/
def takeMerge? (g : Graph) : List (Nat × Nat) → Option (Nat × List (Nat × Nat))
  | [] => none
  | e :: es =>
    if g.hasTag .merge e.1 then some (e.2, es)
    else (takeMerge? g es).map fun (value, rest) => (value, e :: rest)

/-- Puts entries into the place of each merge in a mapping; `merged` are the entries so far. A merge
is taken out before the mapping that it names is flattened itself, so that the fuel need not exceed
the number of merges. -/
def flattenWith : Nat → Nat → List (Nat × Nat) → Graph → Except Error Graph
  | 0, _, _, _ => .error .malformed
  | fuel + 1, n, merged, g =>
    match takeMerge? g (g.entries n) with
    | none =>
      let g := g.withTextKeys n
      .ok (g.withEntries n (merged ++ g.entries n))
    | some (value, rest) => do
      let g := g.withEntries n rest
      match g.node value with
      | .mapping _ _ =>
        let g ← flattenWith fuel value [] g
        flattenWith fuel n (merged ++ g.entries value) g
      | .sequence _ items =>
        let (g, gained) ← items.foldlM (fun (g, gained) item => do
          unless (Graph.node g item).isMapping do throw .malformed
          let g ← flattenWith fuel item [] g
          return (g, g.entries item ++ gained)) (g, [])
        flattenWith fuel n (merged ++ gained) g
      | .scalar _ _ => .error .malformed

/-- The number of merges in a document. -/
def merges (g : Graph) : Nat :=
  g.foldl (fun count n => count + n.entries.countP fun e => g.hasTag .merge e.1) 0

/-- The graph with the merges in a mapping replaced by the entries of the mappings they name. -/
def flatten (g : Graph) (room n : Nat) : Except Error Graph :=
  flattenWith (room + 1) n [] g

/-! ## The text of a node -/

/-- The text of a node: a mapping can give it under the key that stands for the whole. -/
def wholeText (g : Graph) : Nat → Nat → Except Error String
  | 0, _ => .error .endless
  | fuel + 1, n =>
    match g.node n with
    | .scalar _ text => .ok text
    | .sequence _ _ => .error .malformed
    | .mapping _ entries =>
      match entries.find? fun e => g.hasTag .value e.1 with
      | some e => wholeText g fuel e.2
      | none => .error .malformed

end Graph

end ProposalCheck.Yaml
