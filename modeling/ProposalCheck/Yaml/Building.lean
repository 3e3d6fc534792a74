import ProposalCheck.Yaml.Graph

/-!
# From nodes to data

Data is built in two passes. The first one (`Build.run`) turns nodes into objects, which still know
their parts by number: texts become scalars at once, while the parts of lists and mappings wait
until all that is at the same depth has been looked at. Whatever is wrong with a document is found
here, and this order decides which of two errors is told. The second pass (`valueOf`) follows the
numbers and gives labels to what contains itself.
-/

namespace ProposalCheck.Yaml

open Data (Value Label Enclosure)

namespace Tag

/-- Whether data of this kind has parts. -/
def isEnclosure (t : Tag) : Bool :=
  [seq, orderedMap, pairs, map, set].contains t

/-- Whether data of this kind is told by a text. -/
def isScalar (t : Tag) : Bool :=
  [null, bool, int, real, binary, timestamp, text].contains t

end Tag

/-- What a node stands for. -/
inductive Object where
  /-- A value without parts. All that is written as `.nan` is one and the same. -/
  | scalar (value : Value) (isCommonNaN : Bool)
  | list (items : List Nat)
  | pairs (entries : List (Nat × Nat))
  | map (entries : List (Nat × Nat))
  | set (entries : List (Nat × Nat))
deriving Repr, Inhabited

/-- Whether a mapping can have an object as a key. -/
def Object.isKey : Object → Bool
  | scalar _ _ => true
  | _ => false

/-! ## Objects -/

/-- The objects that have been built. -/
structure Build where
  graph : Graph
  /-- The number of merges in the document. -/
  merges : Nat
  objects : Array (Option Object)
  /-- The nodes whose parts have not been looked at, the last one first. -/
  waiting : List Nat := []
deriving Inhabited

namespace Build

/-- A step of building. -/
abbrev Step := StateT Build (Except Error)

/-- The document has a part that is not what its tag says. -/
def malformed {α : Type} : Step α := throw .malformed

/-- The object of a node. -/
def object? (n : Nat) : Step (Option Object) := do
  return ((← get).objects[n]?).join

/-- Sets the object of a node. -/
def record (n : Nat) (o : Object) : Step Unit :=
  modify fun b => { b with objects := b.objects.setIfInBounds n (some o) }

/-- Lets a node wait for its parts. -/
def wait (n : Nat) : Step Unit := do
  record n (.list [])
  modify fun b => { b with waiting := n :: b.waiting }

/-- Sets the value of a node that is told by a text. -/
def recordScalar (n : Nat) (t : Tag) (text : String) : Step Unit := do
  let value ← (Scalar.value t text : Except Error Value)
  record n (.scalar value (t == .real && Scalar.isCommonNaN text))

/-- Starts the object of a node, unless it has been started before. -/
def start (n : Nat) : Step Unit := do
  if (← object? n).isSome then return
  let g := (← get).graph
  if (g.node n).tag.isEnclosure then wait n
  else
    match g.node n with
    | .scalar t text => recordScalar n t text
    | .sequence _ _ => malformed
    | .mapping t _ =>
      unless t.isScalar do malformed
      let text ← (g.wholeText (g.size + 1) n : Except Error String)
      if t == .timestamp then throw .notTimestampText
      recordScalar n t text

/-- The entries of a mapping with its merges, all of which are started. Keys have no parts. -/
def startEntries (n : Nat) : Step (List (Nat × Nat)) := do
  let b ← get
  let g ← (b.graph.flatten b.merges n : Except Error Graph)
  set { b with graph := g }
  (g.entries n).forM fun (k, v) => do
    start k
    unless ((← object? k).map Object.isKey).getD false do malformed
    start v
  return g.entries n

/-- The one entry of a mapping, which is started. -/
def startPair (n : Nat) : Step (Nat × Nat) := do
  match (← get).graph.node n with
  | .mapping _ [(k, v)] =>
    start k
    start v
    return (k, v)
  | _ => malformed

/-- Looks at the parts of a node. -/
def fill (n : Nat) : Step Unit := do
  match (← get).graph.node n with
  | .sequence .seq items =>
    items.forM start
    record n (.list items)
  | .sequence .orderedMap items => record n (.pairs (← items.mapM startPair))
  | .sequence .pairs items => record n (.pairs (← items.mapM startPair))
  | .mapping .map _ => record n (.map (← startEntries n))
  | .mapping .set _ => record n (.set (← startEntries n))
  | _ => malformed

/-- Looks at the parts of all nodes that wait, of their parts, and so on. Each level has a node that
was on none before, so that the fuel need not exceed the number of nodes. -/
def fillAll : Nat → Step Unit
  | 0 => return
  | fuel + 1 => do
    let level := (← get).waiting.reverse
    if level.isEmpty then return
    modify fun b => { b with waiting := [] }
    level.forM fill
    fillAll fuel

/-- The objects of a document with a root. -/
def run (g : Graph) (root : Nat) : Except Error (Array (Option Object)) := do
  let first : Build := { graph := g, merges := g.merges, objects := Array.replicate g.size none }
  let (_, b) ← (do start root; fillAll (g.size + 1) : Step Unit).run first
  return b.objects

end Build

/-! ## Values -/

/-- A key of a mapping with its place in the document. -/
structure PlacedKey where
  place : Nat
  value : Value
deriving Inhabited

/-- Whether two keys are one: they stand at the same place or denote the same. -/
def PlacedKey.same (a b : PlacedKey) : Bool :=
  a.place == b.place || a.value.sameKey b.value

/-- The entries with one set; an entry of the same key keeps its place and its key. -/
def putEntry (key : PlacedKey) (v : Value) : List (PlacedKey × Value) → List (PlacedKey × Value)
  | [] => [(key, v)]
  | (k, w) :: es => if k.same key then (k, v) :: es else (k, w) :: putEntry key v es

/-- Entries as a mapping; the last one of a key wins, at the place of the first one. -/
def collect (es : List (PlacedKey × Value)) : List (Value × Value) :=
  (es.foldl (fun acc e => putEntry e.1 e.2 acc) []).map fun e => (e.1.value, e.2)

/-- A value and what is said in it about enclosures: the labels it names without having them, and
whether it names any at all. -/
structure Labelled where
  value : Value
  free : List Label := []
  looped : Bool := false
deriving Inhabited

namespace Labelled

/-- The value of an enclosure whose parts have been built: it gets its label if something inside
names an enclosure around it. -/
def close (label : Label) (parts : List Labelled) (value : Value) : Labelled :=
  let free := parts.flatMap (·.free)
  if free.isEmpty then { value, looped := parts.any (·.looped) }
  else { value := .loop label value, free := (free.filter (· != label)).eraseDups, looped := true }

end Labelled

/-- The values that are known to contain no enclosure twice. -/
abbrev Known := Array (Option Value)

section Unrolling

variable (objects : Array (Option Object))

/-- The key that a node stands for. -/
def keyOf (n : Nat) : PlacedKey :=
  match objects[n]?.join with
  | some (.scalar v common) => { place := if common then objects.size else n, value := v }
  | _ => { place := n, value := .null }

/-- The value of an enclosure from its parts. -/
def enclose (n : Nat) (o : Object) (parts : List Labelled) : Labelled :=
  match o with
  | .list _ => .close (n, 0) parts (.seq (parts.map (·.value)))
  | .map entries =>
    .close (n, 0) parts (.record (collect
      ((entries.map fun e => keyOf objects e.1).zip (parts.map (·.value)))))
  | .pairs entries =>
    let pairs := (parts.take entries.length).zip (parts.drop entries.length)
    let values := pairs.zipIdx.map fun ((k, v), i) =>
      Labelled.close (n, i + 1) [k, v] (.pair k.value v.value)
    .close (n, 0) values (.seq (values.map (·.value)))
  | .set entries =>
    let keys := entries.map fun e => (keyOf objects e.1, Value.null)
    { value := .set ((collect keys).map (·.1)) }
  | .scalar v _ => { value := v }

/-- The enclosure that an object is. -/
def enclosureOf : Object → Enclosure
  | .map _ => .mapping
  | _ => .list

/-- The parts of an object, those of pairs being the first ones and then the second ones. -/
def partsOf : Object → List Nat
  | .scalar _ _ => []
  | .list items => items
  | .pairs entries => entries.map (·.1) ++ entries.map (·.2)
  | .map entries => entries.map (·.2)
  | .set _ => []

/-- The value of a node inside the enclosures of some nodes. Since these differ from each other, the
fuel need not exceed the number of nodes. -/
def valueOf : Nat → List Nat → Nat → StateM Known Labelled
  | 0, _, _ => return { value := .null }
  | fuel + 1, around, n => do
    if let some v := ((← get)[n]?).join then return { value := v }
    match objects[n]?.join with
    | none => return { value := .null }
    | some (.scalar v _) => return { value := v }
    | some o =>
      if around.contains n then
        return { value := .again (n, 0) (enclosureOf o), free := [(n, 0)], looped := true }
      let parts ← (partsOf o).mapM (valueOf fuel (n :: around))
      let whole := enclose objects n o parts
      unless whole.looped do modify (·.setIfInBounds n (some whole.value))
      return whole

end Unrolling

/-- The plain data that a document with a root stands for. -/
def Graph.toValue (g : Graph) (root : Nat) : Except Error Value := do
  let objects ← Build.run g root
  let known : Known := Array.replicate g.size none
  return ((valueOf objects (g.size + 1) [] root).run known).1.value

end ProposalCheck.Yaml
