import Mathlib.Data.List.ReduceOption
import ProposalCheck.Markup.Walk
import ProposalCheck.Proofs.Texts

/-!
# Lines and the inside of texts

Blocks are read from the lines of a text, and a node that has lines of its own has them from its
block. What is inside a text has none: the text is read into constructs that are no blocks, and
neither pairing marks of emphasis nor looking for bare addresses gives them lines
(`Inline.given_inner`, `inner_nodes?`). So a node inside a text is on the lines of the text.

Where a node is on lines depends on the nodes around it. A `Site` keeps them, and what goes on from a
node to its children holds at all sites of a tree (`Node.forall_sitesIn`).
-/

namespace ProposalCheck.Markup

/-- Whether a construct is a text or belongs to the inside of one. -/
def Construct.isInline : Construct → Bool
  | inline | text _ | special _ | softBreak | hardBreak | code _ | html _ | emphasis | strong
  | strikethrough | link _ _ | image _ _ _ | footnoteRef _ => true
  | _ => false

theorem Construct.isInline_of_isSpan {c : Construct} (h : c.isSpan = true) : c.isInline = true := by
  cases c <;> first | rfl | cases h

theorem Construct.isInline_of_isAtom {c : Construct} (h : c.isAtom = true) : c.isInline = true := by
  cases c <;> first | rfl | cases h

/-! ### Sites -/

/-- A node in its tree, with the nodes around it, the innermost one first. -/
structure Site where
  around : List Node
  place : Place

mutual

/-- The sites of a node and of everything below it in preorder, inside some nodes with the lines
`outer`. -/
def Node.sitesIn (around : List Node) (outer : Option LineSpan) : Node → List Site
  | .node c l cs =>
    ⟨around, .node c l cs, l <|> outer⟩ :: Node.listSitesIn (.node c l cs :: around) (l <|> outer) cs

/-- The sites of the nodes of a list and of everything below them in preorder. -/
def Node.listSitesIn (around : List Node) (outer : Option LineSpan) : List Node → List Site
  | [] => []
  | n :: ns => n.sitesIn around outer ++ Node.listSitesIn around outer ns

end

/-- The sites of a tree in preorder. -/
def Node.sites (n : Node) : List Site :=
  n.sitesIn [] none

namespace Node

mutual

theorem map_place_sitesIn (around : List Node) (outer : Option LineSpan) (m : Node) :
    (m.sitesIn around outer).map Site.place = m.placesIn outer := by
  match m with
  | .node c l cs =>
    rw [sitesIn, placesIn, List.map_cons, map_place_listSitesIn]

theorem map_place_listSitesIn (around : List Node) (outer : Option LineSpan) (ms : List Node) :
    (listSitesIn around outer ms).map Site.place = listPlacesIn outer ms := by
  match ms with
  | [] => rfl
  | m :: rest =>
    rw [listSitesIn, listPlacesIn, List.map_append, map_place_sitesIn, map_place_listSitesIn]

end

/-- The sites of a tree are its places. -/
theorem map_place_sites (m : Node) : m.sites.map Site.place = m.places :=
  map_place_sitesIn [] none m

section

variable {R : List Node → Option LineSpan → Node → Prop}

mutual

/-- What goes on from a node to its children holds at all sites. -/
theorem forall_sitesIn (hstep : ∀ around outer c l cs, R around outer (.node c l cs) →
      ∀ m ∈ cs, R (.node c l cs :: around) (l <|> outer) m)
    {around : List Node} {outer : Option LineSpan} (m : Node) (h : R around outer m) :
    ∀ s ∈ m.sitesIn around outer, ∃ outer', s.place.lines = (s.place.node.lines <|> outer') ∧
      R s.around outer' s.place.node := by
  match m with
  | .node c l cs =>
    rw [sitesIn]
    exact List.forall_mem_cons.2 ⟨⟨outer, rfl, h⟩, forall_listSitesIn hstep cs (hstep _ _ _ _ _ h)⟩

theorem forall_listSitesIn (hstep : ∀ around outer c l cs, R around outer (.node c l cs) →
      ∀ m ∈ cs, R (.node c l cs :: around) (l <|> outer) m)
    {around : List Node} {outer : Option LineSpan} (ms : List Node) (h : ∀ m ∈ ms, R around outer m) :
    ∀ s ∈ listSitesIn around outer ms, ∃ outer', s.place.lines = (s.place.node.lines <|> outer') ∧
      R s.around outer' s.place.node := by
  match ms with
  | [] => exact fun s hs => by cases hs
  | m :: rest =>
    obtain ⟨hm, hrest⟩ := List.forall_mem_cons.1 h
    rw [listSitesIn]
    exact List.forall_mem_append.2
      ⟨forall_sitesIn hstep m hm, forall_listSitesIn hstep rest hrest⟩

end

end

/-- The places of a node are the same on its own lines. -/
theorem placesIn_lines (outer : Option LineSpan) (c : Construct) (l : Option LineSpan) (cs : List Node) :
    (node c l cs).placesIn (l <|> outer) = (node c l cs).placesIn outer := by
  have hlines : (l <|> (l <|> outer)) = (l <|> outer) := by cases l <;> rfl
  rw [placesIn, placesIn, hlines]

theorem mem_listPlacesIn {outer : Option LineSpan} {m : Node} {ms : List Node} (hm : m ∈ ms) :
    ∀ p ∈ m.placesIn outer, p ∈ listPlacesIn outer ms := by
  induction ms with
  | nil => cases hm
  | cons m' rest ih =>
    intro p hp
    rw [listPlacesIn, List.mem_append]
    rcases List.mem_cons.1 hm with rfl | hm
    · exact .inl hp
    · exact .inr (ih hm p hp)

/-- The places below a site are places of the tree. -/
theorem mem_places_of_site {root : Node} {s : Site} (hs : s ∈ root.sites) :
    ∀ p ∈ s.place.node.placesIn s.place.lines, p ∈ root.places := by
  obtain ⟨outer, hlines, hplaces⟩ := forall_sitesIn
    (R := fun _ outer m => ∀ p ∈ m.placesIn outer, p ∈ root.places)
    (fun _ outer c l cs h m hm p hp => h p (List.mem_cons_of_mem _ (mem_listPlacesIn hm p hp)))
    root (fun p hp => hp) s hs
  cases hnode : s.place.node with
  | node c l cs =>
    rw [hnode] at hlines hplaces
    rw [hlines, lines_node, placesIn_lines]
    exact hplaces

mutual

/-- A node around a site below some node is at a site of its own, with the first site among its places. -/
theorem exists_site_around {around : List Node} {outer : Option LineSpan} (m : Node) :
    ∀ s ∈ m.sitesIn around outer, ∀ k ∈ s.around, k ∈ around ∨
      ∃ t ∈ m.sitesIn around outer, t.place.node = k ∧ s.place ∈ k.placesIn t.place.lines := by
  match m with
  | .node c l cs =>
    rw [sitesIn]
    refine List.forall_mem_cons.2 ⟨fun k hk => .inl hk, fun s hs k hk => ?_⟩
    rcases exists_list_site_around cs s hs k hk with hmem | ⟨t, ht, hnode, hplace⟩
    · rcases List.mem_cons.1 hmem with rfl | hmem
      · refine .inr ⟨_, List.mem_cons_self, rfl, ?_⟩
        have hlines : (l <|> (l <|> outer)) = (l <|> outer) := by cases l <;> rfl
        rw [placesIn, hlines, ← map_place_listSitesIn (.node c l cs :: around)]
        exact List.mem_cons_of_mem _ (List.mem_map_of_mem hs)
      · exact .inl hmem
    · exact .inr ⟨t, List.mem_cons_of_mem _ ht, hnode, hplace⟩

theorem exists_list_site_around {around : List Node} {outer : Option LineSpan} (ms : List Node) :
    ∀ s ∈ listSitesIn around outer ms, ∀ k ∈ s.around, k ∈ around ∨
      ∃ t ∈ listSitesIn around outer ms, t.place.node = k ∧ s.place ∈ k.placesIn t.place.lines := by
  match ms with
  | [] => exact fun s hs => by cases hs
  | m :: rest =>
    rw [listSitesIn]
    refine List.forall_mem_append.2 ⟨fun s hs k hk => ?_, fun s hs k hk => ?_⟩
    · exact (exists_site_around m s hs k hk).imp_right fun ⟨t, ht, h⟩ =>
        ⟨t, List.mem_append_left _ ht, h⟩
    · exact (exists_list_site_around rest s hs k hk).imp_right fun ⟨t, ht, h⟩ =>
        ⟨t, List.mem_append_right _ ht, h⟩

end

end Node

/-! ### Trees and events -/

/-- The construct and the lines of each node of a tree satisfy a condition. -/
inductive Node.Each (P : Construct → Option LineSpan → Prop) : Node → Prop
  | node {c : Construct} {l : Option LineSpan} {cs : List Node} (own : P c l)
      (children : ∀ m ∈ cs, Each P m) : Each P (.node c l cs)

namespace Node

/-- All lines on which nodes of a tree start are below `n`. -/
def Within (n : Nat) : Node → Prop :=
  Each fun _ l => ∀ s ∈ l, s.1 < n

/-- A construct that belongs to the inside of a text and has no lines of its own. -/
def IsInner (c : Construct) (l : Option LineSpan) : Prop :=
  c.isInline = true ∧ l = none

/-- All nodes of a tree belong to the inside of a text and have no lines of their own. -/
def Inner : Node → Prop :=
  Each IsInner

theorem Within.places {n : Nat} {m : Node} (h : m.Within n) :
    ∀ p ∈ m.places, ∀ s ∈ p.lines, s.1 < n := by
  have hnear {l outer : Option LineSpan} (hl : ∀ s ∈ l, s.1 < n) (houter : ∀ s ∈ outer, s.1 < n) :
      ∀ s ∈ l <|> outer, s.1 < n := by
    cases l with
    | none => exact houter
    | some s => exact hl
  have hstep (around : List Node) (outer : Option LineSpan) (c : Construct) (l : Option LineSpan)
      (cs : List Node) (h : (∀ s ∈ outer, s.1 < n) ∧ (node c l cs).Within n) :
      ∀ m ∈ cs, (∀ s ∈ l <|> outer, s.1 < n) ∧ m.Within n := by
    obtain ⟨houter, own, children⟩ := h
    exact fun m hm => ⟨hnear own houter, children m hm⟩
  rw [← map_place_sites]
  refine List.forall_mem_map.2 fun s hs => ?_
  have hnone : ∀ s ∈ (none : Option LineSpan), s.1 < n := fun s hs => by cases hs
  obtain ⟨outer, hlines, houter, hwithin⟩ := forall_sitesIn
    (R := fun _ outer m => (∀ s ∈ outer, s.1 < n) ∧ m.Within n) hstep m ⟨hnone, h⟩ s hs
  rw [hlines]
  cases hnode : s.place.node with
  | node c l cs =>
    rw [hnode] at hwithin
    obtain ⟨own, -⟩ := hwithin
    exact hnear own houter

/-- What is inside a text is on the lines of the text. -/
theorem Inner.lines_places {outer : Option LineSpan} {m : Node} (h : m.Inner) :
    ∀ p ∈ m.placesIn outer, p.lines = outer := by
  have hstep (around : List Node) (o : Option LineSpan) (c : Construct) (l : Option LineSpan)
      (cs : List Node) (h : o = outer ∧ (node c l cs).Inner) :
      ∀ m ∈ cs, (l <|> o) = outer ∧ m.Inner := by
    obtain ⟨rfl, ⟨-, rfl⟩, children⟩ := h
    exact fun m hm => ⟨rfl, children m hm⟩
  rw [← map_place_sitesIn []]
  refine List.forall_mem_map.2 fun s hs => ?_
  obtain ⟨o, hlines, ho, hinner⟩ := forall_sitesIn (R := fun _ o m => o = outer ∧ m.Inner) hstep m
    ⟨rfl, h⟩ s hs
  rw [hlines, ho]
  cases hnode : s.place.node with
  | node c l cs =>
    rw [hnode] at hinner
    obtain ⟨⟨-, rfl⟩, -⟩ := hinner
    rfl

theorem Inner.within {m : Node} (h : m.Inner) (n : Nat) : m.Within n := by
  induction h with
  | node own _ ih =>
    refine .node ?_ ih
    rw [own.2]
    exact fun s hs => by cases hs

end Node

namespace Event

/-- The nodes that an event gives satisfy a condition, and so does what it opens. -/
def Gives (N : Node → Prop) (O : Construct → Option LineSpan → Prop) : Event → Prop
  | .opening c l => O c l
  | .closing _ => True
  | .leaf c l cs => N (.node c l cs)

/-- What holds of a node as soon as it holds of its children, and of all nodes that events give, holds
of the nodes that are built from the events. -/
theorem forall_of_build {N : Node → Prop} {O : Construct → Option LineSpan → Prop}
    (hnode : ∀ c l cs, O c l → (∀ m ∈ cs, N m) → N (.node c l cs)) {es : List Event}
    {done : List Node} {fs : List Frame} {ns : List Node} (h : build es done fs = some ns)
    (hes : ∀ e ∈ es, e.Gives N O) (hdone : ∀ m ∈ done, N m)
    (hfs : ∀ f ∈ fs, O f.construct f.lines ∧ ∀ m ∈ f.before, N m) : ∀ m ∈ ns, N m := by
  induction es generalizing done fs with
  | nil =>
    cases fs with
    | nil =>
      obtain rfl := Option.some.inj h
      exact fun m hm => hdone m (List.mem_reverse.1 hm)
    | cons f rest => cases h
  | cons e rest ih =>
    obtain ⟨he, hrest⟩ := List.forall_mem_cons.1 hes
    cases e with
    | leaf c l cs => exact ih h hrest (List.forall_mem_cons.2 ⟨he, hdone⟩) hfs
    | opening c l =>
      exact ih h hrest (List.forall_mem_nil _) (List.forall_mem_cons.2 ⟨⟨he, hdone⟩, hfs⟩)
    | closing c =>
      cases fs with
      | nil => cases h
      | cons f frames =>
        obtain ⟨hf, hframes⟩ := List.forall_mem_cons.1 hfs
        refine ih h hrest (List.forall_mem_cons.2 ⟨hnode _ _ _ hf.1 ?_, hf.2⟩) hframes
        exact fun m hm => hdone m (List.mem_reverse.1 hm)

theorem forall_of_toNodes? {N : Node → Prop} {O : Construct → Option LineSpan → Prop}
    (hnode : ∀ c l cs, O c l → (∀ m ∈ cs, N m) → N (.node c l cs)) {es : List Event}
    {ns : List Node} (h : toNodes? es = some ns) (hes : ∀ e ∈ es, e.Gives N O) : ∀ m ∈ ns, N m :=
  forall_of_build hnode h hes (List.forall_mem_nil _) (List.forall_mem_nil _)

/-- An event of the inside of a text. -/
def Inner (e : Event) : Prop :=
  e.Gives Node.Inner Node.IsInner

theorem inner_opening {c : Construct} (h : c.isInline = true) : (opening c none).Inner :=
  ⟨h, rfl⟩

theorem inner_leaf {c : Construct} {cs : List Node} (h : c.isInline = true)
    (hcs : ∀ m ∈ cs, m.Inner) : (leaf c none cs).Inner :=
  .node ⟨h, rfl⟩ hcs

theorem inner_text (s : String) : (text s).Inner :=
  inner_leaf rfl (List.forall_mem_nil _)

theorem inner_toNodes? {es : List Event} {ns : List Node} (h : toNodes? es = some ns)
    (hes : ∀ e ∈ es, e.Inner) : ∀ m ∈ ns, m.Inner :=
  forall_of_toNodes? (fun _ _ _ own children => .node own children) h hes

end Event

/-! ### The inside of a text -/

/-- The events of a footnote that is written in its place are of the inside of a text. -/
@[simp] def Note.Inner : Note → Prop
  | .labelled _ _ => True
  | .written prose => ∀ e ∈ prose.events, e.Inner

/-- The events of the footnotes that are written in their places are of the inside of a text. -/
def Notes.Inner (notes : Notes) : Prop :=
  ∀ note ∈ notes.list, note.Inner

/-- The events of a text are of its inside. -/
def Prose.Inner (p : Prose) : Prop :=
  ∀ e ∈ p.events, e.Inner

theorem Notes.inner_iff_hold {notes : Notes} : notes.Inner ↔ notes.Hold Prose.Inner :=
  forall₂_congr fun note _ => by cases note <;> exact Iff.rfl

theorem Event.kept_inner : Event.Kept Event.Inner where
  text := inner_text
  opening hc := inner_opening (Construct.isInline_of_isSpan hc)
  closing _ := trivial

theorem inner_joinSpecials {es : List Event} (h : ∀ e ∈ es, e.Inner) :
    ∀ e ∈ Inline.joinSpecials es, e.Inner :=
  Inline.kept_joinSpecials Event.kept_inner fun e he _ => h e he

/-- Reading a text gives events of its inside, and none of them has lines. -/
theorem Inline.given_inner (references : List (String × Reference)) :
    Inline.Given references Event.Inner Prose.Inner where
  kept := Event.kept_inner
  atom hc := Event.inner_leaf (Construct.isInline_of_isAtom hc) (List.forall_mem_nil _)
  special _ := Event.inner_leaf rfl (List.forall_mem_nil _)
  image alt _ _ notes halt := by
    refine Event.inner_leaf rfl ?_
    have hjoined := inner_joinSpecials fun e he => halt e (Array.mem_toList_iff.1 he)
    cases hnodes : Event.toNodes? (joinSpecials (readText references alt notes).1.toList) with
    | none => exact List.forall_mem_nil _
    | some ns => exact Event.inner_toNodes? hnodes hjoined
  written _ _ hcs := hcs

theorem inner_nodes? {p : Prose} {ns : List Node} (h : p.nodes? = some ns)
    (hp : ∀ e ∈ p.events, e.Inner) : ∀ m ∈ ns, m.Inner :=
  Event.inner_toNodes? h
    (inner_joinSpecials (Inline.kept_replaceAddresses Event.kept_inner p.content hp))

end ProposalCheck.Markup
