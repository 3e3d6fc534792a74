import ProposalCheck.Proofs.Nesting
import ProposalCheck.Proofs.Origins

/-!
# Kinds of nodes

Every node of a tree has a category of its own, and all that is written in a text is shown in the tree
(`Markup.kinds_of_read`). Only characters that are written as escapes or by name have no category, and they are
made part of the text around them, in the texts of blocks as well as in the alternative texts of images
(`Place.Shows`).

The events of a text give their constructs in order, and the nodes that they build have the same ones
(`Event.constructs_toNodes?`). `Node.Proper` says what the nodes inside a text are, and also that nothing
stands inside code and HTML.
-/

namespace ProposalCheck.Markup

namespace Construct

/-- Whether a construct is a block that shows its lines as they are. -/
def isVerbatim : Construct → Bool
  | codeBlock _ | fence _ | htmlBlock _ => true
  | _ => false

theorem isContainer_of_isVerbatim {c : Construct} (h : c.isVerbatim = true) : c.isContainer = false := by
  cases c <;> first | rfl | cases h

theorem category_eq_other {c : Construct} (h : c.category = "other") : ∃ s, c = .special s := by
  cases c <;> first | exact ⟨_, rfl⟩ | exact absurd h (by simp [category])

end Construct

/-! ### The constructs of a tree -/

namespace Node

mutual

theorem map_construct_placesIn (outer outer' : Option LineSpan) (n : Node) :
    (n.placesIn outer).map Place.construct = (n.placesIn outer').map Place.construct := by
  match n with
  | .node c l cs =>
    rw [placesIn, placesIn, List.map_cons, List.map_cons,
      map_construct_listPlacesIn (l <|> outer) (l <|> outer') cs]
    rfl

theorem map_construct_listPlacesIn (outer outer' : Option LineSpan) (ns : List Node) :
    (listPlacesIn outer ns).map Place.construct = (listPlacesIn outer' ns).map Place.construct := by
  match ns with
  | [] => rfl
  | n :: rest =>
    rw [listPlacesIn, listPlacesIn, List.map_append, List.map_append,
      map_construct_placesIn outer outer' n, map_construct_listPlacesIn outer outer' rest]

end

/-- The constructs of a tree in preorder. -/
def constructs (n : Node) : List Construct :=
  n.places.map Place.construct

theorem constructs_node (c : Construct) (l : Option LineSpan) (cs : List Node) :
    (node c l cs).constructs = c :: cs.flatMap constructs := by
  have hlist (outer : Option LineSpan) (ns : List Node) :
      (listPlacesIn outer ns).map Place.construct = ns.flatMap constructs := by
    induction ns with
    | nil => rfl
    | cons n rest ih =>
      rw [listPlacesIn, List.map_append, ih, map_construct_placesIn outer none, List.flatMap_cons]
      rfl
  rw [constructs, places, placesIn, List.map_cons, hlist]
  rfl

theorem textContent_eq (n : Node) : n.textContent = String.join (n.constructs.map Construct.shownText) := by
  rw [constructs, List.map_map]
  rfl

end Node

namespace Event

/-- The constructs of the nodes that an event gives. -/
def constructs : Event → List Construct
  | .opening c _ => [c]
  | .closing _ => []
  | .leaf c l cs => (Node.node c l cs).constructs

theorem constructs_text (s : String) : (Event.text s).constructs = [.text s] :=
  Node.constructs_node _ _ _

/-- The constructs in front of what is built in open frames, the innermost of which is the first. -/
def openConstructs : List Frame → List Construct
  | [] => []
  | f :: fs => openConstructs fs ++ f.before.reverse.flatMap Node.constructs ++ [f.construct]

theorem constructs_build {es : List Event} {done ns : List Node} {fs : List Frame}
    (h : build es done fs = some ns) : ns.flatMap Node.constructs =
      openConstructs fs ++ done.reverse.flatMap Node.constructs ++ es.flatMap constructs := by
  induction es generalizing done fs with
  | nil =>
    cases fs with
    | nil =>
      obtain rfl := Option.some.inj h
      simp [openConstructs]
    | cons f rest => cases h
  | cons e rest ih =>
    cases e with
    | leaf c l cs =>
      rw [ih h]
      simp [constructs]
    | opening c l =>
      rw [ih h]
      simp [openConstructs, constructs]
    | closing c =>
      cases fs with
      | nil => cases h
      | cons f frames =>
        rw [ih h]
        simp [openConstructs, constructs, Node.constructs_node]

/-- The nodes that events give have the constructs of the events, in the same order. -/
theorem constructs_toNodes? {es : List Event} {ns : List Node} (h : toNodes? es = some ns) :
    ns.flatMap Node.constructs = es.flatMap constructs := by
  simpa [openConstructs] using constructs_build h

end Event

/-! ### The text of a text -/

theorem join_map_join {α : Type} (f : α → List String) (xs : List α) :
    String.join (xs.map fun x => String.join (f x)) = String.join (xs.flatMap f) := by
  induction xs with
  | nil => rfl
  | cons x rest ih => rw [List.map_cons, String.join_cons, ih, List.flatMap_cons, String.join_append]

namespace Event

/-- What an event adds to the text of the nodes that events give. -/
def shownText (e : Event) : String :=
  String.join (e.constructs.map Construct.shownText)

theorem shownText_text (s : String) : (Event.text s).shownText = s := by
  simp [shownText, constructs_text, Construct.shownText]

/-- What an event adds to a text, characters written as escapes or by name as well. -/
def writtenText : Event → String
  | .leaf (.special s) _ _ => s
  | e => e.shownText

/-- What an event writes by itself: a text, or a character written as an escape or by its name. -/
def piece? : Event → Option String
  | .leaf (.text s) _ _ | .leaf (.special s) _ _ => some s
  | _ => none

/-- Texts have nothing inside. -/
def Bare (e : Event) : Prop :=
  ∀ s ∈ e.text?, e.constructs = [.text s]

theorem Bare.shownText {e : Event} {s : String} (h : e.Bare) (hs : e.text? = some s) : e.shownText = s := by
  simp [Event.shownText, h s hs, Construct.shownText]

theorem bare_text (s : String) : (Event.text s).Bare := by
  rintro t ⟨⟩
  exact constructs_text s

end Event

namespace Inline

variable {es : List Event}

/-- Joining texts keeps the text. -/
theorem text_joinTexts (hes : ∀ e ∈ es, e.Bare) : (∀ e ∈ joinTexts es, e.Bare) ∧
    String.join ((joinTexts es).map Event.shownText) = String.join (es.map Event.shownText) := by
  induction es with
  | nil => exact ⟨hes, rfl⟩
  | cons e rest ih =>
    obtain ⟨he, hrest⟩ := List.forall_mem_cons.1 hes
    obtain ⟨hbare, hjoined⟩ := ih hrest
    rw [joinTexts, List.map_cons, String.join_cons, ← hjoined]
    cases hj : joinTexts rest with
    | nil => exact ⟨List.forall_mem_singleton.2 he, by simp⟩
    | cons f fs =>
      rw [hj] at hbare
      obtain ⟨hf, hfs⟩ := List.forall_mem_cons.1 hbare
      dsimp only
      split
      · rename_i a b ha hb
        refine ⟨List.forall_mem_cons.2 ⟨Event.bare_text _, hfs⟩, ?_⟩
        rw [List.map_cons, String.join_cons, List.map_cons, String.join_cons, ← String.append_assoc,
          he.shownText ha, hf.shownText hb, Event.shownText_text]
      · exact ⟨List.forall_mem_cons.2 ⟨he, hbare⟩, by rw [List.map_cons, String.join_cons]⟩

/-- A text that is joined with others is a part of what comes of it. -/
theorem exists_text_joinTexts {e : Event} {s : String} (he : e ∈ es) (hs : e.text? = some s) :
    ∃ f ∈ joinTexts es, ∃ t, f.text? = some t ∧ s.toList <:+: t.toList := by
  induction es with
  | nil => cases he
  | cons d rest ih =>
    rw [joinTexts]
    rcases List.mem_cons.1 he with rfl | he
    · cases joinTexts rest with
      | nil => exact ⟨e, List.mem_cons_self, s, hs, List.infix_refl _⟩
      | cons f fs =>
        dsimp only
        split
        · rename_i a b ha hb
          obtain rfl := Option.some.inj (hs.symm.trans ha)
          refine ⟨_, List.mem_cons_self, _, rfl, ?_⟩
          rw [String.toList_append]
          exact List.infix_append' [] _ _
        · exact ⟨e, List.mem_cons_self, s, hs, List.infix_refl _⟩
    · obtain ⟨f, hf, t, ht, hinfix⟩ := ih he
      cases hj : joinTexts rest with
      | nil =>
        rw [hj] at hf
        cases hf
      | cons g gs =>
        rw [hj] at hf
        dsimp only
        split
        · rename_i a b ha hb
          rcases List.mem_cons.1 hf with rfl | hf
          · obtain rfl := Option.some.inj (ht.symm.trans hb)
            refine ⟨_, List.mem_cons_self, _, rfl, hinfix.trans ?_⟩
            rw [String.toList_append]
            exact List.suffix_append _ _ |>.isInfix
          · exact ⟨f, List.mem_cons_of_mem _ hf, t, ht, hinfix⟩
        · exact ⟨f, List.mem_cons_of_mem _ hf, t, ht, hinfix⟩

theorem exists_text_joinSpecials {e : Event} {s : String} (he : e ∈ es) (hs : e.piece? = some s) :
    ∃ f ∈ joinSpecials es, ∃ t, f.text? = some t ∧ s.toList <:+: t.toList := by
  refine exists_text_joinTexts (List.mem_map_of_mem he) ?_
  unfold Event.piece? at hs
  split at hs
  · exact hs
  · exact hs
  · cases hs

/-- Making characters part of the text around them keeps what is written. -/
theorem text_joinSpecials (hes : ∀ e ∈ es, e.Bare) : (∀ e ∈ joinSpecials es, e.Bare) ∧
    String.join ((joinSpecials es).map Event.shownText) = String.join (es.map Event.writtenText) := by
  have hbare : ∀ e ∈ es.map fun e => match e with
      | .leaf (.special s) _ _ => Event.text s
      | e => e, e.Bare := by
    refine List.forall_mem_map.2 fun e he => ?_
    split
    · exact Event.bare_text _
    · exact hes e he
  obtain ⟨hjoined, htext⟩ := text_joinTexts hbare
  refine ⟨hjoined, htext.trans ?_⟩
  rw [List.map_map]
  refine congrArg String.join (List.map_congr_left fun e _ => ?_)
  rw [Function.comp_apply]
  split
  · exact Event.shownText_text _
  · rename_i hspecial
    rw [Event.writtenText]
    exact hspecial

end Inline

/-- A node shows what is written in a text. It has the nodes of the text below it, the text that it holds is
what the events of the text write one behind the other, and each piece of this, be it written as it is, as an
escape or by name, is a part of one of its texts. -/
structure Node.Shows (n : Node) (es : List Event) : Prop where
  children : Event.toNodes? (Inline.joinSpecials es) = some n.children
  content : n.textContent = String.join (es.map Event.writtenText)
  pieces : ∀ e ∈ es, ∀ s ∈ e.piece?, ∃ t, .text t ∈ n.constructs ∧ s.toList <:+: t.toList

/-- A node that holds no text itself shows the text whose nodes it has below it. -/
theorem Node.shows {c : Construct} {l : Option LineSpan} {ns : List Node} {es : List Event}
    (hc : c.shownText = "") (hes : ∀ e ∈ es, e.Bare)
    (h : Event.toNodes? (Inline.joinSpecials es) = some ns) : (Node.node c l ns).Shows es := by
  obtain ⟨hbare, htext⟩ := Inline.text_joinSpecials hes
  have hconstructs := Event.constructs_toNodes? h
  refine ⟨h, ?_, fun e he s hs => ?_⟩
  · rw [← htext, textContent_eq, constructs_node, hconstructs, List.map_cons, String.join_cons, hc,
      String.empty_append, List.map_flatMap, ← join_map_join]
    rfl
  · obtain ⟨f, hf, t, ht, hinfix⟩ := Inline.exists_text_joinSpecials he hs
    refine ⟨t, ?_, hinfix⟩
    rw [constructs_node, hconstructs]
    refine List.mem_cons_of_mem _ (List.mem_flatMap.2 ⟨f, hf, ?_⟩)
    rw [hbare f hf t ht]
    exact List.mem_singleton_self _

/-- The node at a place of a tree shows what is written in a text, and the texts of which the pieces are parts
are at places of the tree below it. -/
structure Place.Shows (root : Node) (q : Place) (es : List Event) : Prop where
  node : q.node.Shows es
  places : ∀ e ∈ es, ∀ s ∈ e.piece?, ∃ p ∈ root.places, p ∈ q.node.placesIn q.lines ∧
    ∃ t, p.construct = .text t ∧ s.toList <:+: t.toList

theorem Node.Shows.place {root : Node} {s : Site} {es : List Event} (h : s.place.node.Shows es)
    (hs : s ∈ root.sites) : s.place.Shows root es := by
  refine ⟨h, fun e he piece hpiece => ?_⟩
  obtain ⟨t, ht, hinfix⟩ := h.pieces e he piece hpiece
  rw [constructs, Node.places, map_construct_placesIn none s.place.lines] at ht
  obtain ⟨p, hp, hconstruct⟩ := List.mem_map.1 ht
  exact ⟨p, mem_places_of_site hs p hp, hp, t, hconstruct, hinfix⟩

/-! ### Nodes inside a text -/

section

variable (references : List (String × Reference))

/-- A node inside a text. Nothing stands inside texts, code and HTML, and an image shows its alternative
text. -/
inductive Node.Proper : Node → Prop
  | atom {c : Construct} {l : Option LineSpan} (hc : c.isAtom = true) : Proper (.node c l [])
  | image {target alt : String} {title : Option String} {l : Option LineSpan} {cs : List Node}
      (notes : Notes) (shows : (Node.node (.image target title alt) l cs).Shows
        (Inline.readText references alt.toList notes).1.toList)
      (children : ∀ m ∈ cs, Proper m) : Proper (.node (.image target title alt) l cs)
  | span {c : Construct} {l : Option LineSpan} {cs : List Node} (hc : c.isSpan = true)
      (children : ∀ m ∈ cs, Proper m) : Proper (.node c l cs)

/-- An event of a text. Characters written as escapes or by name stand by themselves. -/
inductive Event.Proper : Event → Prop
  | opening {c : Construct} {l : Option LineSpan} (hc : c.isSpan = true) : Proper (.opening c l)
  | closing {c : Construct} : Proper (.closing c)
  | special {s : String} {l : Option LineSpan} : Proper (.leaf (.special s) l [])
  | leaf {c : Construct} {l : Option LineSpan} {cs : List Node}
      (h : (Node.node c l cs).Proper references) (hc : c.isSpan = false) : Proper (.leaf c l cs)

end

namespace Event

variable {references : List (String × Reference)} {e : Event} {es : List Event} {ns : List Node}

theorem kept_proper (references : List (String × Reference)) : Kept (Event.Proper references) where
  text _ := .leaf (.atom rfl) rfl
  opening hc := .opening hc
  closing _ := .closing

theorem Proper.bare (h : e.Proper references) : e.Bare := by
  intro s hs
  unfold text? at hs
  split at hs
  · obtain rfl := Option.some.inj hs
    cases h with
    | leaf h =>
      cases h with
      | atom => exact Node.constructs_node _ _ _
      | span hc => cases hc
  · cases hs

theorem proper_joinSpecials (h : ∀ e ∈ es, e.Proper references) :
    ∀ e ∈ Inline.joinSpecials es, e.Proper references ∧ Inline.isSpecial e = false :=
  Inline.kept_joinSpecials
    { text := fun s => ⟨(kept_proper references).text s, rfl⟩
      opening := fun hc => ⟨.opening hc, rfl⟩
      closing := fun _ => ⟨.closing, rfl⟩ } fun e he hspecial => ⟨h e he, hspecial⟩

/-- Where characters written as escapes or by name are part of the text, the nodes are proper. -/
theorem proper_toNodes? (h : toNodes? (Inline.joinSpecials es) = some ns)
    (hes : ∀ e ∈ es, e.Proper references) : ∀ m ∈ ns, m.Proper references := by
  refine forall_of_toNodes? (O := fun c _ => c.isSpan = true) (fun _ _ _ => .span) h fun e he => ?_
  obtain ⟨hproper, hspecial⟩ := proper_joinSpecials hes e he
  cases hproper with
  | opening hc => exact hc
  | closing => trivial
  | special => cases hspecial
  | leaf h => exact h

end Event

/-- A text with the events that reading its content has given, all of which are proper. -/
structure Prose.Proper (references : List (String × Reference)) (p : Prose) : Prop where
  read : ∃ notes, p.events = (Inline.readText references p.content.toList notes).1
  events : ∀ e ∈ p.events, e.Proper references

theorem Inline.given_proper (references : List (String × Reference)) :
    Inline.Given references (Event.Proper references) (Prose.Proper references) where
  kept := Event.kept_proper references
  atom hc := .leaf (.atom hc) (by rename_i c; cases c <;> first | rfl | cases hc)
  special _ := .special
  image alt _ _ notes halt := by
    have hproper : ∀ e ∈ (readText references alt notes).1.toList, e.Proper references :=
      fun e he => halt e (Array.mem_toList_iff.1 he)
    obtain ⟨ns, hns⟩ := exists_nodes_readText references alt notes
    rw [hns, Option.getD_some]
    refine .leaf (.image notes ?_ (Event.proper_toNodes? hns hproper)) rfl
    rw [String.toList_ofList]
    exact Node.shows rfl (fun e he => (hproper e he).bare) hns
  written cs notes hcs := ⟨⟨notes, by rw [String.toList_ofList]⟩, hcs⟩

namespace Prose

variable {references : List (String × Reference)} {p : Prose} {ns : List Node}

theorem IsRead.proper {P : String → Option LineSpan → Prop} {l : Option LineSpan}
    (h : p.IsRead references P l) : p.Proper references := by
  obtain ⟨notes, -, hevents⟩ := h.events
  exact ⟨⟨notes, hevents⟩, h.given (Inline.given_proper references)⟩

theorem Proper.replaceAddresses (hp : p.Proper references) :
    ∀ e ∈ (Inline.replaceAddresses p.content p.events).toList, e.Proper references :=
  Inline.kept_replaceAddresses (Event.kept_proper references) p.content hp.events

theorem Proper.nodes? (hp : p.Proper references) (h : p.nodes? = some ns) :
    ∀ m ∈ ns, m.Proper references :=
  Event.proper_toNodes? h hp.replaceAddresses

/-- The node of a text shows what is written in it, with links for the addresses. -/
theorem Proper.shows (hp : p.Proper references) (h : p.nodes? = some ns) (l : Option LineSpan) :
    (Node.node .inline l ns).Shows (Inline.replaceAddresses p.content p.events).toList :=
  Node.shows rfl (fun e he => (hp.replaceAddresses e he).bare) h

end Prose

/-! ### Trees -/

/-- A node outside the texts of a tree whose texts satisfy a condition. Nothing stands inside code and
HTML. -/
inductive Node.Outer (P : Prose → Option LineSpan → Prop) : Node → Prop
  | block {c : Construct} {l : Option LineSpan} {cs : List Node} (hc : c.isInline = false)
      (empty : c.isVerbatim = true → cs = []) (children : ∀ m ∈ cs, Outer P m) :
      Outer P (.node c l cs)
  | prose {p : Prose} {l : Option LineSpan} {ns : List Node} (hp : P p l)
      (hns : p.nodes? = some ns) : Outer P (.node .inline l ns)

/-- A node of a tree: outside its texts, or inside one. -/
def Node.Stands (references : List (String × Reference)) (P : Prose → Option LineSpan → Prop)
    (n : Node) : Prop :=
  n.Outer P ∨ n.Proper references

namespace Node

variable {references : List (String × Reference)} {P P' : Prose → Option LineSpan → Prop}
  {Q : Prose → Prop} {k : Nat} {n m : Node} {c : Construct} {l : Option LineSpan} {cs : List Node}

theorem Stands.children (hP : ∀ p l, P p l → p.Proper references)
    (h : Stands references P (node c l cs)) : ∀ m ∈ cs, Stands references P m := by
  intro m hm
  rcases h with h | h
  · cases h with
    | block _ _ children => exact .inl (children m hm)
    | prose hp hns => exact .inr ((hP _ _ hp).nodes? hns m hm)
  · cases h with
    | atom => cases hm
    | image _ _ children | span _ children => exact .inr (children m hm)

theorem Outer.stands (hP : ∀ p l, P p l → p.Proper references) (h : n.Outer P) :
    ∀ s ∈ n.sites, Stands references P s.place.node := by
  intro s hs
  obtain ⟨-, -, hsite⟩ := forall_sitesIn (R := fun _ _ m => Stands references P m)
    (fun _ _ _ _ _ => Stands.children hP) n (.inl h) s hs
  exact hsite

/-- No character stands by itself. -/
theorem Stands.category_ne_other (h : Stands references P n) : n.construct.category ≠ "other" := by
  intro hc
  obtain ⟨s, hs⟩ := Construct.category_eq_other hc
  rcases h with h | h
  · cases h with
    | block hinline =>
      obtain rfl : _ = Construct.special s := hs
      cases hinline
    | prose => cases hs
  · cases h with
    | atom hown | span hown =>
      obtain rfl : _ = Construct.special s := hs
      cases hown
    | image => cases hs

/-- Nothing stands inside code and HTML. -/
theorem Stands.children_eq_nil (h : Stands references P n)
    (hc : n.construct.isVerbatim = true ∨ n.construct.isAtom = true) : n.children = [] := by
  rcases h with h | h
  · cases h with
    | @block c _ _ hinline empty =>
      rcases hc with hc | hc
      · exact empty hc
      · change c.isAtom = true at hc
        rw [Construct.isInline_of_isAtom hc] at hinline
        cases hinline
    | prose => rcases hc with hc | hc <;> cases hc
  · cases h with
    | atom => rfl
    | image => rcases hc with hc | hc <;> cases hc
    | @span c _ _ hspan =>
      change c.isVerbatim = true ∨ c.isAtom = true at hc
      cases c <;> simp_all [Construct.isSpan, Construct.isVerbatim, Construct.isAtom]

theorem Stands.exists_prose (h : Stands references P n) (hc : n.construct = .inline) :
    ∃ p l ns, P p l ∧ p.nodes? = some ns ∧ n = .node .inline l ns := by
  rcases h with h | h
  · cases h with
    | block hinline =>
      obtain rfl : _ = Construct.inline := hc
      cases hinline
    | prose hp hns => exact ⟨_, _, _, hp, hns, rfl⟩
  · cases h with
    | atom h | span h =>
      obtain rfl : _ = Construct.inline := hc
      cases h
    | image => cases hc

theorem Stands.shows_image {target alt : String} {title : Option String} (h : Stands references P n)
    (hc : n.construct = .image target title alt) :
    ∃ notes, n.Shows (Inline.readText references alt.toList notes).1.toList := by
  rcases h with h | h
  · cases h with
    | block hinline =>
      obtain rfl : _ = Construct.image target title alt := hc
      cases hinline
    | prose => cases hc
  · cases h with
    | atom h | span h =>
      obtain rfl : _ = Construct.image target title alt := hc
      cases h
    | image notes shows =>
      cases hc
      exact ⟨notes, shows⟩

theorem Built.outer (hP : ∀ p l, P p l → P' p l) (h : m.Built P k) : m.Outer P' := by
  induction h with
  | block own empty _ ih =>
    exact .block (Construct.isInline_of_isBlock own.1)
      (fun h => empty (Construct.isContainer_of_isVerbatim h)) ih
  | prose hp hns => exact .prose (hP _ _ hp) hns

theorem IsPart.outer (hP : ∀ p l, P p l → P' p l) (hQ : ∀ p, Q p → P' p none)
    (h : m.IsPart P Q k) : m.Outer P' := by
  cases h with
  | block h => exact h.outer hP
  | notes h =>
    refine .block rfl (fun h => by cases h) fun m hm => ?_
    cases h m hm with
    | labelled h => exact .block rfl (fun h => by cases h) fun m hm => (h m hm).outer hP
    | written h =>
      refine .block rfl (fun h => by cases h) fun m hm => (h m hm).outer ?_
      rintro p l ⟨rfl, hp⟩
      exact hQ p hp

end Node

/-- The labels that a source defines, with what they refer to. -/
abbrev definitionsOf (source : String) : List (String × Reference) :=
  (Block.readBlocks (normalizeText source.toList).toArray).references

/-- A text of a source as it is found in its tree: it is a text of a block on its lines, or it has no
lines and is in a footnote that is written in its place. -/
structure Prose.IsFound (source : String) (p : Prose) (l : Option LineSpan) : Prop where
  proper : p.Proper (definitionsOf source)
  read : l ≠ none → p.IsRead (definitionsOf source) (IsTextOf source) l

theorem stands_of_read {source : String} {root : Node} (h : read source = .ok root) :
    ∀ s ∈ root.sites, s.place.node.Stands (definitionsOf source) (Prose.IsFound source) := by
  obtain ⟨ns, rfl, hns⟩ := read_shape h (flat_textsOf source) (Inline.given_proper _)
  refine Node.Outer.stands (fun _ _ hp => hp.proper) (.block rfl (fun h => by cases h) fun m hm => ?_)
  exact (hns m hm).outer (fun p l hp => ⟨hp.proper, fun _ => hp⟩)
    fun p hp => ⟨hp, fun hl => absurd rfl hl⟩

/-- Every node has a category of its own, and all that is written in a text is shown: that of a block or of a
footnote, with links for bare addresses, and the alternative text of an image. -/
theorem kinds_of_read {source : String} {root : Node} (h : read source = .ok root) :
    (∀ q ∈ root.places, q.construct.category ≠ "other") ∧
    (∀ q ∈ root.places, q.construct = .inline → ∃ p : Prose,
      (∃ notes, p.events = (Inline.readText (definitionsOf source) p.content.toList notes).1) ∧
      (q.node.lines ≠ none → p.IsRead (definitionsOf source) (IsTextOf source) q.node.lines) ∧
      q.Shows root (Inline.replaceAddresses p.content p.events).toList) ∧
    ∀ q ∈ root.places, ∀ target title alt, q.construct = .image target title alt →
      ∃ notes, q.Shows root (Inline.readText (definitionsOf source) alt.toList notes).1.toList := by
  have hstands := stands_of_read h
  simp only [← Node.map_place_sites root, List.forall_mem_map]
  refine ⟨fun s hs => (hstands s hs).category_ne_other, fun s hs hinline => ?_,
    fun s hs target title alt himage => ?_⟩
  · obtain ⟨p, l, ns, hp, hns, hnode⟩ := (hstands s hs).exists_prose hinline
    have hshows : s.place.node.Shows _ := hnode ▸ hp.proper.shows hns l
    exact ⟨p, hp.proper.read, hnode ▸ hp.read, hshows.place hs⟩
  · obtain ⟨notes, hshows⟩ := (hstands s hs).shows_image himage
    exact ⟨notes, hshows.place hs⟩

/-- Stars that are written as escapes, one of them in the alternative text of an image. -/
theorem kinds_of_read_stars : ∃ root, read "![\\*](c)d\\*e" = .ok root ∧ root.textContent = "*d*e" ∧
    ∀ q ∈ root.places, q.construct.category ≠ "other" := by
  have htext : (read "![\\*](c)d\\*e").toOption.map Node.textContent = some "*d*e" := by decide +kernel
  cases hread : read "![\\*](c)d\\*e" with
  | error e =>
    rw [hread] at htext
    cases htext
  | ok root =>
    rw [hread] at htext
    exact ⟨root, rfl, Option.some.inj htext, (kinds_of_read hread).1⟩

end ProposalCheck.Markup
