import ProposalCheck.Proofs.Kinds

/-!
# The links among events

Each event gives the links that open with it or that are inside it, and the nodes that events give have
their links in the same order (`Event.linkTargets_toNodes?`). Pairing up marks of emphasis moves events
about, but no link among them, because marks stand where no links are
(`Inline.State.linkTargets_finish`).
-/

namespace ProposalCheck.Markup

/-! ### Targets -/

/-- The target of a link. -/
def Construct.linkTarget? : Construct → Option String
  | link target _ => some target
  | _ => none

/-- The targets of the links of a tree, in preorder. -/
def Node.linkTargets (n : Node) : List String :=
  n.places.filterMap fun p => p.construct.linkTarget?

theorem Node.filterMap_placesIn (outer : Option LineSpan) (n : Node) :
    (n.placesIn outer).filterMap (fun p => p.construct.linkTarget?) = n.linkTargets := by
  have h := congrArg (List.filterMap Construct.linkTarget?) (map_construct_placesIn outer none n)
  rwa [List.filterMap_map, List.filterMap_map] at h

theorem Node.linkTargets_eq (n : Node) :
    n.linkTargets = n.constructs.filterMap Construct.linkTarget? := by
  rw [constructs, List.filterMap_map]
  rfl

theorem Node.linkTargets_node (c : Construct) (l : Option LineSpan) (cs : List Node) :
    (node c l cs).linkTargets = c.linkTarget?.toList ++ cs.flatMap linkTargets := by
  have htargets : cs.flatMap linkTargets = (cs.flatMap constructs).filterMap Construct.linkTarget? := by
    rw [List.filterMap_flatMap]
    exact List.flatMap_congr fun n _ => n.linkTargets_eq
  rw [linkTargets_eq, constructs_node, htargets, List.filterMap_cons]
  cases c.linkTarget? <;> rfl

namespace Event

/-- The targets of the links that an event gives. -/
def linkTargets (e : Event) : List String :=
  e.constructs.filterMap Construct.linkTarget?

theorem linkTargets_opening (c : Construct) (l : Option LineSpan) :
    (Event.opening c l).linkTargets = c.linkTarget?.toList := by
  rw [linkTargets, constructs, List.filterMap_cons]
  cases c.linkTarget? <;> rfl

theorem linkTargets_leaf (c : Construct) (l : Option LineSpan) (cs : List Node) :
    (Event.leaf c l cs).linkTargets = c.linkTarget?.toList ++ cs.flatMap Node.linkTargets := by
  rw [← Node.linkTargets_node c l, Node.linkTargets_eq]
  rfl

theorem linkTargets_atom {c : Construct} {l : Option LineSpan} (hc : c.isAtom = true) :
    (Event.leaf c l []).linkTargets = [] := by
  rw [linkTargets_leaf]
  cases c <;> first | rfl | cases hc

theorem linkTargets_text (s : String) : (Event.text s).linkTargets = [] :=
  linkTargets_atom rfl

theorem linkTargets_special (s : String) (l : Option LineSpan) :
    (Event.leaf (.special s) l []).linkTargets = [] :=
  linkTargets_leaf _ _ _

/-- Texts have no links inside. -/
def Plain (e : Event) : Prop :=
  e.text?.isSome = true → e.linkTargets = []

theorem Plain.of_nil {e : Event} (h : e.linkTargets = []) : e.Plain :=
  fun _ => h

theorem Bare.plain {e : Event} (h : e.Bare) : e.Plain := by
  intro htext
  obtain ⟨s, hs⟩ := Option.isSome_iff_exists.1 htext
  rw [linkTargets, h s hs]
  rfl

/-- The links of the nodes that events give are those of the events. -/
theorem linkTargets_toNodes? {es : List Event} {ns : List Node} (h : toNodes? es = some ns) :
    ns.flatMap Node.linkTargets = es.flatMap linkTargets := by
  have hconstructs := congrArg (List.filterMap Construct.linkTarget?) (constructs_toNodes? h)
  rw [List.filterMap_flatMap, List.filterMap_flatMap] at hconstructs
  rw [← List.flatMap_congr fun n _ => (n.linkTargets_eq).symm]
  exact hconstructs

end Event

/-! ### Emphasis -/

namespace Inline

variable {es : Array Event} {ds : Array Delimiter} {links : Array (List String)}

theorem flatMap_joinTexts {es : List Event} (hes : ∀ e ∈ es, e.Plain) :
    (joinTexts es).flatMap Event.linkTargets = es.flatMap Event.linkTargets := by
  -- the text that comes first may have been joined
  suffices hjoined : (∀ e ∈ joinTexts es, e.Plain) ∧
      (joinTexts es).flatMap Event.linkTargets = es.flatMap Event.linkTargets from hjoined.2
  induction es with
  | nil => exact ⟨hes, rfl⟩
  | cons e rest ih =>
    obtain ⟨he, hrest⟩ := List.forall_mem_cons.1 hes
    obtain ⟨hplain, hjoined⟩ := ih hrest
    rw [joinTexts, List.flatMap_cons, ← hjoined]
    cases hj : joinTexts rest with
    | nil => exact ⟨List.forall_mem_singleton.2 he, by simp⟩
    | cons f fs =>
      rw [hj] at hplain
      obtain ⟨hf, hfs⟩ := List.forall_mem_cons.1 hplain
      dsimp only
      split
      · rename_i a b ha hb
        have hnone := he (by rw [ha]; rfl)
        have hnone' := hf (by rw [hb]; rfl)
        refine ⟨List.forall_mem_cons.2 ⟨.of_nil (Event.linkTargets_text _), hfs⟩, ?_⟩
        rw [List.flatMap_cons, List.flatMap_cons, hnone, hnone', Event.linkTargets_text]
        rfl
      · exact ⟨List.forall_mem_cons.2 ⟨he, hplain⟩, List.flatMap_cons⟩

/-- Making characters part of the text around them leaves the links. -/
theorem flatMap_joinSpecials {references : List (String × Reference)} {es : List Event}
    (hes : ∀ e ∈ es, e.Proper references) :
    (joinSpecials es).flatMap Event.linkTargets = es.flatMap Event.linkTargets := by
  unfold joinSpecials
  rw [flatMap_joinTexts, List.flatMap_map]
  · refine List.flatMap_congr fun e he => ?_
    split
    · cases hes _ he with
      | special => rw [Event.linkTargets_text, Event.linkTargets_special]
      | leaf h =>
        cases h with
        | atom hc | span hc => cases hc
    · rfl
  · refine List.forall_mem_map.2 fun e he => ?_
    split
    · exact .of_nil (Event.linkTargets_text _)
    · exact (hes e he).bare.plain

/-- The targets of the links at the events of a text. -/
abbrev linksOf (es : Array Event) : Array (List String) :=
  es.map Event.linkTargets

theorem flatMap_linkTargets (es : Array Event) :
    es.toList.flatMap Event.linkTargets = (linksOf es).toList.flatten := by
  rw [Array.toList_map, List.flatMap_def]

/-- There is no link at an index. -/
def Unlinked (links : Array (List String)) (i : Nat) : Prop :=
  ∀ targets ∈ links[i]?, targets = []

theorem unlinked_of_getElem? {i : Nat} {e : Event} (he : es[i]? = some e) (h : e.linkTargets = []) :
    Unlinked (linksOf es) i := by
  intro targets htargets
  rw [Array.getElem?_map, he] at htargets
  exact (Option.some.inj htargets).symm.trans h

/-- Putting an event without links where none are moves no link. -/
theorem links_set {i : Nat} {e : Event} (hes : linksOf es = links) (hi : Unlinked links i)
    (he : e.linkTargets = []) : linksOf (es.setIfInBounds i e) = links := by
  subst hes
  refine Array.ext_getElem? fun j => ?_
  rw [Array.getElem?_map, Array.getElem?_map, Array.getElem?_setIfInBounds]
  split
  · rename_i hij
    subst hij
    split
    · rename_i hlt
      have hnone := hi _ (by rw [Array.getElem?_map, Array.getElem?_eq_getElem hlt]; rfl)
      rw [Array.getElem?_eq_getElem hlt, Option.map_some, Option.map_some, he, hnone]
    · rename_i hlt
      rw [Array.getElem?_eq_none (Nat.le_of_not_lt hlt)]
  · rfl

theorem links_markPair {c : Construct} {opener closer : Nat} (hes : linksOf es = links)
    (hc : c.linkTarget? = none) (hopener : Unlinked links opener) (hcloser : Unlinked links closer) :
    linksOf (markPair es c opener closer) = links :=
  links_set (links_set hes hopener (by rw [Event.linkTargets_opening, hc]; rfl)) hcloser rfl

theorem links_moveBehind {i : Nat} (hes : linksOf es = links) (hi : Unlinked links i) :
    linksOf (moveBehind es i) = links := by
  rcases moveBehind_cases es i with heq | ⟨j, a, hij, ha, hall, heq⟩
  · rwa [heq]
  · have hnone : a.linkTargets = [] := hi _ (by rw [← hes, Array.getElem?_map, ha]; rfl)
    have hj := unlinked_of_getElem? (hall j hij (Nat.le_refl j)) rfl
    rw [hes] at hj
    rw [heq]
    exact links_set (links_set hes hi rfl) hj hnone

/-- Texts among events have no links inside. -/
def AllPlain (es : Array Event) : Prop :=
  ∀ e ∈ es, e.Plain

theorem AllPlain.set {e : Event} (i : Nat) (h : AllPlain es) (he : e.Plain) :
    AllPlain (es.setIfInBounds i e) :=
  kept_set i h he

theorem AllPlain.markPair (c : Construct) (opener closer : Nat) (h : AllPlain es) :
    AllPlain (markPair es c opener closer) :=
  (h.set opener fun htext => by cases htext).set closer fun htext => by cases htext

theorem AllPlain.moveBehind (i : Nat) (h : AllPlain es) : AllPlain (moveBehind es i) :=
  kept_moveBehind i h

/-- Marks of emphasis stand where no links are. -/
def MarksIn (links : Array (List String)) (ds : Array Delimiter) : Prop :=
  ∀ d ∈ ds, Unlinked links d.event

section

variable (hds : MarksIn links ds)

include hds

theorem links_strike (hes : linksOf es = links) (hplain : AllPlain es) :
    linksOf (strike ds es) = links ∧ AllPlain (strike ds es) := by
  simp only [strike, ← Array.foldl_toList]
  generalize hpaired : ds.toList.foldl _ (es, []) = paired
  -- single marks are remembered only where no links are
  have hkept : (linksOf paired.1 = links ∧ AllPlain paired.1) ∧ ∀ i ∈ paired.2, Unlinked links i := by
    rw [← hpaired]
    refine List.foldlRecOn (motive := fun p : Array Event × List Nat =>
      (linksOf p.1 = links ∧ AllPlain p.1) ∧ ∀ i ∈ p.2, Unlinked links i) _ _
      ⟨⟨hes, hplain⟩, List.forall_mem_nil _⟩ ?_
    rintro ⟨es', lone⟩ ⟨⟨hes', hplain'⟩, hlone⟩ d hd
    dsimp only
    split
    · rename_i closer _ hcloser
      obtain ⟨k, -, hk⟩ := Option.bind_eq_some_iff.1 hcloser
      have hpair := links_markPair (c := .strikethrough) hes' rfl (hds d (Array.mem_toList_iff.1 hd))
        (hds closer (Array.mem_of_getElem? hk))
      have hpairPlain := hplain'.markPair .strikethrough d.event closer.event
      split
      · rename_i e he
        split
        · rename_i htext
          refine ⟨⟨hpair, hpairPlain⟩, List.forall_mem_cons.2 ⟨?_, hlone⟩⟩
          have hnone := hpairPlain e (Array.mem_of_getElem? he) (by rw [beq_iff_eq.1 htext]; rfl)
          exact hpair ▸ unlinked_of_getElem? he hnone
        · exact ⟨⟨hpair, hpairPlain⟩, hlone⟩
      · exact ⟨⟨hpair, hpairPlain⟩, hlone⟩
    · exact ⟨⟨hes', hplain'⟩, hlone⟩
  exact List.foldlRecOn (motive := fun es => linksOf es = links ∧ AllPlain es) paired.2 moveBehind hkept.1
    fun es' h i hi => ⟨links_moveBehind h.1 (hkept.2 i hi), h.2.moveBehind i⟩

/-- The marks next to those that open and close strong emphasis are marks, too. -/
theorem unlinked_of_isStrong {i partner : Nat} {d closer : Delimiter}
    (hcloser : ds[partner]? = some closer) (h : isStrong ds i d partner = true) :
    Unlinked links (d.event - 1) ∧ Unlinked links (closer.event + 1) := by
  obtain ⟨a, before, after, -, hpair, -, hbefore, hafter⟩ := isStrong_cases h hcloser
  rw [← hbefore, ← hafter]
  exact ⟨hds before (Array.mem_of_getElem? hpair.opener), hds after (Array.mem_of_getElem? hpair.closer)⟩

theorem links_emphasizeBelow (i : Nat) (merged : Bool) (hes : linksOf es = links) (hplain : AllPlain es) :
    linksOf (emphasizeBelow ds i merged es) = links ∧ AllPlain (emphasizeBelow ds i merged es) := by
  induction i generalizing merged es with
  | zero => exact ⟨hes, hplain⟩
  | succ i ih =>
    unfold emphasizeBelow
    split
    · rename_i d hd
      split
      · rename_i partner _ _
        split
        · exact ih false hes hplain
        · rename_i closer hcloser
          have hopener := hds d (Array.mem_of_getElem? hd)
          have hclosing := hds closer (Array.mem_of_getElem? hcloser)
          dsimp only
          split
          · rename_i hstrong
            obtain ⟨hbefore, hafter⟩ := unlinked_of_isStrong hds hcloser hstrong
            have hempty := Event.linkTargets_text ""
            refine ih true ?_ ?_
            · exact links_set (links_set (links_markPair hes rfl hopener hclosing) hbefore hempty)
                hafter hempty
            · exact ((hplain.markPair _ _ _).set _ (.of_nil hempty)).set _ (.of_nil hempty)
          · exact ih false (links_markPair hes rfl hopener hclosing) (hplain.markPair _ _ _)
      · exact ih false hes hplain
    · exact ih false hes hplain

end

theorem MarksIn.pairUp (h : MarksIn links ds) : MarksIn links (pairUp ds) := by
  intro d hd
  have hevent : d.event ∈ (Inline.pairUp ds).map (·.event) := Array.mem_map_of_mem hd
  rw [map_event_pairUp] at hevent
  obtain ⟨d', hd', heq⟩ := Array.mem_map.1 hevent
  exact heq ▸ h d' hd'

/-- Pairing up the marks of emphasis moves no link. -/
theorem State.linkTargets_finish {s : State} (hmarks : ∀ g ∈ s.groups, MarksIn (linksOf s.events) g)
    (hplain : AllPlain s.events) :
    s.finish.toList.flatMap Event.linkTargets = s.events.toList.flatMap Event.linkTargets := by
  have hpaired : ∀ ds ∈ (s.groups.map Inline.pairUp).toList, MarksIn (linksOf s.events) ds := by
    intro ds hds
    obtain ⟨g, hg, rfl⟩ := Array.mem_map.1 (Array.mem_toList_iff.1 hds)
    exact (hmarks g hg).pairUp
  simp only [State.finish, ← Array.foldl_toList]
  have hstruck := List.foldlRecOn
    (motive := fun es => linksOf es = linksOf s.events ∧ AllPlain es)
    (s.groups.map Inline.pairUp).toList (fun es ds => strike ds es) ⟨rfl, hplain⟩
    fun es h ds hds => links_strike (hpaired ds hds) h.1 h.2
  have hemphasized := List.foldlRecOn
    (motive := fun es => linksOf es = linksOf s.events ∧ AllPlain es)
    (s.groups.map Inline.pairUp).toList (fun es ds => emphasize ds es) hstruck
    fun es h ds hds => links_emphasizeBelow (hpaired ds hds) _ _ h.1 h.2
  rw [flatMap_joinTexts fun e he => hemphasized.2 e (Array.mem_toList_iff.1 he), flatMap_linkTargets,
    hemphasized.1, flatMap_linkTargets]

end Inline

end ProposalCheck.Markup
