import ProposalCheck.Proofs.LinkEvents

/-!
# The links of a text in order

`Prose.traces_nodes?`: the links among the nodes of a text come into it one behind the other, and those that
are written as inline links start at ascending positions of the text.

Reading goes on from position to position. The links of what has been read so far start in front of the
position (`Inline.State.OnTrack`), so that a link found there starts behind all of them. Bare addresses
only add links (`Inline.Adds`).
-/

namespace ProposalCheck.Markup

/-! ### Traces -/

section

variable {references : List (String × Reference)} {text : Array Char} {a b c : Nat}
  {targets targets' : List String}

/-- Links with these targets come into a text one behind the other, and those that are written in it as
inline links start between two positions. -/
def Traces (references : List (String × Reference)) (text : Array Char) (a b : Nat)
    (targets : List String) : Prop :=
  ∃ ws : List (Option InlineLink), List.Forall₂ (Comes references text) targets ws ∧
    ws.reduceOption.Pairwise (fun w w' => w.start < w'.start) ∧
    ∀ w ∈ ws.reduceOption, a ≤ w.start ∧ w.start < b

namespace Traces

theorem nil : Traces references text a b [] :=
  ⟨[], .nil, .nil, fun w hw => by cases hw⟩

theorem mono {a' b' : Nat} (h : Traces references text a b targets) (ha : a' ≤ a) (hb : b ≤ b') :
    Traces references text a' b' targets := by
  obtain ⟨ws, hcomes, hascending, hbounds⟩ := h
  refine ⟨ws, hcomes, hascending, fun w hw => ?_⟩
  obtain ⟨hle, hlt⟩ := hbounds w hw
  exact ⟨Nat.le_trans ha hle, Nat.lt_of_lt_of_le hlt hb⟩

theorem append (h : Traces references text a b targets) (h' : Traces references text b c targets')
    (hab : a ≤ b) (hbc : b ≤ c) : Traces references text a c (targets ++ targets') := by
  obtain ⟨ws, hcomes, hascending, hbounds⟩ := h
  obtain ⟨ws', hcomes', hascending', hbounds'⟩ := h'
  refine ⟨ws ++ ws', List.rel_append hcomes hcomes', ?_, ?_⟩
  · rw [List.reduceOption_append, List.pairwise_append]
    refine ⟨hascending, hascending', fun w hw w' hw' => ?_⟩
    exact Nat.lt_of_lt_of_le (hbounds w hw).2 (hbounds' w' hw').1
  · rw [List.reduceOption_append, List.forall_mem_append]
    refine ⟨fun w hw => ?_, fun w hw => ?_⟩
    · exact ⟨(hbounds w hw).1, Nat.lt_of_lt_of_le (hbounds w hw).2 hbc⟩
    · exact ⟨Nat.le_trans hab (hbounds' w hw).1, (hbounds' w hw).2⟩

/-- A single link that, if it is written in the text, starts at a position. -/
theorem singleton {target : String} {o : Option InlineLink} {p : Nat}
    (h : Comes references text target o) (ho : ∀ w ∈ o, w.start = p) :
    Traces references text p (p + 1) [target] := by
  refine ⟨[o], .cons h .nil, ?_, fun w hw => ?_⟩
  · cases o with
    | none => exact .nil
    | some w => exact List.pairwise_singleton _ _
  · obtain rfl := ho w (by simpa [List.reduceOption_mem_iff, eq_comm] using hw)
    exact ⟨Nat.le_refl _, Nat.lt_succ_self _⟩

/-- The links of a part of a text. -/
theorem behind {start stop : Nat} (h : Traces references (slice text start stop).toArray a b targets) :
    Traces references text (start + a) (start + b) targets := by
  obtain ⟨ws, hcomes, hascending, hbounds⟩ := h
  have hreduce : (ws.map (Option.map (InlineLink.behind start))).reduceOption
      = ws.reduceOption.map (InlineLink.behind start) := List.reduceOption_map
  refine ⟨ws.map (Option.map (InlineLink.behind start)), ?_, ?_, ?_⟩
  · exact List.forall₂_map_right_iff.2 (hcomes.imp fun _ _ h => h.behind)
  · rw [hreduce, List.pairwise_map]
    exact hascending.imp fun hlt => Nat.add_lt_add_left hlt start
  · rw [hreduce]
    refine List.forall_mem_map.2 fun w hw => ?_
    obtain ⟨hle, hlt⟩ := hbounds w hw
    exact ⟨Nat.add_le_add_left hle start, Nat.add_lt_add_left hlt start⟩

end Traces

end

/-! ### Reading -/

namespace Inline

variable {references : List (String × Reference)} {text : Array Char} {limit p q b b' : Nat}

namespace State

/-- At a position of the part up to a limit, the events so far have the links that start in front of another
position, and marks of emphasis stand where there are none. -/
structure Traced (references : List (String × Reference)) (text : Array Char) (limit p b : Nat)
    (s : State) : Prop where
  stop_eq : s.stop = limit
  pos_eq : s.pos = p
  plain : AllPlain s.events
  marks : ∀ g ∈ s.groups, ∀ d ∈ g, ∃ e, s.events[d.event]? = some e ∧ e.linkTargets = []
  traces : Traces references text 0 b (s.events.toList.flatMap Event.linkTargets)

/-- The links so far start in front of the position and of the limit. -/
def OnTrack (references : List (String × Reference)) (text : Array Char) (limit : Nat) (s : State) : Prop :=
  ∃ b, s.Traced references text limit s.pos b ∧ b ≤ s.pos ∧ b ≤ limit

namespace Traced

variable {s s' : State} {e : Event}

theorem of_eq (h : s.Traced references text limit p b) (hstop : s'.stop = s.stop) (hpos : s'.pos = s.pos)
    (hgroups : s'.groups = s.groups) (hevents : s'.events = s.events) :
    s'.Traced references text limit p b where
  stop_eq := hstop.trans h.stop_eq
  pos_eq := hpos.trans h.pos_eq
  plain := hevents ▸ h.plain
  marks := hgroups ▸ hevents ▸ h.marks
  traces := hevents ▸ h.traces

theorem setNotes (h : s.Traced references text limit p b) (notes : Notes) :
    State.Traced references text limit p b { s with notes } :=
  h.of_eq rfl rfl rfl rfl

/-- Reading goes on behind the links so far. -/
theorem goOn (h : s.Traced references text limit p b) (hq : b ≤ q) (hlimit : b ≤ limit) :
    State.OnTrack references text limit { s with pos := q } :=
  ⟨b, { h with pos_eq := rfl }, hq, hlimit⟩

theorem push_events (h : s.Traced references text limit p b) (he : e.Plain)
    (htargets : Traces references text b b' e.linkTargets) (hb : b ≤ b')
    (hstop : s'.stop = s.stop) (hpos : s'.pos = s.pos)
    (hgroups : s'.groups = s.groups) (hevents : s'.events = s.events.push e) :
    s'.Traced references text limit p b' where
  stop_eq := hstop.trans h.stop_eq
  pos_eq := hpos.trans h.pos_eq
  plain := by
    rw [hevents]
    intro x hx
    rcases Array.mem_push.1 hx with hx | rfl
    · exact h.plain x hx
    · exact he
  marks := by
    rw [hgroups, hevents]
    intro g hg d hd
    obtain ⟨x, hx, hnone⟩ := h.marks g hg d hd
    obtain ⟨hlt, -⟩ := Array.getElem?_eq_some_iff.1 hx
    exact ⟨x, by rwa [Array.getElem?_push_lt hlt, ← Array.getElem?_eq_getElem hlt], hnone⟩
  traces := by
    rw [hevents, Array.toList_push, List.flatMap_append]
    simpa using h.traces.append htargets (Nat.zero_le b) hb

theorem flush (h : s.Traced references text limit p b) : s.flush.Traced references text limit p b := by
  unfold State.flush
  split
  · exact h
  · have hnone := Event.linkTargets_text (String.ofList s.pending.reverse)
    exact h.push_events (.of_nil hnone) (hnone ▸ .nil) (Nat.le_refl b) rfl rfl rfl rfl

/-- An event is added, with its links. -/
theorem pushLinks (h : s.Traced references text limit p b) (he : e.Plain)
    (htargets : Traces references text b b' e.linkTargets) (hb : b ≤ b') :
    (s.push e).Traced references text limit p b' :=
  h.flush.push_events he htargets hb rfl rfl rfl rfl

theorem push (h : s.Traced references text limit p b) (he : e.linkTargets = []) :
    (s.push e).Traced references text limit p b :=
  h.pushLinks (.of_nil he) (he ▸ .nil) (Nat.le_refl b)

theorem leaf {c : Construct} (h : s.Traced references text limit p b)
    (hc : c.isAtom = true) : (s.leaf c).Traced references text limit p b :=
  h.push (Event.linkTargets_atom hc)

theorem shownLink {target : List Char} (shown : List Char) (h : s.Traced references text limit p b)
    (htarget : Comes references text (String.ofList target) none) :
    (s.shownLink target shown).Traced references text limit p b := by
  have hlink : Traces references text b b [String.ofList target] :=
    ⟨[none], .cons htarget .nil, .nil, fun w hw => by cases hw⟩
  exact ((h.pushLinks (fun htext => by cases htext) hlink (Nat.le_refl b)).leaf rfl).push rfl

theorem mark (cs : List Char) (d : Delimiter) (h : s.Traced references text limit p b) :
    (s.mark cs d).Traced references text limit p b := by
  have hleaf := h.leaf (c := .text (String.ofList cs)) rfl
  refine { hleaf with marks := fun g hg d' hd' => ?_ }
  obtain ⟨i, hi, rfl⟩ := Array.mem_iff_getElem.1 hg
  simp only [State.mark, Array.getElem_modify] at hd'
  split at hd'
  · rcases Array.mem_push.1 hd' with hd' | rfl
    · exact hleaf.marks _ (Array.getElem_mem _) d' hd'
    · -- the mark stands for the event that has been added last
      refine ⟨.text (String.ofList cs), ?_, Event.linkTargets_text _⟩
      simp [State.mark, State.leaf, State.push]
      rfl
  · exact hleaf.marks _ (Array.getElem_mem _) d' hd'

theorem addMarks (cs : List Char) (d : Delimiter) (count length : Nat)
    (h : s.Traced references text limit p b) (hb : b ≤ p) (hlimit : b ≤ limit) :
    (s.addMarks cs d count length).OnTrack references text limit := by
  have hmarked : ((List.range count).foldl (fun s _ => s.mark cs d) s).Traced references text limit p b :=
    List.foldlRecOn (motive := Traced references text limit p b) _ _ h fun _ hs _ _ => hs.mark cs d
  refine hmarked.goOn ?_ hlimit
  rw [hmarked.pos_eq]
  exact Nat.le_add_right_of_le hb

theorem lineEnd (h : s.Traced references text limit p b) :
    s.lineEnd.Traced references text limit p b := by
  unfold State.lineEnd
  split
  · exact leaf (h.of_eq rfl rfl rfl rfl) rfl
  · exact leaf (h.of_eq rfl rfl rfl rfl) rfl
  · exact h.leaf rfl

theorem finish (h : s.Traced references text limit p b) :
    Traces references text 0 b (s.finish.toList.flatMap Event.linkTargets) := by
  rw [linkTargets_finish (fun g hg d hd => ?_) h.plain]
  · exact h.traces
  · obtain ⟨e, he, hnone⟩ := h.marks g hg d hd
    exact unlinked_of_getElem? he hnone

end Traced

end State

/-- The links of a text that is read come into it one behind the other. -/
def TracesOf (references : List (String × Reference)) (cs : List Char)
    (reading : Notes → Array Event × Notes) : Prop :=
  ∀ notes, Traces references cs.toArray 0 cs.length
    ((reading notes).1.toList.flatMap Event.linkTargets)

namespace State

variable {nested : State → State} {s s' : State} {item : Item}

/-- The text of a link is read up to its closing bracket. -/
theorem Traced.inLink {start stop : Nat} (h : s.Traced references text limit p b) (hstart : b ≤ start)
    (hstop : start ≤ stop) : (s.inLink start stop).OnTrack references text stop := by
  refine ⟨b, ⟨rfl, rfl, h.plain, fun g hg d hd => ?_, h.traces⟩, hstart, Nat.le_trans hstart hstop⟩
  rcases Array.mem_push.1 hg with hg | rfl
  · exact h.marks g hg d hd
  · exact absurd hd (Array.not_mem_empty d)

theorem OnTrack.flush (h : s.OnTrack references text limit) : s.flush.OnTrack references text limit := by
  obtain ⟨b, htraced, hpos, hlimit⟩ := h
  have hflushed := htraced.flush
  have heq := hflushed.pos_eq
  exact ⟨b, heq.symm ▸ hflushed, heq.symm ▸ hpos, hlimit⟩

/-- What is left of a part of a text that is plain. -/
theorem OnTrack.plain (cs : List Char) (h : s.OnTrack references text limit) :
    OnTrack references text limit { s.plain cs with pos := s.stop } := by
  obtain ⟨b, htraced, -, hlimit⟩ := h
  exact Traced.goOn (htraced.of_eq rfl rfl rfl rfl) (htraced.stop_eq ▸ hlimit) hlimit

section

variable (hown : ∀ alt, alt.length < text.size → TracesOf references alt (readText references alt))
  (hnested : ∀ limit s, s.Within text → s.OnTrack references text limit →
    (nested s).OnTrack references text limit)

include hown

/-- The links of an alternative text are those of the text that is read. -/
theorem traces_image {start stop : Nat} (hs : s.Within text) (target title : List Char)
    (h : start ≤ stop ∧ stop < q ∧ q ≤ s.stop) :
    Traces references text start stop (Event.linkTargets
      (.leaf (.image (String.ofList target) (titleOf title) (String.ofList (slice text start stop))) none
        ((Event.toNodes? (joinSpecials
          (readText references (slice text start stop) s.notes).1.toList)).getD []))) := by
  have halt := (hown _ (length_slice_lt hs h) s.notes).behind
  have hproper := ((Inline.given_proper references).anyNotes.readText (slice text start stop) s.notes
    fun note _ => note.holds_true).1
  obtain ⟨ns, hns⟩ := exists_nodes_readText references (slice text start stop) s.notes
  rw [hns, Option.getD_some, Event.linkTargets_leaf, Event.linkTargets_toNodes? hns,
    flatMap_joinSpecials fun e he => hproper e (Array.mem_toList_iff.1 he)]
  have hlength := Block.length_slice_le text start stop
  exact halt.mono (Nat.le_add_right _ _) (by omega)

include hnested

theorem Traced.addItem (hs : s.Within text) (h : s.Traced references text limit p b) (hb : b ≤ p)
    (hlimit : b ≤ limit) (hitem : item.StandsAt references text limit p q) :
    OnTrack references text limit
      { addItem (readText references) nested text item s with pos := q } := by
  cases item with
  | plain cs => exact goOn (h.of_eq rfl rfl rfl rfl) (Nat.le_trans hb hitem) hlimit
  | address before target shown =>
    obtain ⟨hq, htarget⟩ := hitem
    exact goOn (shownLink shown (h.of_eq rfl rfl rfl rfl) htarget) (Nat.le_trans hb hq) hlimit
  | lineEnd => exact goOn h.lineEnd (Nat.le_trans hb hitem) hlimit
  | hardBreak => exact goOn (h.leaf rfl) (Nat.le_trans hb hitem) hlimit
  | special cs => exact goOn (h.push (Event.linkTargets_special _ _)) (Nat.le_trans hb hitem) hlimit
  | code content => exact goOn (h.leaf rfl) (Nat.le_trans hb hitem) hlimit
  | link start stop target title =>
    obtain ⟨hstart, hstop, hq, hend, o, hcomes, ho⟩ := hitem
    have hopened := h.pushLinks (e := .opening (.link (String.ofList target) (titleOf title)) none)
      (fun htext => by cases htext) ((Traces.singleton hcomes ho).mono hb (Nat.le_refl _)) (by omega)
    obtain ⟨b', hread, -, hle⟩ := hnested stop _
      (hs.inLink _ (Nat.le_of_lt (Nat.lt_of_lt_of_le hq (h.stop_eq ▸ hend))) _)
      (hopened.inLink hstart hstop)
    rw [addItem_link]
    exact goOn (push (b := b') ⟨hopened.stop_eq, rfl, hread.plain, hread.marks, hread.traces⟩ rfl)
      (by omega) (by omega)
  | image start stop target title =>
    obtain ⟨hstart, hbounds⟩ := hitem
    have htargets := traces_image hown hs target title (h.stop_eq.symm ▸ hbounds)
    exact goOn (pushLinks (h.setNotes _) (fun htext => by cases htext)
      (htargets.mono (by omega) (Nat.le_refl stop)) (by omega)) (by omega) (by omega)
  | note start stop =>
    obtain ⟨hstart, hbounds⟩ := hitem
    exact goOn (leaf (h.setNotes _) rfl) (by omega) hlimit
  | noteRef label => exact goOn (leaf (h.setNotes _) rfl) (Nat.le_trans hb hitem) hlimit
  | autolink target shown =>
    obtain ⟨hq, htarget⟩ := hitem
    exact goOn (h.shownLink shown htarget) (Nat.le_trans hb hq) hlimit
  | html content =>
    have hleaf := h.leaf (c := .html (String.ofList content)) rfl
    exact goOn (hleaf.of_eq rfl rfl rfl rfl) (Nat.le_trans hb hitem) hlimit

theorem OnTrack.of_reads (hs : s.Within text) (h : s.OnTrack references text limit)
    (hread : ReadsItem (readText references) nested text references s s') :
    s'.OnTrack references text limit := by
  obtain ⟨b, htraced, hpos, hlimit⟩ := h
  cases hread with
  | marks _ _ count length => exact htraced.addMarks _ _ count length hpos hlimit
  | tilde _ _ count length => exact (htraced.leaf rfl).addMarks _ _ count length hpos hlimit
  | @item item q memory hitem hmemory =>
    have hs' : State.Within text { s with memory } := ⟨hmemory, hs.stop_le⟩
    exact Traced.addItem hown hnested hs' (htraced.of_eq rfl rfl rfl rfl) hpos hlimit
      (htraced.stop_eq ▸ hitem)
  | plain => exact Traced.goOn (htraced.of_eq rfl rfl rfl rfl) (Nat.le_succ_of_le hpos) hlimit

end

end State

theorem traces_readText (references : List (String × Reference)) (cs : List Char) :
    TracesOf references cs (readText references cs) := by
  refine readText_induction (R := TracesOf references) (fun cs hown notes => ?_) cs
  have hstart : (State.start cs notes).OnTrack references cs.toArray cs.length := by
    refine ⟨0, ⟨List.size_toArray, rfl, fun e he => by simp [State.start] at he, fun g hg d hd => ?_,
      .nil⟩, Nat.le_refl 0, Nat.zero_le _⟩
    obtain rfl : g = #[] := by simpa [State.start] using hg
    exact absurd hd (Array.not_mem_empty d)
  obtain ⟨b, htraced, -, hlimit⟩ := readPart_induction
    (P := fun limit s => s.OnTrack references cs.toArray limit) (fun _ s hs => hs.flush)
    (fun _ s part hs => hs.plain part)
    (fun nested hnested _ s s' hs h hread => h.of_reads hown hnested hs hread) maxDepth
    (State.within_start cs notes) hstart
  exact htraced.finish.mono (Nat.le_refl 0) hlimit

/-! ### Bare addresses -/

/-- A target that a bare address in one of some texts leads to. -/
def IsAddress (shown : List Event) (target : String) : Prop :=
  ∃ e ∈ shown, ∃ s found, e.text? = some s ∧ found ∈ Autolink.findAll s.toList.toArray ∧
    allowedTarget? (addressTarget (slice s.toList.toArray found.start found.stop) found)
      = some target.toList

/-- Targets, with targets of addresses put in between. -/
inductive Adds (shown : List Event) : List String → List String → Prop
  | nil : Adds shown [] []
  | keep {targets targets' : List String} (target : String) (h : Adds shown targets targets') :
      Adds shown (target :: targets) (target :: targets')
  | add {targets targets' : List String} {target : String} (htarget : IsAddress shown target)
      (h : Adds shown targets targets') : Adds shown targets (target :: targets')

namespace Adds

variable {shown : List Event} {a a' b b' : List String}

theorem refl (shown : List Event) (targets : List String) : Adds shown targets targets := by
  induction targets with
  | nil => exact .nil
  | cons target rest ih => exact .keep target ih

theorem append (ha : Adds shown a a') (hb : Adds shown b b') : Adds shown (a ++ b) (a' ++ b') := by
  induction ha with
  | nil => exact hb
  | keep target _ ih => exact .keep target ih
  | add htarget _ ih => exact .add htarget ih

theorem trans {c : List String} (hab : Adds shown a b) (hbc : Adds shown b c) : Adds shown a c := by
  induction hbc generalizing a with
  | nil => exact hab
  | keep target _ ih =>
    cases hab with
    | keep _ h => exact .keep target (ih h)
    | add htarget h => exact .add htarget (ih h)
  | add htarget _ ih => exact .add htarget (ih hab)

theorem of_forall (h : ∀ target ∈ a, IsAddress shown target) : Adds shown [] a := by
  induction a with
  | nil => exact .nil
  | cons target rest ih =>
    obtain ⟨htarget, hrest⟩ := List.forall_mem_cons.1 h
    exact .add htarget (ih hrest)

end Adds

section

variable {shown : List Event} {es : Array Event}

theorem isAddress_linkAddresses {e : Event} {s : String} (he : e ∈ shown) (hs : e.text? = some s)
    (p : Nat) {found : List Autolink.Found} (hfound : ∀ f ∈ found, f ∈ Autolink.findAll s.toList.toArray) :
    ∀ target ∈ (linkAddresses s.toList.toArray p found).flatMap Event.linkTargets,
      IsAddress shown target := by
  have hnone (l : List Event) (hl : ∀ e ∈ l, e.linkTargets = []) :
      ∀ target ∈ l.flatMap Event.linkTargets, IsAddress shown target := by
    intro target htarget
    obtain ⟨x, hx, hmem⟩ := List.mem_flatMap.1 htarget
    rw [hl x hx] at hmem
    cases hmem
  have htext (p : Prop) [Decidable p] (t : String) :
      ∀ target ∈ (if p then [Event.text t] else []).flatMap Event.linkTargets, IsAddress shown target := by
    refine hnone _ fun x hx => ?_
    split at hx
    · exact List.mem_singleton.1 hx ▸ Event.linkTargets_text t
    · cases hx
  induction found generalizing p with
  | nil => exact htext _ _
  | cons f rest ih =>
    obtain ⟨hf, hrest⟩ := List.forall_mem_cons.1 hfound
    rw [linkAddresses_cons]
    cases htarget : allowedTarget? (addressTarget (slice s.toList.toArray f.start f.stop) f) with
    | none => exact ih p hrest
    | some target =>
      simp only [List.flatMap_append]
      refine List.forall_mem_append.2 ⟨List.forall_mem_append.2 ⟨htext _ _, ?_⟩, ih f.stop hrest⟩
      intro x hx
      rw [List.flatMap_cons, List.flatMap_cons, Event.linkTargets_text] at hx
      obtain rfl := List.mem_singleton.1 hx
      exact ⟨e, he, s, f, hs, hf, by rw [String.toList_ofList]; exact htarget⟩

theorem adds_replaceText {e : Event} (before : Option Event) (he : e ∈ shown) (hplain : e.Plain) :
    Adds shown e.linkTargets ((replaceText before e).flatMap Event.linkTargets) := by
  have hsame : Adds shown e.linkTargets ([e].flatMap Event.linkTargets) := by
    rw [List.flatMap_singleton]
    exact .refl _ _
  unfold replaceText
  split
  · exact hsame
  · rename_i s hs
    have hnew {found : List Autolink.Found} (hfound : ∀ f ∈ found, f ∈ Autolink.findAll s.toList.toArray) :
        Adds shown e.linkTargets ((if found.isEmpty then [e] else
          linkAddresses s.toList.toArray 0 found).flatMap Event.linkTargets) := by
      split
      · exact hsame
      · rw [hplain (by rw [hs]; rfl)]
        exact .of_forall (isAddress_linkAddresses he hs 0 hfound)
    refine hnew fun f hf => ?_
    generalize Autolink.findAll s.toList.toArray = all at hf ⊢
    split at hf
    · split at hf
      · exact List.mem_cons_of_mem _ hf
      · exact hf
    · exact hf

theorem adds_replaceBelow (hshown : ∀ e ∈ es, e ∈ shown) (hplain : AllPlain es) (ds : Array Nat) (i : Nat)
    (skipping : Option Nat) (html : Nat) (done : List Event) :
    Adds shown ((es.toList.take i).flatMap Event.linkTargets ++ done.flatMap Event.linkTargets)
      ((replaceBelow es ds i skipping html done).flatMap Event.linkTargets) := by
  induction i generalizing skipping html done with
  | zero => exact .refl _ _
  | succ i ih =>
    rw [List.take_add_one, List.flatMap_append, Array.getElem?_toList]
    unfold replaceBelow
    split
    · rename_i hnone
      rw [hnone]
      simpa using ih skipping html done
    · rename_i e he
      have hmem := Array.mem_of_getElem? he
      have hkeep (skipping : Option Nat) (html : Nat) := ih skipping html (e :: done)
      rw [he]
      simp only [List.flatMap_cons, ← List.append_assoc] at hkeep
      have htargets : (some e).toList.flatMap Event.linkTargets = e.linkTargets := by simp
      rw [htargets]
      split
      · exact hkeep _ _
      · exact hkeep _ _
      · exact hkeep _ _
      · exact hkeep _ _
      · have hnew {new : List Event} (h : Adds shown e.linkTargets (new.flatMap Event.linkTargets)) :
            Adds shown ((es.toList.take i).flatMap Event.linkTargets ++ e.linkTargets
                ++ done.flatMap Event.linkTargets)
              ((replaceBelow es ds i none html (new ++ done)).flatMap Event.linkTargets) := by
          refine Adds.trans ?_ (ih none html (new ++ done))
          rw [List.flatMap_append, ← List.append_assoc]
          exact (Adds.append (.refl _ _) h).append (.refl _ _)
        refine hnew ?_
        split
        · exact adds_replaceText _ (hshown e hmem) (hplain e hmem)
        · rw [List.flatMap_singleton]
          exact .refl _ _

/-- Bare addresses become links between the links that are there. -/
theorem adds_replaceAddresses (content : String) (hplain : AllPlain es) :
    Adds es.toList (es.toList.flatMap Event.linkTargets)
      ((replaceAddresses content es).toList.flatMap Event.linkTargets) := by
  unfold replaceAddresses
  split
  · have hshown : ∀ e ∈ es, e ∈ es.toList := fun e he => Array.mem_toList_iff.2 he
    have h := adds_replaceBelow hshown hplain (depths es.toList) es.size none 0 []
    rwa [List.flatMap_nil, List.append_nil, List.take_of_length_le (Array.length_toList ▸ Nat.le_refl _)]
      at h
  · exact .refl _ _

end

end Inline

/-! ### The links of a text -/

/-- How a link comes into a text that has been read: it is written there, or it has been written in some other
way. -/
def Prose.Stems (references : List (String × Reference)) (p : Prose) (target : String)
    (o : Option InlineLink) : Prop :=
  Comes references p.content.toList.toArray target o ∨
    o = none ∧ Inline.IsAddress p.events.toList target

namespace Prose

variable {references : List (String × Reference)} {p : Prose}

theorem stems_of_adds {targets targets' : List String} {ws : List (Option InlineLink)}
    (hadds : Inline.Adds p.events.toList targets targets')
    (hws : List.Forall₂ (Comes references p.content.toList.toArray) targets ws) :
    ∃ ws', List.Forall₂ (p.Stems references) targets' ws' ∧ ws'.reduceOption = ws.reduceOption := by
  induction hadds generalizing ws with
  | nil =>
    cases hws
    exact ⟨[], .nil, rfl⟩
  | keep target _ ih =>
    cases hws with
    | cons h hrest =>
      rename_i o rest
      obtain ⟨ws', hws', hreduce⟩ := ih hrest
      refine ⟨o :: ws', .cons (.inl h) hws', ?_⟩
      cases o with
      | none => exact hreduce
      | some w => rw [List.reduceOption_cons_of_some, List.reduceOption_cons_of_some, hreduce]
  | add htarget _ ih =>
    obtain ⟨ws', hws', hreduce⟩ := ih hws
    exact ⟨none :: ws', .cons (.inr ⟨rfl, htarget⟩) hws', hreduce⟩

/-- The links among the nodes of a text come into it one behind the other, and those that are written as
inline links start at ascending positions. -/
theorem traces_nodes? {P : String → Option LineSpan → Prop} {l : Option LineSpan} {ns : List Node}
    (h : p.IsRead references P l) (hns : p.nodes? = some ns) :
    ∃ ws : List (Option InlineLink),
      List.Forall₂ (p.Stems references) (ns.flatMap Node.linkTargets) ws ∧
        ws.reduceOption.Pairwise fun w w' => w.start < w'.start := by
  have hproper := h.proper
  obtain ⟨notes, -, hevents⟩ := h.events
  obtain ⟨ws, hcomes, hascending, -⟩ := Inline.traces_readText references p.content.toList notes
  rw [← hevents] at hcomes
  have hadds := Inline.adds_replaceAddresses p.content fun e he => (hproper.events e he).bare.plain
  obtain ⟨ws', hstems, hreduce⟩ := stems_of_adds hadds hcomes
  refine ⟨ws', ?_, hreduce ▸ hascending⟩
  rw [Event.linkTargets_toNodes? hns, Inline.flatMap_joinSpecials hproper.replaceAddresses]
  exact hstems

end Prose

end ProposalCheck.Markup
