import ProposalCheck.Proofs.Emphasis
import ProposalCheck.Proofs.Steps

/-!
# The events of a text nest

What opens in a text closes in it (`Inline.level_readText`), so that its events are those of a tree, also in
alternative texts (`Inline.exists_nodes_readText`).

While a text is read, only links are opened and closed. Each mark of emphasis is a text then, and it stands
behind all marks that have been read before (`Inline.State.Nested`). What comes of the marks when they are paired
up keeps the depth.
-/

namespace ProposalCheck.Markup.Inline

open Event (level?)

namespace State

/-- A delimiter of a group. -/
def Marked (s : State) (g i : Nat) (d : Delimiter) : Prop :=
  ∃ ds, s.groups[g]? = some ds ∧ ds[i]? = some d

/-- The events so far nest, `n` links being open, and the marks of emphasis are texts, in each group in the
order in which they stand. -/
structure Nested (n : Nat) (s : State) : Prop where
  level : level? s.events.toList 0 = some n
  live {g i : Nat} {d : Delimiter} (h : s.Marked g i d) : Live s.events d.event
  single {g i : Nat} {d : Delimiter} (h : s.Marked g i d) : d.partner = none
  ascending {g i j : Nat} {d d' : Delimiter} (h : s.Marked g i d) (h' : s.Marked g j d') (hij : i < j) :
    d.event < d'.event
  apart {g g' i j : Nat} {d d' : Delimiter} (h : s.Marked g i d) (h' : s.Marked g' j d') (hg : g ≠ g') :
    d.event ≠ d'.event

variable {s s' : State} {n m : Nat} {e : Event}

namespace Nested

theorem of_eq (h : s.Nested n) (hevents : s'.events = s.events) (hgroups : s'.groups = s.groups) :
    s'.Nested n := by
  have hmarked {g i : Nat} {d : Delimiter} (hd : s'.Marked g i d) : s.Marked g i d := by
    rwa [Marked, ← hgroups]
  exact ⟨hevents ▸ h.level, fun hd => hevents ▸ h.live (hmarked hd), fun hd => h.single (hmarked hd),
    fun hd hd' => h.ascending (hmarked hd) (hmarked hd'), fun hd hd' => h.apart (hmarked hd) (hmarked hd')⟩

theorem setPending (h : s.Nested n) (pending : List Char) : State.Nested n { s with pending } :=
  h.of_eq rfl rfl

theorem event_lt (h : s.Nested n) {g i : Nat} {d : Delimiter} (hd : s.Marked g i d) :
    d.event < s.events.size := by
  obtain ⟨x, -, hx, -⟩ := h.live hd
  exact (Array.getElem?_eq_some_iff.1 hx).1

theorem push_event (h : s.Nested n) (he : level? [e] n = some m) (hevents : s'.events = s.events.push e)
    (hgroups : s'.groups = s.groups) : s'.Nested m := by
  have hs : State.Nested m { s with events := s.events.push e } := by
    refine ⟨?_, fun hd => ?_, h.single, h.ascending, h.apart⟩
    · rw [Array.toList_push, Event.level?_append, h.level]
      exact he
    · obtain ⟨x, t, hx, ht⟩ := h.live hd
      refine ⟨x, t, ?_, ht⟩
      rwa [Array.getElem?_push_lt (h.event_lt hd), ← Array.getElem?_eq_getElem]
  exact hs.of_eq hevents hgroups

theorem flush (h : s.Nested n) : s.flush.Nested n := by
  unfold State.flush
  split
  · exact h
  · exact h.push_event (m := n) rfl rfl rfl

theorem push (h : s.Nested n) (he : level? [e] n = some m) : (s.push e).Nested m :=
  h.flush.push_event he rfl rfl

theorem leaf (h : s.Nested n) (c : Construct) : (s.leaf c).Nested n :=
  h.push rfl

theorem shownLink (h : s.Nested n) (target shown : List Char) : (s.shownLink target shown).Nested n :=
  ((h.push (m := n + 1) rfl).leaf _).push rfl

theorem lineEnd (h : s.Nested n) : s.lineEnd.Nested n := by
  unfold State.lineEnd
  split
  · exact (h.setPending _).leaf _
  · exact (h.setPending _).leaf _
  · exact h.leaf _

/-- A delimiter after one has been added to a group. -/
theorem marked_of_modify {g i group : Nat} {d x : Delimiter}
    (hgroups : s'.groups = s.groups.modify group (·.push x)) (hd : s'.Marked g i d) :
    s.Marked g i d ∨ g = group ∧ d = x ∧ ∃ ds, s.groups[group]? = some ds ∧ i = ds.size := by
  obtain ⟨ds, hds, hd⟩ := hd
  rw [hgroups, Array.getElem?_modify] at hds
  split at hds
  · rename_i hg
    subst hg
    obtain ⟨ds', hds', rfl⟩ := Option.map_eq_some_iff.1 hds
    rw [Array.getElem?_push] at hd
    split at hd
    · rename_i hi
      exact .inr ⟨rfl, (Option.some.inj hd).symm, ds', hds', hi⟩
    · exact .inl ⟨ds', hds', hd⟩
  · exact .inl ⟨ds, hds, hd⟩

/-- A mark is added to a group, behind all others. -/
theorem addMark (h : s.Nested n) {x : Delimiter} {t : String} {group : Nat} (ht : e.text? = some t)
    (hne : t ≠ "~") (hx : x.event = s.events.size) (hpartner : x.partner = none)
    (hevents : s'.events = s.events.push e) (hgroups : s'.groups = s.groups.modify group (·.push x)) :
    s'.Nested n := by
  have hpushed : State.Nested n { s with events := s.events.push e } :=
    h.push_event (Event.level?_cons_leaf (Event.isLeaf_of_text? ht)) rfl rfl
  have hbehind {g i : Nat} {d : Delimiter} (hd : s.Marked g i d) : d.event < x.event :=
    hx ▸ h.event_lt hd
  refine ⟨hevents ▸ hpushed.level, fun hd => ?_, fun hd => ?_, fun hd hd' hij => ?_,
    fun hd hd' hg => ?_⟩
  · rw [hevents]
    rcases marked_of_modify hgroups hd with hd | ⟨-, rfl, -⟩
    · exact hpushed.live hd
    · exact ⟨e, t, by rw [hx, Array.getElem?_push_size], ht, hne⟩
  · rcases marked_of_modify hgroups hd with hd | ⟨-, rfl, -⟩
    · exact h.single hd
    · exact hpartner
  · rcases marked_of_modify hgroups hd with hd | ⟨rfl, rfl, ds, hds, rfl⟩
    · rcases marked_of_modify hgroups hd' with hd' | ⟨-, rfl, -⟩
      · exact h.ascending hd hd' hij
      · exact hbehind hd
    · -- nothing stands behind the mark that has been added
      rcases marked_of_modify hgroups hd' with ⟨ds', hds', hd'⟩ | ⟨-, -, ds', hds', rfl⟩
      · obtain rfl := Option.some.inj (hds'.symm.trans hds)
        exact absurd (Array.getElem?_eq_some_iff.1 hd').1 (Nat.lt_asymm hij)
      · obtain rfl := Option.some.inj (hds'.symm.trans hds)
        exact absurd hij (Nat.lt_irrefl _)
  · rcases marked_of_modify hgroups hd with hd | ⟨rfl, rfl, -⟩ <;>
      rcases marked_of_modify hgroups hd' with hd' | ⟨rfl, rfl, -⟩
    · exact h.apart hd hd' hg
    · exact Nat.ne_of_lt (hbehind hd)
    · exact (Nat.ne_of_lt (hbehind hd')).symm
    · exact absurd rfl hg

theorem mark (h : s.Nested n) {cs : List Char} {d : Delimiter} (hcs : cs ≠ ['~']) (hd : d.partner = none) :
    (s.mark cs d).Nested n := by
  refine h.flush.addMark (e := .text (String.ofList cs)) rfl (fun heq => hcs ?_) ?_ ?_ rfl rfl
  · exact String.ofList_injective heq
  · simp [State.leaf, State.push]
  · exact hd

theorem addMarks (h : s.Nested n) {cs : List Char} {d : Delimiter} (hcs : cs ≠ ['~'])
    (hd : d.partner = none) (count length : Nat) : (s.addMarks cs d count length).Nested n := by
  have hmarked : ((List.range count).foldl (fun s _ => s.mark cs d) s).Nested n :=
    List.foldlRecOn (motive := State.Nested n) _ _ h fun s hs _ _ => hs.mark hcs hd
  exact hmarked.of_eq rfl rfl

/-- The marks in a link are a group of their own. -/
theorem inLink (h : s.Nested n) (start stop : Nat) : (s.inLink start stop).Nested n := by
  have hmarked {g i : Nat} {d : Delimiter} (hd : (s.inLink start stop).Marked g i d) : s.Marked g i d := by
    obtain ⟨ds, hds, hd⟩ := hd
    rw [State.inLink, Array.getElem?_push] at hds
    split at hds
    · obtain rfl := Option.some.inj hds
      simp at hd
    · exact ⟨ds, hds, hd⟩
  exact ⟨h.level, fun hd => h.live (hmarked hd), fun hd => h.single (hmarked hd),
    fun hd hd' => h.ascending (hmarked hd) (hmarked hd'), fun hd hd' => h.apart (hmarked hd) (hmarked hd')⟩

section

variable {own : Reader} {nested : State → State} {text : Array Char} {references : List (String × Reference)}
  {item : Item} {p q : Nat}
  (hnested : ∀ n s, s.Within text → s.Nested n → (nested s).Nested n)

include hnested

theorem addItem (hs : s.Within text) (h : s.Nested n) (hitem : item.StandsAt references text s.stop p q) :
    (addItem own nested text item s).Nested n := by
  cases item with
  | plain cs => exact h.of_eq rfl rfl
  | address before target shown => exact (h.setPending _).shownLink target shown
  | lineEnd => exact h.lineEnd
  | hardBreak | special | code => exact h.leaf _
  | link start stop target title =>
    obtain ⟨-, -, hq, hend, -⟩ := hitem
    have hopened : (s.push (.opening (.link (String.ofList target) (titleOf title)) none)).Nested (n + 1) :=
      h.push rfl
    have hread := hnested (n + 1) _
      (hs.inLink start (Nat.le_of_lt (Nat.lt_of_lt_of_le hq hend)) _) (hopened.inLink start stop)
    rw [addItem_link]
    exact push (n := n + 1) (hread.of_eq rfl rfl) rfl
  | image | note | noteRef => exact push (h.of_eq rfl rfl) rfl
  | autolink target shown => exact h.shownLink target shown
  | html content => exact (h.leaf (.html (String.ofList content))).of_eq rfl rfl

theorem of_reads (hs : s.Within text) (h : s.Nested n) (hread : ReadsItem own nested text references s s') :
    s'.Nested n := by
  cases hread with
  | marks hcs hd count length => exact h.addMarks hcs hd count length
  | tilde hcs hd count length => exact (h.leaf _).addMarks hcs hd count length
  | @item item q memory hitem hmemory =>
    have hs' : State.Within text { s with memory } := ⟨hmemory, hs.stop_le⟩
    have hsame : State.Nested n { s with memory } := h.of_eq rfl rfl
    exact (hsame.addItem hnested hs' hitem).of_eq rfl rfl
  | plain => exact h.of_eq rfl rfl

end

/-- When the marks of a group have been paired up, each of them stands where it has stood. -/
theorem exists_marked {g : Nat} {ds : Array Delimiter} {d : Delimiter} (hds : s.groups[g]? = some ds)
    (hd : d ∈ pairUp ds) : ∃ i d', s.Marked g i d' ∧ d'.event = d.event := by
  obtain ⟨i, hi⟩ := Array.mem_iff_getElem?.1 hd
  obtain ⟨d', hd', hevent⟩ := getElem?_pairUp hi
  exact ⟨i, d', ⟨ds, hds, hd'⟩, hevent⟩

theorem arranged (h : s.Nested n) {g : Nat} {ds : Array Delimiter} (hds : s.groups[g]? = some ds) :
    Arranged (pairUp ds) := by
  refine ⟨paired_pairUp fun d hd => ?_, fun hd hd' hij => ?_⟩
  · obtain ⟨i, hi⟩ := Array.mem_iff_getElem?.1 hd
    exact h.single ⟨ds, hds, hi⟩
  · obtain ⟨d₀, hd₀, hevent⟩ := getElem?_pairUp hd
    obtain ⟨d₁, hd₁, hevent'⟩ := getElem?_pairUp hd'
    exact hevent ▸ hevent' ▸ h.ascending ⟨ds, hds, hd₀⟩ ⟨ds, hds, hd₁⟩ hij

/-- Two marks never stand at the same place. -/
theorem eq_of_event_eq (h : s.Nested n) {g g' : Nat} {ds ds' : Array Delimiter} {d d' : Delimiter}
    (hds : s.groups[g]? = some ds) (hds' : s.groups[g']? = some ds') (hd : d ∈ pairUp ds)
    (hd' : d' ∈ pairUp ds') (heq : d.event = d'.event) : d = d' := by
  by_cases hg : g = g'
  · subst hg
    obtain rfl := Option.some.inj (hds.symm.trans hds')
    obtain ⟨i, hi⟩ := Array.mem_iff_getElem?.1 hd
    obtain ⟨j, hj⟩ := Array.mem_iff_getElem?.1 hd'
    obtain rfl := (h.arranged hds).index_eq hi hj heq
    exact Option.some.inj (hi.symm.trans hj)
  · obtain ⟨i, d₀, hd₀, hevent⟩ := exists_marked hds hd
    obtain ⟨j, d₁, hd₁, hevent'⟩ := exists_marked hds' hd'
    exact absurd (hevent.trans (heq.trans hevent'.symm)) (h.apart hd₀ hd₁ hg)

/-- Pairing up the marks of emphasis keeps the events nested. -/
theorem finish (h : s.Nested n) : level? s.finish.toList 0 = some n := by
  have hpaired {ds : Array Delimiter} (hds : ds ∈ (s.groups.map pairUp).toList) :
      ∃ (g : Nat) (ds₀ : Array Delimiter), s.groups[g]? = some ds₀ ∧ ds = pairUp ds₀ := by
    obtain ⟨ds₀, hds₀, rfl⟩ := Array.mem_map.1 (Array.mem_toList_iff.1 hds)
    obtain ⟨g, hg⟩ := Array.mem_iff_getElem?.1 hds₀
    exact ⟨g, ds₀, hg, rfl⟩
  have harranged : ∀ ds ∈ (s.groups.map pairUp).toList, Arranged ds := by
    intro ds hds
    obtain ⟨g, ds₀, hg, rfl⟩ := hpaired hds
    exact h.arranged hg
  have hapart : (s.groups.map pairUp).toList.Pairwise Apart := by
    rw [Array.toList_map, List.pairwise_map, List.pairwise_iff_getElem]
    intro g g' hg hg' hlt d hd d' hd'
    obtain ⟨i, d₀, hd₀, hevent⟩ := exists_marked (Array.getElem?_toList ▸ List.getElem?_eq_getElem hg) hd
    obtain ⟨j, d₁, hd₁, hevent'⟩ := exists_marked (Array.getElem?_toList ▸ List.getElem?_eq_getElem hg') hd'
    exact hevent ▸ hevent' ▸ h.apart hd₀ hd₁ (Nat.ne_of_lt hlt)
  have hstart : Awaits n (fun k => ∃ ds ∈ (s.groups.map pairUp).toList, ∃ d ∈ ds, d.event = k) s.events := by
    refine ⟨h.level, fun {k} hk => ?_⟩
    obtain ⟨ds, hds, d, hd, rfl⟩ := hk
    obtain ⟨g, ds₀, hg, rfl⟩ := hpaired hds
    obtain ⟨i, d₀, hd₀, hevent⟩ := exists_marked hg hd
    exact hevent ▸ h.live hd₀
  have hstruck := turns_strike.foldl harranged hapart (fun ds hds d hd _ => ⟨ds, hds, d, hd, rfl⟩) hstart
  -- marks that are struck are not those that are emphasized
  have hrest : ∀ ds ∈ (s.groups.map pairUp).toList, ∀ d ∈ ds, d.marker ≠ '~' →
      (∃ ds ∈ (s.groups.map pairUp).toList, ∃ d' ∈ ds, d'.event = d.event) ∧
        ∀ ds ∈ (s.groups.map pairUp).toList, ∀ d' ∈ ds, d'.marker = '~' → d'.event ≠ d.event := by
    refine fun ds hds d hd hM => ⟨⟨ds, hds, d, hd, rfl⟩, fun ds' hds' d' hd' hM' heq => hM ?_⟩
    obtain ⟨g, ds₀, hg, rfl⟩ := hpaired hds
    obtain ⟨g', ds₁, hg', rfl⟩ := hpaired hds'
    exact h.eq_of_event_eq hg' hg hd' hd heq ▸ hM'
  have hemphasized := turns_emphasize.foldl harranged hapart hrest hstruck
  simp only [State.finish, ← Array.foldl_toList]
  rw [level?_joinTexts]
  exact hemphasized.level

end Nested

end State

/-- What opens in a text closes in it. -/
theorem level_readText (references : List (String × Reference)) (cs : List Char) (notes : Notes) :
    level? (readText references cs notes).1.toList 0 = some 0 := by
  have hstart : (State.start cs notes).Nested 0 := by
    have hmarked {g i : Nat} {d : Delimiter} (hd : (State.start cs notes).Marked g i d) : False := by
      obtain ⟨ds, hds, hd⟩ := hd
      obtain rfl : ds = #[] := by simpa [State.start] using Array.mem_of_getElem? hds
      simp at hd
    exact ⟨rfl, fun hd => (hmarked hd).elim, fun hd => (hmarked hd).elim, fun hd => (hmarked hd).elim,
      fun hd => (hmarked hd).elim⟩
  rw [readText_eq]
  exact (readPart_induction (P := State.Nested) (fun _ s hs => hs.flush) (fun _ s cs hs => hs.of_eq rfl rfl)
    (fun nested hnested _ s s' hs h hread => h.of_reads hnested hs hread) maxDepth
    (State.within_start cs notes) hstart).finish

/-- The events of a text build nodes. -/
theorem exists_nodes_readText (references : List (String × Reference)) (cs : List Char) (notes : Notes) :
    ∃ ns, Event.toNodes? (joinSpecials (readText references cs notes).1.toList) = some ns :=
  Event.exists_toNodes? ((level?_joinSpecials _ _).trans (level_readText references cs notes))

end ProposalCheck.Markup.Inline
