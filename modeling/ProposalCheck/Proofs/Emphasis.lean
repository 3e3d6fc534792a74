import ProposalCheck.Proofs.Pairs

/-!
# Emphasis among events

What events open and close leads from one depth to another (`Event.level?`), and events that close all that
has been opened build nodes (`Event.exists_toNodes?`).

Marks of emphasis become openings and closings in pairs, of which the first one stands in front of the second.
A mark does so at most once, and before that it is a text. So the marks are followed that are still texts
(`Inline.Awaits`): what `strike` and `emphasize` do to one group of marks keeps the depth and leaves all other
marks as they are (`Inline.turns_strike`, `Inline.turns_emphasize`). A single tilde is no mark, and it is moved
only past events that close something.
-/

namespace ProposalCheck.Markup

/-! ### Levels -/

namespace Event

/-- The depth to which events lead from a depth, unless one of them closes what has not been opened. -/
def level? : List Event → Nat → Option Nat
  | [], n => some n
  | .opening _ _ :: es, n => level? es (n + 1)
  | .closing _ :: _, 0 => none
  | .closing _ :: es, n + 1 => level? es n
  | .leaf _ _ _ :: es, n => level? es n

/-- Whether an event neither opens nor closes anything. -/
def isLeaf : Event → Bool
  | .leaf _ _ _ => true
  | _ => false

variable {es : List Event} {e x : Event} {c : Construct} {l : Option LineSpan} {i j n m : Nat}

theorem isLeaf_of_text? {s : String} (h : e.text? = some s) : e.isLeaf = true := by
  cases e with
  | leaf => rfl
  | opening | closing => cases h

theorem level?_cons_leaf (he : e.isLeaf = true) : level? (e :: es) n = level? es n := by
  cases e with
  | leaf => rfl
  | opening | closing => cases he

/-- What follows an event decides to what depth it leads. -/
theorem level?_cons_congr {es' : List Event} (h : ∀ n, level? es n = level? es' n) :
    level? (e :: es) n = level? (e :: es') n := by
  cases e with
  | leaf | opening => exact h _
  | closing =>
    cases n with
    | zero => rfl
    | succ n => exact h n

theorem level?_append (es es' : List Event) (n : Nat) :
    level? (es ++ es') n = (level? es n).bind (level? es') := by
  induction es generalizing n with
  | nil => rfl
  | cons e rest ih =>
    cases e with
    | leaf | opening => exact ih _
    | closing =>
      cases n with
      | zero => rfl
      | succ n => exact ih n

/-- Events that close all that has been opened build nodes. -/
theorem exists_build {done : List Node} {fs : List Frame} (h : level? es fs.length = some 0) :
    ∃ ns, build es done fs = some ns := by
  induction es generalizing done fs with
  | nil =>
    cases fs with
    | nil => exact ⟨_, rfl⟩
    | cons f fs => cases h
  | cons e rest ih =>
    cases e with
    | leaf c l cs => exact ih h
    | opening c l => exact ih h
    | closing c =>
      cases fs with
      | nil => cases h
      | cons f fs => exact ih h

theorem exists_toNodes? (h : level? es 0 = some 0) : ∃ ns, toNodes? es = some ns :=
  exists_build h

theorem level?_set_leaf (hx : es[i]? = some x) (hleaf : x.isLeaf = true) (he : e.isLeaf = true) :
    level? (es.set i e) n = level? es n := by
  induction es generalizing i n with
  | nil => cases hx
  | cons y rest ih =>
    cases i with
    | zero =>
      obtain rfl := Option.some.inj hx
      rw [List.set_cons_zero, level?_cons_leaf he, level?_cons_leaf hleaf]
    | succ i => exact level?_cons_congr fun n => ih hx

/-- Closing something leads one level down. -/
theorem level?_set_closing (hx : es[j]? = some x) (hleaf : x.isLeaf = true) (h : level? es n = some m) :
    level? (es.set j (.closing c)) (n + 1) = some m := by
  induction es generalizing j n with
  | nil => cases hx
  | cons y rest ih =>
    cases j with
    | zero =>
      obtain rfl := Option.some.inj hx
      rwa [level?_cons_leaf hleaf] at h
    | succ j =>
      cases y with
      | leaf | opening => exact ih hx h
      | closing =>
        cases n with
        | zero => cases h
        | succ n => exact ih hx h

/-- A construct may be put around a part of some events. -/
theorem level?_set_pair {y : Event} (hij : i < j) (hx : es[i]? = some x) (hleaf : x.isLeaf = true)
    (hy : es[j]? = some y) (hleaf' : y.isLeaf = true) (h : level? es n = some m) :
    level? ((es.set i (.opening c l)).set j (.closing c)) n = some m := by
  induction es generalizing i j n with
  | nil => cases hx
  | cons z rest ih =>
    obtain ⟨j, rfl⟩ := Nat.exists_eq_add_one_of_ne_zero (Nat.ne_zero_of_lt hij)
    cases i with
    | zero =>
      obtain rfl := Option.some.inj hx
      rw [level?_cons_leaf hleaf] at h
      exact level?_set_closing hy hleaf' h
    | succ i =>
      have hlt := Nat.lt_of_succ_lt_succ hij
      cases z with
      | leaf | opening => exact ih hlt hx hy h
      | closing =>
        cases n with
        | zero => cases h
        | succ n => exact ih hlt hx hy h

/-- Something that stands in front of closings may stand behind them. -/
theorem level?_closings (hleaf : x.isLeaf = true) (h : ∀ k ≤ j, es[k]? = some (.closing c)) :
    level? (.closing c :: es.set j x) n = level? es n := by
  induction j generalizing es n with
  | zero =>
    obtain ⟨rest, rfl⟩ : ∃ rest, es = .closing c :: rest := by
      cases es with
      | nil => cases h 0 (Nat.le_refl 0)
      | cons e rest => exact ⟨rest, congrArg (· :: rest) (Option.some.inj (h 0 (Nat.le_refl 0)))⟩
    cases n with
    | zero => rfl
    | succ n => exact level?_cons_leaf hleaf
  | succ j ih =>
    obtain ⟨rest, rfl⟩ : ∃ rest, es = .closing c :: rest := by
      cases es with
      | nil => cases h 0 (Nat.zero_le _)
      | cons e rest => exact ⟨rest, congrArg (· :: rest) (Option.some.inj (h 0 (Nat.zero_le _)))⟩
    cases n with
    | zero => rfl
    | succ n => exact ih fun k hk => h (k + 1) (Nat.succ_le_succ hk)

theorem level?_set_move (hij : i < j) (hx : es[i]? = some x) (hleaf : x.isLeaf = true)
    (h : ∀ k, i < k → k ≤ j → es[k]? = some (.closing c)) :
    level? ((es.set i (.closing c)).set j x) n = level? es n := by
  induction es generalizing i j n with
  | nil => cases hx
  | cons z rest ih =>
    obtain ⟨j, rfl⟩ := Nat.exists_eq_add_one_of_ne_zero (Nat.ne_zero_of_lt hij)
    cases i with
    | zero =>
      obtain rfl := Option.some.inj hx
      rw [level?_cons_leaf hleaf]
      exact level?_closings hleaf fun k hk => h (k + 1) (Nat.succ_pos k) (Nat.succ_le_succ hk)
    | succ i =>
      exact level?_cons_congr fun n => ih (Nat.lt_of_succ_lt_succ hij) hx fun k hk hkj =>
        h (k + 1) (Nat.succ_lt_succ hk) (Nat.succ_le_succ hkj)

end Event

namespace Inline

open Event (level?)

theorem level?_joinTexts (es : List Event) (n : Nat) : level? (joinTexts es) n = level? es n := by
  induction es generalizing n with
  | nil => rfl
  | cons e rest ih =>
    rw [joinTexts]
    cases hj : joinTexts rest with
    | nil => exact Event.level?_cons_congr fun n => by rw [← ih, hj]
    | cons f fs =>
      have hrest (n : Nat) : level? (f :: fs) n = level? rest n := by rw [← ih, hj]
      dsimp only
      split
      · rename_i a b ha hb
        rw [Event.level?_cons_leaf (Event.isLeaf_of_text? ha), ← hrest,
          Event.level?_cons_leaf (Event.isLeaf_of_text? hb)]
        rfl
      · exact Event.level?_cons_congr hrest

theorem level?_joinSpecials (es : List Event) (n : Nat) : level? (joinSpecials es) n = level? es n := by
  rw [joinSpecials, level?_joinTexts]
  induction es generalizing n with
  | nil => rfl
  | cons e rest ih =>
    rw [List.map_cons]
    split
    · exact ih n
    · exact Event.level?_cons_congr ih

/-! ### Marks that are still texts -/

/-- A mark that is still the text that has been read. -/
def Live (es : Array Event) (k : Nat) : Prop :=
  ∃ e s, es[k]? = some e ∧ e.text? = some s ∧ s ≠ "~"

/-- Events lead to some depth, and at some indices there are marks that are still texts. -/
structure Awaits (n : Nat) (L : Nat → Prop) (es : Array Event) : Prop where
  level : level? es.toList 0 = some n
  live {k : Nat} (hk : L k) : Live es k

/-- A single tilde, or an event that closes struck text. -/
def Movable (es : Array Event) (i : Nat) : Prop :=
  ∃ e ∈ es[i]?, e.text? = some "~" ∨ e = .closing .strikethrough

variable {es es' : Array Event} {L L' : Nat → Prop} {n i j k : Nat}

theorem getElem?_markPair (c : Construct) (hi : k ≠ i) (hj : k ≠ j) :
    (markPair es c i j)[k]? = es[k]? := by
  rw [markPair, Array.getElem?_setIfInBounds_ne hj.symm, Array.getElem?_setIfInBounds_ne hi.symm]

namespace Awaits

theorem mono (h : Awaits n L es) (hL : ∀ k, L' k → L k) : Awaits n L' es :=
  ⟨h.level, fun hk => h.live (hL _ hk)⟩

theorem of_eq (h : Awaits n L es) (hlevel : level? es'.toList 0 = some n)
    (heq : ∀ k, k ≠ i → k ≠ j → es'[k]? = es[k]?) : Awaits n (fun k => L k ∧ k ≠ i ∧ k ≠ j) es' := by
  refine ⟨hlevel, fun {k} hk => ?_⟩
  obtain ⟨hk, hi, hj⟩ := hk
  rw [Live, heq k hi hj]
  exact h.live hk

/-- Two marks become the ends of a construct. -/
theorem markPair (h : Awaits n L es) (c : Construct) (hij : i < j) (hi : L i) (hj : L j) :
    Awaits n (fun k => L k ∧ k ≠ i ∧ k ≠ j) (markPair es c i j) := by
  obtain ⟨e, s, he, hs, -⟩ := h.live hi
  obtain ⟨e', s', he', hs', -⟩ := h.live hj
  refine h.of_eq ?_ fun k => getElem?_markPair c
  rw [Inline.markPair, Array.toList_setIfInBounds, Array.toList_setIfInBounds]
  exact Event.level?_set_pair hij (Array.getElem?_toList ▸ he) (Event.isLeaf_of_text? hs)
    (Array.getElem?_toList ▸ he') (Event.isLeaf_of_text? hs') h.level

/-- Two marks become empty. -/
theorem setTexts (h : Awaits n L es) (hne : i ≠ j) (hi : L i) (hj : L j) (s s' : String) :
    Awaits n (fun k => L k ∧ k ≠ i ∧ k ≠ j)
      ((es.setIfInBounds i (.text s)).setIfInBounds j (.text s')) := by
  obtain ⟨x, t, hx, ht, -⟩ := h.live hi
  obtain ⟨x', t', hx', ht', -⟩ := h.live hj
  refine h.of_eq ?_ fun k hki hkj => ?_
  · rw [Array.toList_setIfInBounds, Array.toList_setIfInBounds,
      Event.level?_set_leaf (x := x') ?_ (Event.isLeaf_of_text? ht') rfl,
      Event.level?_set_leaf (Array.getElem?_toList ▸ hx) (Event.isLeaf_of_text? ht) rfl]
    · exact h.level
    · rw [List.getElem?_set_ne hne, Array.getElem?_toList]
      exact hx'
  · rw [Array.getElem?_setIfInBounds_ne hkj.symm, Array.getElem?_setIfInBounds_ne hki.symm]

end Awaits

/-! ### Single tildes -/

/-- All events up to the end of a run of closings close the construct. -/
theorem closingsEnd_spec (es : Array Event) (c : Construct) (fuel i : Nat) :
    i ≤ closingsEnd es c fuel i ∧
      ∀ k, i ≤ k → k < closingsEnd es c fuel i → es[k]? = some (.closing c) := by
  have hnone (i : Nat) : i ≤ i ∧ ∀ k, i ≤ k → k < i → es[k]? = some (.closing c) :=
    ⟨Nat.le_refl i, fun k hi hk => absurd hk (Nat.not_lt_of_le hi)⟩
  induction fuel generalizing i with
  | zero => exact hnone i
  | succ fuel ih =>
    unfold closingsEnd
    split
    · rename_i e he
      split
      · rename_i hcloses
        obtain ⟨hle, hall⟩ := ih (i + 1)
        refine ⟨Nat.le_of_succ_le hle, fun k hi hk => ?_⟩
        rcases Nat.eq_or_lt_of_le hi with rfl | hlt
        · cases e with
          | closing d => rw [he, beq_iff_eq.1 hcloses]
          | opening | leaf => cases hcloses
        · exact hall k hlt hk
      · exact hnone i
    · exact hnone i

theorem set_eq_self {e : Event} (h : es[i]? = some e) : es.setIfInBounds i e = es := by
  obtain ⟨hlt, rfl⟩ := Array.getElem?_eq_some_iff.1 h
  rw [Array.setIfInBounds_def, dif_pos hlt, Array.set_getElem_self]

/-- The event at an index changes places with one that closes struck text, behind all of those that follow it;
if none follows, nothing changes. -/
theorem moveBehind_cases (es : Array Event) (i : Nat) : moveBehind es i = es ∨
    ∃ j a, i < j ∧ es[i]? = some a ∧ (∀ k, i < k → k ≤ j → es[k]? = some (.closing .strikethrough)) ∧
      moveBehind es i = (es.setIfInBounds i (.closing .strikethrough)).setIfInBounds j a := by
  obtain ⟨hle, hall⟩ := closingsEnd_spec es .strikethrough (es.size - i) (i + 1)
  simp only [moveBehind]
  generalize closingsEnd es .strikethrough (es.size - i) (i + 1) = stop at hle hall ⊢
  obtain ⟨j, rfl⟩ := Nat.exists_eq_add_one_of_ne_zero (Nat.ne_zero_of_lt hle)
  rw [Nat.add_sub_cancel]
  split
  · rename_i a b ha hb
    rcases Nat.eq_or_lt_of_le (Nat.le_of_succ_le_succ hle) with rfl | hlt
    · obtain rfl := Option.some.inj (ha.symm.trans hb)
      exact .inl (by rw [set_eq_self ha, set_eq_self ha])
    · obtain rfl := Option.some.inj (hb.symm.trans (hall j hlt (Nat.lt_succ_self j)))
      exact .inr ⟨j, a, hlt, ha, fun k hk hkj => hall k hk (Nat.lt_succ_of_le hkj), rfl⟩
  · exact .inl rfl

theorem Movable.moveBehind (hk : Movable es k) (hi : Movable es i) : Movable (moveBehind es i) k := by
  rcases moveBehind_cases es i with heq | ⟨j, a, hij, ha, hall, heq⟩
  · rwa [heq]
  · rw [heq, Movable]
    obtain ⟨x, hx, hmovable⟩ := hi
    obtain rfl := Option.some.inj (ha.symm.trans hx)
    have hjsize : j < es.size := (Array.getElem?_eq_some_iff.1 (hall j hij (Nat.le_refl j))).1
    by_cases hj : j = k
    · subst hj
      rw [Array.getElem?_setIfInBounds_self, Array.size_setIfInBounds, if_pos hjsize]
      exact ⟨a, rfl, hmovable⟩
    · rw [Array.getElem?_setIfInBounds_ne hj]
      by_cases hik : i = k
      · subst hik
        rw [Array.getElem?_setIfInBounds_self, if_pos (Nat.lt_trans hij hjsize)]
        exact ⟨_, rfl, .inr rfl⟩
      · rw [Array.getElem?_setIfInBounds_ne hik]
        exact hk

theorem Awaits.moveBehind (h : Awaits n L es) (hi : Movable es i) : Awaits n L (moveBehind es i) := by
  rcases moveBehind_cases es i with heq | ⟨j, a, hij, ha, hall, heq⟩
  · rwa [heq]
  · obtain ⟨x, hx, hmovable⟩ := hi
    obtain rfl := Option.some.inj (ha.symm.trans hx)
    rcases hmovable with htext | rfl
    · rw [heq]
      refine ⟨?_, fun {k} hk => ?_⟩
      · rw [Array.toList_setIfInBounds, Array.toList_setIfInBounds, Event.level?_set_move hij
          (Array.getElem?_toList ▸ ha) (Event.isLeaf_of_text? htext)
          fun k hk hkj => Array.getElem?_toList ▸ hall k hk hkj]
        exact h.level
      · obtain ⟨e, s, he, hs, hne⟩ := h.live hk
        have hki : i ≠ k := by
          rintro rfl
          obtain rfl := Option.some.inj (he.symm.trans ha)
          exact hne (Option.some.inj (hs.symm.trans htext))
        have hkj : j ≠ k := by
          rintro rfl
          obtain rfl := Option.some.inj (he.symm.trans (hall _ hij (Nat.le_refl _)))
          cases hs
        refine ⟨e, s, ?_, hs, hne⟩
        rw [Array.getElem?_setIfInBounds_ne hkj, Array.getElem?_setIfInBounds_ne hki, he]
    · rw [heq, set_eq_self ha, set_eq_self (hall j hij (Nat.le_refl j))]
      exact h

/-! ### Groups of marks -/

/-- Delimiters at two indices, the first of which opens what the second one closes. -/
structure Pair (ds : Array Delimiter) (i j : Nat) (d d' : Delimiter) : Prop where
  opener : ds[i]? = some d
  partner : d.partner = some j
  closer : ds[j]? = some d'

/-- Marks in the order in which they stand among the events, with those that belong together. -/
structure Arranged (ds : Array Delimiter) : Prop where
  paired : Paired ds
  ascending {i j : Nat} {d d' : Delimiter} (hd : ds[i]? = some d) (hd' : ds[j]? = some d') (hij : i < j) :
    d.event < d'.event

/-- At an index there is a mark of some kind that belongs together with another one, and the opener of both
satisfies a condition. -/
def Used (M : Char → Prop) (ds : Array Delimiter) (Q : Nat → Prop) (k : Nat) : Prop :=
  ∃ i j d d', Pair ds i j d d' ∧ M d.marker ∧ Q i ∧ (k = d.event ∨ k = d'.event)

variable {M : Char → Prop} {ds : Array Delimiter} {Q R : Nat → Prop} {d d' : Delimiter}

theorem Used.mono (h : Used M ds Q k) (hQ : ∀ i, Q i → R i) : Used M ds R k := by
  obtain ⟨i, j, d, d', hpair, hM, hi, hk⟩ := h
  exact ⟨i, j, d, d', hpair, hM, hQ i hi, hk⟩

theorem Arranged.index_eq (h : Arranged ds) (hd : ds[i]? = some d) (hd' : ds[j]? = some d')
    (heq : d.event = d'.event) : i = j := by
  rcases Nat.lt_trichotomy i j with hij | hij | hij
  · exact absurd heq (Nat.ne_of_lt (h.ascending hd hd' hij))
  · exact hij
  · exact absurd heq.symm (Nat.ne_of_lt (h.ascending hd' hd hij))

namespace Pair

variable (hds : Arranged ds) (hpair : Pair ds i j d d')

include hds hpair

theorem event_lt : d.event < d'.event :=
  hds.ascending hpair.opener hpair.closer (hds.paired.closer hpair.opener hpair.partner).1

theorem partner_closer : d'.partner = none ∧ d'.marker = d.marker := by
  obtain ⟨-, x, hx, hclosed⟩ := hds.paired.closer hpair.opener hpair.partner
  obtain rfl := Option.some.inj (hx.symm.trans hpair.closer)
  exact hclosed

/-- Each mark belongs to one other at most. -/
theorem not_used (hi : ¬ Q i) : ¬ Used M ds Q d.event ∧ ¬ Used M ds Q d'.event := by
  -- an opener has a partner, a closer has none
  have hopens {x x' : Delimiter} {k : Nat} (hx : x = x') (hpartner : x.partner = some k) :
      x'.partner ≠ none := by
    rw [← hx, hpartner]
    exact Option.some_ne_none k
  have hnone := (hpair.partner_closer hds).1
  constructor
  · rintro ⟨i', j', e, e', hpair', -, hi', heq | heq⟩
    · exact hi (hds.index_eq hpair.opener hpair'.opener heq ▸ hi')
    · have hindex := hds.index_eq hpair.opener hpair'.closer heq
      have hmark := Option.some.inj (hpair.opener.symm.trans (hindex ▸ hpair'.closer))
      exact hopens hmark hpair.partner (hpair'.partner_closer hds).1
  · rintro ⟨i', j', e, e', hpair', -, hi', heq | heq⟩
    · have hindex := hds.index_eq hpair.closer hpair'.opener heq
      have hmark := Option.some.inj (hpair'.opener.symm.trans (hindex ▸ hpair.closer))
      exact hopens hmark hpair'.partner hnone
    · have hindex := hds.index_eq hpair.closer hpair'.closer heq
      exact hi (hds.paired.single hpair.opener hpair'.opener hpair.partner
        (hindex ▸ hpair'.partner) ▸ hi')

end Pair

namespace Awaits

theorem mono_used (h : Awaits n (fun k => L k ∧ ¬ Used M ds Q k) es) (hQ : ∀ a, Q a → R a) :
    Awaits n (fun k => L k ∧ ¬ Used M ds R k) es :=
  h.mono fun _ hk => ⟨hk.1, fun hused => hk.2 (hused.mono hQ)⟩

/-- Whatever has become of two marks that belong together, all others remain. -/
theorem use (hpair : Pair ds i j d d') (hM : M d.marker) (hQ : ∀ a, Q a → R a) (hi : R i)
    (h : Awaits n (fun k => (L k ∧ ¬ Used M ds Q k) ∧ k ≠ d.event ∧ k ≠ d'.event) es) :
    Awaits n (fun k => L k ∧ ¬ Used M ds R k) es := by
  refine h.mono fun k hk => ⟨⟨hk.1, fun hused => hk.2 (hused.mono hQ)⟩, ?_, ?_⟩
  · rintro rfl
    exact hk.2 ⟨i, j, d, d', hpair, hM, hi, .inl rfl⟩
  · rintro rfl
    exact hk.2 ⟨i, j, d, d', hpair, hM, hi, .inr rfl⟩

section

variable (hds : Arranged ds) (hL : ∀ d ∈ ds, M d.marker → L d.event) (hpair : Pair ds i j d d')
  (hM : M d.marker) (hi : ¬ Q i)

include hds hL hpair hM hi

theorem unused : (L d.event ∧ ¬ Used M ds Q d.event) ∧ L d'.event ∧ ¬ Used M ds Q d'.event := by
  obtain ⟨hopener, hcloser⟩ := hpair.not_used hds (M := M) hi
  refine ⟨⟨hL d (Array.mem_of_getElem? hpair.opener) hM, hopener⟩, ?_, hcloser⟩
  exact hL d' (Array.mem_of_getElem? hpair.closer) ((hpair.partner_closer hds).2 ▸ hM)

variable (h : Awaits n (fun k => L k ∧ ¬ Used M ds Q k) es) (hQ : ∀ a, Q a → R a) (hi' : R i)

include h hQ hi'

theorem markPair_use (c : Construct) :
    Awaits n (fun k => L k ∧ ¬ Used M ds R k) (Inline.markPair es c d.event d'.event) := by
  obtain ⟨hopener, hcloser⟩ := unused hds hL hpair hM hi
  exact (h.markPair c (hpair.event_lt hds) hopener hcloser).use hpair hM hQ hi'

theorem setTexts_use (s s' : String) : Awaits n (fun k => L k ∧ ¬ Used M ds R k)
    ((es.setIfInBounds d.event (.text s)).setIfInBounds d'.event (.text s')) := by
  obtain ⟨hopener, hcloser⟩ := unused hds hL hpair hM hi
  exact (h.setTexts (Nat.ne_of_lt (hpair.event_lt hds)) hopener hcloser s s').use hpair hM hQ hi'

end

/-- All marks that have been used are marks of the group. -/
theorem of_used (hds : Arranged ds) (h : Awaits n (fun k => L k ∧ ¬ Used M ds Q k) es) :
    Awaits n (fun k => L k ∧ ∀ d ∈ ds, M d.marker → d.event ≠ k) es := by
  refine h.mono fun k hk => ⟨hk.1, ?_⟩
  rintro ⟨i, j, d, d', hpair, hM, -, rfl | rfl⟩
  · exact hk.2 d (Array.mem_of_getElem? hpair.opener) hM rfl
  · exact hk.2 d' (Array.mem_of_getElem? hpair.closer) ((hpair.partner_closer hds).2 ▸ hM) rfl

end Awaits

/-- Turns marks of some kind into other events. Wherever they are still texts, the events go on to nest, and all
other marks remain. -/
def Turns (M : Char → Prop) (turn : Array Delimiter → Array Event → Array Event) : Prop :=
  ∀ ⦃ds : Array Delimiter⦄ ⦃es : Array Event⦄ ⦃n : Nat⦄ ⦃L : Nat → Prop⦄, Arranged ds →
    (∀ d ∈ ds, M d.marker → L d.event) → Awaits n L es →
    Awaits n (fun k => L k ∧ ∀ d ∈ ds, M d.marker → d.event ≠ k) (turn ds es)

theorem Movable.markPair (hk : Movable es k) (c : Construct) (hi : Live es i) (hj : Live es j) :
    Movable (markPair es c i j) k := by
  obtain ⟨e, he, hmovable⟩ := hk
  have hne {i : Nat} (hi : Live es i) : k ≠ i := by
    rintro rfl
    obtain ⟨x, s, hx, hs, hne⟩ := hi
    obtain rfl := Option.some.inj (hx.symm.trans he)
    rcases hmovable with htext | rfl
    · exact hne (Option.some.inj (hs.symm.trans htext))
    · cases hs
  rw [Movable, getElem?_markPair c (hne hi) (hne hj)]
  exact ⟨e, he, hmovable⟩

theorem turns_strike : Turns (· = '~') strike := by
  intro ds es n L hds hL h
  simp only [strike]
  generalize hpaired : ds.foldl _ (es, []) = paired
  have hkept : Awaits n (fun k => L k ∧ ¬ Used (· = '~') ds (· < ds.size) k) paired.1 ∧
      ∀ i ∈ paired.2, Movable paired.1 i := by
    rw [← hpaired]
    -- single tildes stay what they are, because a mark is never one of them
    refine Array.foldl_induction (fun (i : Nat) (p : Array Event × List Nat) =>
      Awaits n (fun k => L k ∧ ¬ Used (· = '~') ds (· < i) k) p.1 ∧ ∀ i ∈ p.2, Movable p.1 i)
      ⟨h.mono fun k hk => hk.1, List.forall_mem_nil _⟩ ?_
    rintro i ⟨es', lone⟩ ⟨hes', hlone⟩
    have hd : ds[i.1]? = some ds[i] := Array.getElem?_eq_getElem i.2
    have hlater (a : Nat) (ha : a < i.1) : a < i.1 + 1 := Nat.lt_succ_of_lt ha
    generalize ds[i] = d at hd ⊢
    dsimp only
    split
    · rename_i closer hmarker hcloser
      obtain ⟨j, hpartner, hj⟩ := Option.bind_eq_some_iff.1 hcloser
      have hpair : Pair ds i j d closer := ⟨hd, hpartner, hj⟩
      have hM := beq_iff_eq.1 hmarker
      have hfresh : ¬ i.1 < i.1 := Nat.lt_irrefl _
      have hnext := Awaits.markPair_use (M := (· = '~')) (Q := (· < i.1)) hds hL hpair hM hfresh hes'
        hlater (Nat.lt_succ_self _) .strikethrough
      obtain ⟨hopener, hclosing⟩ := Awaits.unused (M := (· = '~')) (Q := (· < i.1)) hds hL hpair hM
        hfresh
      have hlone' : ∀ k ∈ lone, Movable (markPair es' .strikethrough d.event closer.event) k :=
        fun k hk => (hlone k hk).markPair _ (hes'.live hopener) (hes'.live hclosing)
      split
      · rename_i e he
        split
        · rename_i htext
          exact ⟨hnext, List.forall_mem_cons.2 ⟨⟨e, he, .inl (beq_iff_eq.1 htext)⟩, hlone'⟩⟩
        · exact ⟨hnext, hlone'⟩
      · exact ⟨hnext, hlone'⟩
    · exact ⟨hes'.mono_used hlater, hlone⟩
  refine (List.foldlRecOn (motive := fun es => Awaits n _ es ∧ ∀ i ∈ paired.2, Movable es i)
    paired.2 moveBehind hkept fun es' h i hi => ?_).1.of_used hds
  exact ⟨h.1.moveBehind (h.2 i hi), fun k hk => (h.2 k hk).moveBehind (h.2 i hi)⟩

/-- A mark that opens strong emphasis together with the one before it: both stand side by side, and so do
those that close it. -/
theorem isStrong_cases (h : isStrong ds i d j = true) (hj : ds[j]? = some d') :
    ∃ a before after, a + 1 = i ∧ Pair ds a (j + 1) before after ∧ before.marker = d.marker ∧
      before.event = d.event - 1 ∧ after.event = d'.event + 1 := by
  unfold isStrong at h
  split at h
  · rename_i before closer after hbefore hcloser hafter
    obtain rfl := Option.some.inj (hj.symm.trans hcloser)
    simp only [Bool.and_eq_true, beq_iff_eq] at h
    obtain ⟨⟨⟨hpartner, hmarker⟩, hprevious⟩, hnext⟩ := h
    split at hbefore
    · cases hbefore
    · rename_i hi
      refine ⟨i - 1, before, after, Nat.succ_pred_eq_of_ne_zero fun h => hi (beq_iff_eq.2 h),
        ⟨hbefore, hpartner, hafter⟩, hmarker, ?_, hnext⟩
      rw [← hprevious, Nat.add_sub_cancel]
  · cases h

/-- The delimiters from an index on have been dealt with, and with `merged` the one before them as well. -/
theorem awaits_emphasizeBelow (hds : Arranged ds) (hL : ∀ d ∈ ds, d.marker ≠ '~' → L d.event)
    (merged : Bool) (h : Awaits n (fun k => L k ∧
      ¬ Used (· ≠ '~') ds (fun a => i ≤ a ∨ merged = true ∧ a + 1 = i) k) es) :
    Awaits n (fun k => L k ∧ ∀ d ∈ ds, d.marker ≠ '~' → d.event ≠ k) (emphasizeBelow ds i merged es) := by
  induction i generalizing merged es with
  | zero => exact h.of_used hds
  | succ i ih =>
    have hbelow (a : Nat) (ha : i + 1 ≤ a ∨ merged = true ∧ a + 1 = i + 1) : i ≤ a := by omega
    have hskip := ih false (h.mono_used fun a ha => .inl (hbelow a ha))
    cases merged with
    | true => exact hskip
    | false => ?_
    unfold emphasizeBelow
    split
    · rename_i d _ hd
      split
      · rename_i partner hmarker hpartner
        split
        · exact hskip
        · rename_i closer hcloser
          have hpair : Pair ds i partner d closer := ⟨hd, hpartner, hcloser⟩
          have hM : d.marker ≠ '~' := by
            intro heq
            rw [heq] at hmarker
            cases hmarker
          have hmark := Awaits.markPair_use (R := (i ≤ ·)) hds hL hpair hM (by simp) h hbelow
            (Nat.le_refl i)
          dsimp only
          split
          · rename_i hstrong
            obtain ⟨a, before, after, ha, hpair', hmarker', hbefore, hafter⟩ := isStrong_cases hstrong hcloser
            rw [← hbefore, ← hafter]
            exact ih true (Awaits.setTexts_use hds hL hpair' (hmarker' ▸ hM) (by omega)
              (hmark .strong) (fun b hb => .inl hb) (.inr ⟨rfl, ha⟩) "" "")
          · exact ih false ((hmark .emphasis).mono_used fun a ha => .inl ha)
      · exact hskip
    · exact hskip

theorem turns_emphasize : Turns (· ≠ '~') emphasize := by
  intro ds es n L hds hL h
  exact awaits_emphasizeBelow hds hL false (h.mono fun k hk => hk.1)

/-! ### Several groups -/

/-- No mark of one group stands where one of another group stands. -/
def Apart (ds ds' : Array Delimiter) : Prop :=
  ∀ d ∈ ds, ∀ d' ∈ ds', d.event ≠ d'.event

/-- Groups of marks are turned one after the other. -/
theorem Turns.foldl {turn : Array Delimiter → Array Event → Array Event} (hturn : Turns M turn)
    {groups : List (Array Delimiter)} (hgroups : ∀ ds ∈ groups, Arranged ds)
    (hapart : groups.Pairwise Apart) (hL : ∀ ds ∈ groups, ∀ d ∈ ds, M d.marker → L d.event)
    (h : Awaits n L es) :
    Awaits n (fun k => L k ∧ ∀ ds ∈ groups, ∀ d ∈ ds, M d.marker → d.event ≠ k)
      (groups.foldl (fun es ds => turn ds es) es) := by
  induction groups generalizing es L with
  | nil => exact h.mono fun k hk => hk.1
  | cons ds rest ih =>
    obtain ⟨hds, hrest⟩ := List.forall_mem_cons.1 hgroups
    obtain ⟨hL, hLrest⟩ := List.forall_mem_cons.1 hL
    obtain ⟨hfirst, hapart⟩ := List.pairwise_cons.1 hapart
    have hturned := ih hrest hapart (fun ds' hds' d hd hM =>
      ⟨hLrest ds' hds' d hd hM, fun d' hd' _ => hfirst ds' hds' d' hd' d hd⟩) (hturn hds hL h)
    refine hturned.mono fun k hk => ?_
    obtain ⟨hds, hrest⟩ := List.forall_mem_cons.1 hk.2
    exact ⟨⟨hk.1, hds⟩, hrest⟩

end Inline

end ProposalCheck.Markup
