import ProposalCheck.Proofs.Steps

/-!
# What reading a text gives

A text is read item by item into events; then marks of emphasis are paired up, and bare addresses
become links. A condition on events that holds of whatever these steps put in (`Event.Kept`,
`Inline.Given`) holds of all events of a text, and so does a condition on the texts of the footnotes
that are written in it (`Inline.Given.readText`).
-/

namespace ProposalCheck.Markup

/-- Whether a construct stands around a part of a text. -/
def Construct.isSpan : Construct → Bool
  | emphasis | strong | strikethrough | link _ _ => true
  | _ => false

/-- Whether a construct stands in a text by itself. -/
def Construct.isAtom : Construct → Bool
  | text _ | softBreak | hardBreak | code _ | html _ | footnoteRef _ => true
  | _ => false

/-- A condition on events that holds of texts and of the ends of what stands around parts of a text. -/
structure Event.Kept (E : Event → Prop) : Prop where
  text (s : String) : E (.text s)
  opening {c : Construct} (hc : c.isSpan = true) : E (.opening c none)
  closing (c : Construct) : E (.closing c)

/-! ### Emphasis and bare addresses -/

namespace Inline

open Event (Kept)

variable {E : Event → Prop}

theorem kept_joinTexts (hE : Kept E) {es : List Event} (h : ∀ e ∈ es, E e) :
    ∀ e ∈ joinTexts es, E e := by
  induction es with
  | nil => exact h
  | cons e rest ih =>
    obtain ⟨he, hrest⟩ := List.forall_mem_cons.1 h
    have hjoined := ih hrest
    rw [joinTexts]
    cases hj : joinTexts rest with
    | nil => exact List.forall_mem_singleton.2 he
    | cons f fs =>
      rw [hj] at hjoined
      dsimp only
      split
      · exact List.forall_mem_cons.2 ⟨hE.text _, (List.forall_mem_cons.1 hjoined).2⟩
      · exact List.forall_mem_cons.2 ⟨he, hjoined⟩

theorem kept_set {es : Array Event} {e : Event} (i : Nat) (h : ∀ x ∈ es, E x) (he : E e) :
    ∀ x ∈ es.setIfInBounds i e, E x := by
  intro x hx
  rcases Array.mem_or_eq_of_mem_setIfInBounds hx with hx | rfl
  · exact h x hx
  · exact he

theorem kept_markPair (hE : Kept E) {es : Array Event} {c : Construct} (hc : c.isSpan = true)
    (opener closer : Nat) (h : ∀ e ∈ es, E e) : ∀ e ∈ markPair es c opener closer, E e :=
  kept_set closer (kept_set opener h (hE.opening hc)) (hE.closing c)

theorem kept_moveBehind {es : Array Event} (i : Nat) (h : ∀ e ∈ es, E e) :
    ∀ e ∈ moveBehind es i, E e := by
  simp only [moveBehind]
  split
  · rename_i a b ha hb
    have hb' := kept_set (e := b) i h (h b (Array.mem_of_getElem? hb))
    exact kept_set _ hb' (h a (Array.mem_of_getElem? ha))
  · exact h

theorem kept_foldl {α : Type} {f : Array Event → α → Array Event}
    (hf : ∀ es a, (∀ e ∈ es, E e) → ∀ e ∈ f es a, E e) (as : List α)
    {es : Array Event} (h : ∀ e ∈ es, E e) : ∀ e ∈ as.foldl f es, E e :=
  List.foldlRecOn (motive := fun es => ∀ e ∈ es, E e) as f h fun es hes a _ => hf es a hes

theorem kept_strike (hE : Kept E) (ds : Array Delimiter) {es : Array Event} (h : ∀ e ∈ es, E e) :
    ∀ e ∈ strike ds es, E e := by
  simp only [strike, ← Array.foldl_toList]
  refine kept_foldl (fun es i => kept_moveBehind i) _ ?_
  refine List.foldlRecOn (motive := fun p : Array Event × List Nat => ∀ e ∈ p.1, E e) _ _ h ?_
  rintro ⟨es, lone⟩ hes d -
  dsimp only
  split
  · rename_i closer _ _
    have hpair := kept_markPair hE (c := .strikethrough) rfl d.event closer.event hes
    split
    · split
      · exact hpair
      · exact hpair
    · exact hpair
  · exact hes

theorem kept_emphasizeBelow (hE : Kept E) (ds : Array Delimiter) (i : Nat) (merged : Bool)
    {es : Array Event} (h : ∀ e ∈ es, E e) : ∀ e ∈ emphasizeBelow ds i merged es, E e := by
  induction i generalizing merged es with
  | zero => exact h
  | succ i ih =>
    unfold emphasizeBelow
    split
    · split
      · split
        · exact ih false h
        · dsimp only
          split
          · refine ih true (kept_set _ (kept_set _ (kept_markPair hE rfl _ _ h) ?_) ?_)
            · exact hE.text _
            · exact hE.text _
          · exact ih false (kept_markPair hE rfl _ _ h)
      · exact ih false h
    · exact ih false h

section

-- whether a target is allowed is nothing to compute while the equation is checked
attribute [local irreducible] allowedTarget?

theorem linkAddresses_cons (text : Array Char) (p : Nat) (f : Autolink.Found)
    (rest : List Autolink.Found) :
    linkAddresses text p (f :: rest) =
      match allowedTarget? (addressTarget (slice text f.start f.stop) f) with
      | none => linkAddresses text p rest
      | some target =>
        (if p < f.start then [.text (String.ofList (slice text p f.start))] else [])
          ++ [.opening (.link (String.ofList target) none) none,
            .text (String.ofList (shownAddress (slice text f.start f.stop) f)),
            .closing (.link (String.ofList target) none)]
          ++ linkAddresses text f.stop rest := rfl

end

theorem kept_linkAddresses (hE : Kept E) (text : Array Char) (p : Nat)
    (found : List Autolink.Found) : ∀ e ∈ linkAddresses text p found, E e := by
  induction found generalizing p with
  | nil =>
    change ∀ e ∈ if p < text.size then [Event.text _] else [], E e
    split
    · exact List.forall_mem_singleton.2 (hE.text _)
    · exact List.forall_mem_nil _
  | cons f rest ih =>
    rw [linkAddresses_cons]
    cases allowedTarget? (addressTarget (slice text f.start f.stop) f) with
    | none => exact ih p
    | some target =>
      refine List.forall_mem_append.2 ⟨List.forall_mem_append.2 ⟨?_, ?_⟩, ih f.stop⟩
      · split
        · exact List.forall_mem_singleton.2 (hE.text _)
        · exact List.forall_mem_nil _
      · exact List.forall_mem_cons.2 ⟨hE.opening rfl,
          List.forall_mem_cons.2 ⟨hE.text _, List.forall_mem_singleton.2 (hE.closing _)⟩⟩

theorem kept_replaceText (hE : Kept E) (before : Option Event) {e : Event} (h : E e) :
    ∀ x ∈ replaceText before e, E x := by
  unfold replaceText
  split
  · exact List.forall_mem_singleton.2 h
  · rename_i s _
    have hnew (found : List Autolink.Found) : ∀ x ∈ if found.isEmpty then [e] else
        linkAddresses s.toList.toArray 0 found, E x := by
      split
      · exact List.forall_mem_singleton.2 h
      · exact kept_linkAddresses hE _ _ _
    exact hnew _

theorem kept_replaceBelow (hE : Kept E) {es : Array Event} (ds : Array Nat) (i : Nat)
    (skipping : Option Nat) (html : Nat) {done : List Event} (hes : ∀ e ∈ es, E e)
    (h : ∀ e ∈ done, E e) : ∀ e ∈ replaceBelow es ds i skipping html done, E e := by
  induction i generalizing skipping html done with
  | zero => exact h
  | succ i ih =>
    unfold replaceBelow
    split
    · exact ih _ _ h
    · rename_i e he
      have hcons : ∀ x ∈ e :: done, E x :=
        List.forall_mem_cons.2 ⟨hes e (Array.mem_of_getElem? he), h⟩
      split
      · exact ih _ _ hcons
      · exact ih _ _ hcons
      · exact ih _ _ hcons
      · exact ih _ _ hcons
      · refine ih _ _ (List.forall_mem_append.2 ⟨?_, h⟩)
        split
        · exact kept_replaceText hE _ (hes e (Array.mem_of_getElem? he))
        · exact List.forall_mem_singleton.2 (hes e (Array.mem_of_getElem? he))

theorem kept_replaceAddresses (hE : Kept E) (content : String) {es : Array Event}
    (h : ∀ e ∈ es, E e) : ∀ e ∈ (replaceAddresses content es).toList, E e := by
  unfold replaceAddresses
  split
  · exact kept_replaceBelow hE _ _ _ _ h (List.forall_mem_nil _)
  · exact fun e he => h e (Array.mem_toList_iff.1 he)

/-- Where special characters become texts, the condition need not hold of them. -/
theorem kept_joinSpecials (hE : Kept E) {es : List Event}
    (h : ∀ e ∈ es, isSpecial e = false → E e) : ∀ e ∈ joinSpecials es, E e := by
  refine kept_joinTexts hE (List.forall_mem_map.2 fun e he => ?_)
  split
  · exact hE.text _
  · rename_i hspecial
    refine h e he ?_
    unfold isSpecial
    split
    · exact absurd rfl (hspecial _ _ _)
    · rfl

end Inline

/-! ### The inside of a text -/

/-- The text of a footnote that is written in its place satisfies a condition. -/
def Note.Holds (Q : Prose → Prop) : Note → Prop
  | .labelled _ _ => True
  | .written prose => Q prose

theorem Note.holds_true (note : Note) : note.Holds fun _ => True := by
  cases note <;> trivial

/-- The texts of the footnotes that are written in their places satisfy a condition. -/
def Notes.Hold (Q : Prose → Prop) (notes : Notes) : Prop :=
  ∀ note ∈ notes.list, note.Holds Q

namespace Notes

variable {Q : Prose → Prop} {notes : Notes}

theorem Hold.set {note : Note} (i : Nat) (h : notes.Hold Q) (hnote : note.Holds Q) :
    ∀ x ∈ notes.list.setIfInBounds i note, x.Holds Q := by
  intro x hx
  rcases Array.mem_or_eq_of_mem_setIfInBounds hx with hx | rfl
  · exact h x hx
  · exact hnote

theorem Hold.push {note : Note} (h : notes.Hold Q) (hnote : note.Holds Q) :
    ∀ x ∈ notes.list.push note, x.Holds Q := by
  intro x hx
  rcases Array.mem_push.1 hx with hx | rfl
  · exact h x hx
  · exact hnote

theorem Hold.refer (label : String) (h : notes.Hold Q) : (notes.refer label).Hold Q := by
  unfold Notes.refer
  split
  · exact h.push trivial
  · split
    · exact h.set _ trivial
    · exact h

theorem Hold.reserve (h : notes.Hold Q) : notes.reserve.Hold Q :=
  h.push trivial

theorem Hold.write {prose : Prose} (i : Nat) (h : notes.Hold Q) (hprose : Q prose) :
    (notes.write i prose).Hold Q :=
  h.set i hprose

theorem hold_ofLabels (labels : List String) : (ofLabels labels).Hold Q :=
  fun note hnote => by simp [ofLabels] at hnote

end Notes

namespace Inline

/-- Conditions on the events of texts and on the texts of footnotes that hold of what reading a text puts
in. What is inside an image, and the text of a footnote that is written in its place, have been read as
texts. -/
structure Given (references : List (String × Reference)) (E : Event → Prop) (Q : Prose → Prop) : Prop where
  kept : Event.Kept E
  atom {c : Construct} (hc : c.isAtom = true) : E (.leaf c none [])
  special (s : String) : E (.leaf (.special s) none [])
  image (alt : List Char) (target : String) (title : Option String) (notes : Notes)
    (halt : ∀ e ∈ (readText references alt notes).1, E e) :
    E (.leaf (.image target title (String.ofList alt)) none
      ((Event.toNodes? (joinSpecials (readText references alt notes).1.toList)).getD []))
  written (cs : List Char) (notes : Notes) (hcs : ∀ e ∈ (readText references cs notes).1, E e) :
    Q { content := String.ofList cs, events := (readText references cs notes).1 }

/-- The events of a state and the footnotes read so far satisfy conditions. -/
structure State.Holds (E : Event → Prop) (Q : Prose → Prop) (s : State) : Prop where
  events : ∀ e ∈ s.events, E e
  notes : s.notes.Hold Q

/-- Reading gives events and footnotes that satisfy conditions. -/
def HoldsOf (E : Event → Prop) (Q : Prose → Prop) (reading : Notes → Array Event × Notes) : Prop :=
  ∀ notes, notes.Hold Q → (∀ e ∈ (reading notes).1, E e) ∧ (reading notes).2.Hold Q

namespace State

variable {E : Event → Prop} {Q : Prose → Prop} {s s' : State} {e : Event}

theorem Holds.of_eq (h : s.Holds E Q) (hevents : s'.events = s.events) (hnotes : s'.notes = s.notes) :
    s'.Holds E Q :=
  ⟨hevents ▸ h.events, hnotes ▸ h.notes⟩

theorem Holds.push_event (h : s.Holds E Q) (he : E e) : ∀ x ∈ s.events.push e, E x := by
  intro x hx
  rcases Array.mem_push.1 hx with hx | rfl
  · exact h.events x hx
  · exact he

theorem Holds.flush (hE : Event.Kept E) (h : s.Holds E Q) : s.flush.Holds E Q := by
  unfold State.flush
  split
  · exact h
  · exact ⟨h.push_event (hE.text _), h.notes⟩

theorem Holds.push (hE : Event.Kept E) (h : s.Holds E Q) (he : E e) : (s.push e).Holds E Q :=
  ⟨(h.flush hE).push_event he, (h.flush hE).notes⟩

theorem Holds.shownLink (hE : Event.Kept E) (target shown : List Char) (h : s.Holds E Q) :
    (s.shownLink target shown).Holds E Q :=
  ((h.push hE (hE.opening rfl)).push hE (hE.text _)).push hE (hE.closing _)

theorem Holds.mark (hE : Event.Kept E) (text : List Char) (d : Delimiter) (h : s.Holds E Q) :
    (s.mark text d).Holds E Q :=
  (h.push hE (hE.text (String.ofList text))).of_eq rfl rfl

theorem Holds.addMarks (hE : Event.Kept E) (text : List Char) (d : Delimiter) (count length : Nat)
    (h : s.Holds E Q) : (s.addMarks text d count length).Holds E Q := by
  have hmarked : ((List.range count).foldl (fun s _ => s.mark text d) s).Holds E Q :=
    List.foldlRecOn (motive := State.Holds E Q) _ _ h fun _ hs _ _ => hs.mark hE text d
  exact hmarked.of_eq rfl rfl

theorem Holds.finish (hE : Event.Kept E) (h : s.Holds E Q) : ∀ e ∈ s.finish, E e := by
  simp only [State.finish, ← Array.foldl_toList]
  intro e he
  refine kept_joinTexts hE (fun e he => ?_) e (List.mem_toArray.1 he)
  have hstruck := kept_foldl (fun es ds => kept_strike hE ds)
    (s.groups.map pairUp).toList h.events
  exact kept_foldl (fun es ds => kept_emphasizeBelow hE ds ds.size false) _ hstruck e
    (Array.mem_toList_iff.1 he)

end State

namespace Given

variable {references : List (String × Reference)} {E : Event → Prop} {Q : Prose → Prop}
  {nested : State → State} {text : Array Char} {s s' : State}

/-- A condition on the events of a text that says nothing about footnotes. -/
theorem anyNotes (hE : Given references E Q) : Given references E fun _ => True :=
  { hE with written := fun _ _ _ => trivial }

theorem leaf (hE : Given references E Q) {c : Construct} (hc : c.isAtom = true) (h : s.Holds E Q) :
    (s.leaf c).Holds E Q :=
  h.push hE.kept (hE.atom hc)

theorem lineEnd (hE : Given references E Q) (h : s.Holds E Q) : s.lineEnd.Holds E Q := by
  unfold State.lineEnd
  split
  · exact hE.leaf rfl (h.of_eq rfl rfl)
  · exact hE.leaf rfl (h.of_eq rfl rfl)
  · exact hE.leaf rfl h

section

variable (hE : Given references E Q)
  (hown : ∀ alt, alt.length < text.size → HoldsOf E Q (readText references alt))
  (hnested : ∀ s, s.Within text → s.Holds E Q → (nested s).Holds E Q)

include hE hown hnested

theorem addItem (hs : s.Within text) (h : s.Holds E Q) {item : Item} {p q : Nat}
    (hitem : item.StandsAt references text s.stop p q) :
    (addItem (readText references) nested text item s).Holds E Q := by
  have hkept := hE.kept
  cases item with
  | plain cs => exact h.of_eq rfl rfl
  | address before target shown => exact State.Holds.shownLink hkept _ _ (h.of_eq rfl rfl)
  | lineEnd => exact hE.lineEnd h
  | hardBreak => exact hE.leaf rfl h
  | special cs => exact h.push hkept (hE.special _)
  | code content => exact hE.leaf rfl h
  | link start stop target title =>
    obtain ⟨-, -, hq, hend, -⟩ := hitem
    have hread := hnested _ (hs.inLink start (Nat.le_of_lt (Nat.lt_of_lt_of_le hq hend))
      (.opening (.link (String.ofList target) (titleOf title)) none))
      ((h.push hkept (hkept.opening rfl)).of_eq rfl rfl)
    rw [addItem_link]
    refine State.Holds.push hkept ?_ (hkept.closing _)
    exact hread.of_eq rfl rfl
  | image start stop target title =>
    obtain ⟨hevents, hnotes⟩ := hown _ (length_slice_lt hs hitem.2) s.notes h.notes
    exact State.Holds.push hkept ⟨h.events, hnotes⟩ (hE.image _ _ _ _ hevents)
  | note start stop =>
    obtain ⟨hevents, hnotes⟩ := hown _ (length_slice_lt hs hitem.2) s.notes.reserve h.notes.reserve
    exact hE.leaf rfl ⟨h.events, hnotes.write _ (hE.written _ _ hevents)⟩
  | noteRef label => exact hE.leaf rfl ⟨h.events, h.notes.refer label⟩
  | autolink target shown => exact h.shownLink hkept _ _
  | html content => exact (hE.leaf (c := .html (String.ofList content)) rfl h).of_eq rfl rfl

theorem of_reads (hs : s.Within text) (h : s.Holds E Q)
    (hread : ReadsItem (readText references) nested text references s s') : s'.Holds E Q := by
  have hkept := hE.kept
  cases hread with
  | marks _ _ count length => exact h.addMarks hkept _ _ count length
  | tilde _ _ count length => exact (hE.leaf rfl h).addMarks hkept _ _ count length
  | @item item q memory hitem hmemory =>
    have hs' : State.Within text { s with memory } := ⟨hmemory, hs.stop_le⟩
    exact (hE.addItem hown hnested hs' (h.of_eq rfl rfl) hitem).of_eq rfl rfl
  | plain => exact h.of_eq rfl rfl

end

/-- Reading a text keeps the conditions. -/
theorem readText (hE : Given references E Q) (cs : List Char) :
    HoldsOf E Q (readText references cs) := by
  refine readText_induction (R := fun _ reading => HoldsOf E Q reading) (fun cs hown notes h => ?_) cs
  have hread := readPart_induction (P := fun _ : Unit => State.Holds E Q) (i := ())
    (fun _ s hs => hs.flush hE.kept) (fun _ s cs hs => hs.of_eq rfl rfl)
    (fun nested hnested _ s s' hs h hread => hE.of_reads hown (hnested ()) hs h hread) maxDepth
    (State.within_start cs notes) ⟨fun e he => by simp [State.start] at he, h⟩
  exact ⟨hread.finish hE.kept, hread.notes⟩

end Given

end Inline

end ProposalCheck.Markup
