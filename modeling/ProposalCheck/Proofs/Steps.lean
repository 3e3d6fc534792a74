import ProposalCheck.Proofs.Items

/-!
# Reading a text step by step

A text is read item by item, and what a step makes of a state is said once (`Inline.ReadsItem`). What every
step keeps, whatever reads the texts of links, is kept by reading a part of a text
(`Inline.readPart_induction`).

Alternative texts and footnotes are texts of their own. They are shorter than the text in which they stand, so
that the bound on how deep they may be nested is never reached: `Inline.readText_eq` reads them by
`readText` again, and `Inline.readText_induction` is the induction that goes with it.
-/

namespace ProposalCheck.Markup.Inline

variable {own own' : Reader} {nested nested' : State → State} {text : Array Char}
  {references : List (String × Reference)} {s s' : State}

/-! ### What a step does -/

/-- Adds marks of emphasis, one after the other, and goes on behind them. -/
def State.addMarks (cs : List Char) (d : Delimiter) (count length : Nat) (s : State) : State :=
  let s := (List.range count).foldl (fun s _ => s.mark cs d) s
  { s with pos := s.pos + length }

/-- The state in which the text of a link is read, whose marks of emphasis are kept apart. -/
def State.inLink (start stop : Nat) (s : State) : State :=
  { s with
    pos := start, stop, groups := s.groups.push #[], group := s.groups.size
    linkLevel := s.linkLevel + 1 }

theorem addItem_link (own : Reader) (nested : State → State) (text : Array Char) (start stop : Nat)
    (target title : List Char) (s : State) :
    addItem own nested text (.link start stop target title) s =
      let link := Construct.link (String.ofList target) (titleOf title)
      let opened := s.push (.opening link none)
      let read := nested (opened.inLink start stop)
      { read with
        stop := opened.stop, group := opened.group
        linkLevel := read.linkLevel - 1 }.push (.closing link) :=
  rfl

/-- What reading makes of a state: it adds marks that have no partners yet, perhaps behind a single tilde, or
the item that stands at the position, or else a plain character. -/
inductive ReadsItem (own : Reader) (nested : State → State) (text : Array Char)
    (references : List (String × Reference)) (s : State) : State → Prop
  | marks {cs : List Char} {d : Delimiter} (hcs : cs ≠ ['~']) (hd : d.partner = none) (count length : Nat) :
      ReadsItem own nested text references s (s.addMarks cs d count length)
  | tilde {cs : List Char} {d : Delimiter} (hcs : cs ≠ ['~']) (hd : d.partner = none) (count length : Nat) :
      ReadsItem own nested text references s ((s.leaf (.text "~")).addMarks cs d count length)
  | item {item : Item} {q : Nat} {memory : Memory} (hitem : item.StandsAt references text s.stop s.pos q)
      (hmemory : memory.Advances) :
      ReadsItem own nested text references s
        { addItem own nested text item { s with memory } with pos := q }
  | plain {memory : Memory} (hmemory : memory.Advances) :
      ReadsItem own nested text references s (addPlain text { s with memory })

/-- What is recognized at the position of a state, and what is remembered then. -/
theorem recognized (room : Nat) (text : Array Char) (references : List (String × Reference))
    (h : s.memory.Advances) {v : View} (htext : v.text = text) (hstop : v.stop = s.stop)
    (hreferences : v.references = references) :
    (∀ r ∈ ((v.recognize (v.skipItem room) s.pos).run s.memory).1,
      r.1.StandsAt references text s.stop s.pos r.2) ∧
    ((v.recognize (v.skipItem room) s.pos).run s.memory).2.Advances := by
  obtain ⟨hfound, hmemory⟩ := v.yields_recognize (v.goes_skipItem room) s.pos s.memory h
  rw [View.Finds, htext, hstop, hreferences] at hfound
  exact ⟨hfound, hmemory⟩

theorem reads_readItem (own : Reader) (nested : State → State) (room : Nat) (text : Array Char)
    (references : List (String × Reference)) (h : s.memory.Advances) :
    ReadsItem own nested text references s (readItem own nested room text references s) := by
  have hplain : ReadsItem own nested text references s (addPlain text s) := .plain h
  unfold readItem
  split
  · unfold addStrike?
    dsimp only
    split
    · exact hplain
    · split
      · exact .tilde (by decide) rfl _ _
      · exact .marks (by decide) rfl _ _
  · exact .marks (by decide) rfl _ _
  · exact .marks (by decide) rfl _ _
  · dsimp only
    obtain ⟨hfound, hmemory⟩ := recognized room text references h (v := View.mk text s.stop s.pending
      (decide (0 < s.linkLevel)) references (s.notes.labels.map (·.1))) rfl rfl rfl
    generalize StateT.run _ _ = result at hfound hmemory ⊢
    obtain ⟨found, memory⟩ := result
    cases found with
    | none => exact .plain hmemory
    | some r => exact .item (hfound r rfl) hmemory

/-- Reading items keeps what every step keeps and what turning pending characters into an event keeps. -/
theorem readItems_induction {P : State → Prop} {step : State → State} (hflush : ∀ s, P s → P s.flush)
    (hstep : ∀ s, P s → P (step s)) (fuel : Nat) (h : P s) : P (readItems step fuel s) := by
  induction fuel generalizing s with
  | zero => exact hflush s h
  | succ fuel ih =>
    rw [readItems]
    split
    · exact hflush s h
    · exact ih (hstep s h)

/-- Steps that do the same where something holds that they keep read the same items. -/
theorem readItems_congr {P : State → Prop} {step step' : State → State} (hstep : ∀ s, P s → P (step s))
    (heq : ∀ s, P s → step s = step' s) (fuel : Nat) (h : P s) :
    readItems step fuel s = readItems step' fuel s := by
  induction fuel generalizing s with
  | zero => rfl
  | succ fuel ih =>
    rw [readItems, readItems, ← heq s h, ih (hstep s h)]

/-! ### Bounds -/

namespace State

@[simp] theorem flush_stop (s : State) : s.flush.stop = s.stop := by
  unfold flush
  split <;> rfl

@[simp] theorem flush_memory (s : State) : s.flush.memory = s.memory := by
  unfold flush
  split <;> rfl

@[simp] theorem push_stop (s : State) (e : Event) : (s.push e).stop = s.stop :=
  s.flush_stop

@[simp] theorem push_memory (s : State) (e : Event) : (s.push e).memory = s.memory :=
  s.flush_memory

@[simp] theorem leaf_stop (s : State) (c : Construct) : (s.leaf c).stop = s.stop :=
  s.flush_stop

@[simp] theorem leaf_memory (s : State) (c : Construct) : (s.leaf c).memory = s.memory :=
  s.flush_memory

@[simp] theorem mark_stop (s : State) (cs : List Char) (d : Delimiter) : (s.mark cs d).stop = s.stop :=
  s.flush_stop

@[simp] theorem mark_memory (s : State) (cs : List Char) (d : Delimiter) : (s.mark cs d).memory = s.memory :=
  s.flush_memory

@[simp] theorem shownLink_stop (s : State) (target shown : List Char) :
    (s.shownLink target shown).stop = s.stop := by
  simp [shownLink]

@[simp] theorem shownLink_memory (s : State) (target shown : List Char) :
    (s.shownLink target shown).memory = s.memory := by
  simp [shownLink]

@[simp] theorem lineEnd_stop (s : State) : s.lineEnd.stop = s.stop := by
  unfold lineEnd
  split <;> exact leaf_stop _ _

@[simp] theorem lineEnd_memory (s : State) : s.lineEnd.memory = s.memory := by
  unfold lineEnd
  split <;> exact leaf_memory _ _

/-- Remembered items do not go back, and the part that is read ends in the text. -/
structure Within (text : Array Char) (s : State) : Prop where
  memory : s.memory.Advances
  stop_le : s.stop ≤ text.size

namespace Within

theorem of_eq (h : s.Within text) (hmemory : s'.memory = s.memory) (hstop : s'.stop = s.stop) :
    s'.Within text :=
  ⟨hmemory ▸ h.memory, hstop ▸ h.stop_le⟩

theorem addMarks (h : s.Within text) (cs : List Char) (d : Delimiter) (count length : Nat) :
    (s.addMarks cs d count length).Within text := by
  have hmarked : ((List.range count).foldl (fun s _ => s.mark cs d) s).Within text :=
    List.foldlRecOn (motive := Within text) _ _ h fun s hs _ _ =>
      hs.of_eq (s.mark_memory cs d) (s.mark_stop cs d)
  exact hmarked.of_eq rfl rfl

/-- The text of a link ends in the text. -/
theorem inLink (h : s.Within text) (start : Nat) {stop : Nat} (hstop : stop ≤ s.stop) (e : Event) :
    ((s.push e).inLink start stop).Within text :=
  ⟨(push_memory s e).symm ▸ h.memory, Nat.le_trans hstop h.stop_le⟩

theorem addItem (hnested : ∀ s, s.Within text → (nested s).Within text) (h : s.Within text)
    {item : Item} {p q : Nat} (hitem : item.StandsAt references text s.stop p q) :
    (addItem own nested text item s).Within text := by
  cases item with
  | plain => exact h.of_eq rfl rfl
  | lineEnd => exact h.of_eq s.lineEnd_memory s.lineEnd_stop
  | hardBreak | special | code | note | noteRef => exact h.of_eq (leaf_memory _ _) (leaf_stop _ _)
  | html content =>
    exact h.of_eq (leaf_memory s (.html (String.ofList content))) (leaf_stop s (.html (String.ofList content)))
  | image => exact h.of_eq (push_memory _ _) (push_stop _ _)
  | address | autolink => exact h.of_eq (shownLink_memory _ _ _) (shownLink_stop _ _ _)
  | link start stop target title =>
    obtain ⟨-, -, hq, hend, -⟩ := hitem
    rw [addItem_link]
    dsimp only
    generalize hopened : s.push _ = opened
    have hread : (nested (opened.inLink start stop)).Within text :=
      hnested _ (hopened ▸ h.inLink _ (Nat.le_of_lt (Nat.lt_of_lt_of_le hq hend)) _)
    have hstop : opened.stop = s.stop := hopened ▸ push_stop _ _
    exact State.Within.of_eq (s := { nested (opened.inLink start stop) with stop := opened.stop })
      ⟨hread.memory, hstop ▸ h.stop_le⟩ (push_memory _ _) (push_stop _ _)

/-- A step keeps the bounds. -/
theorem of_reads (hnested : ∀ s, s.Within text → (nested s).Within text) (h : s.Within text)
    (hread : ReadsItem own nested text references s s') : s'.Within text := by
  cases hread with
  | marks _ _ count length => exact h.addMarks _ _ count length
  | tilde _ _ count length =>
    exact (h.of_eq (s.leaf_memory _) (s.leaf_stop _)).addMarks _ _ count length
  | @item item q memory hitem hmemory =>
    have hs : State.Within text { s with memory } := ⟨hmemory, h.stop_le⟩
    exact (hs.addItem hnested hitem).of_eq rfl rfl
  | plain hmemory => exact ⟨hmemory, h.stop_le⟩

theorem readItem (hnested : ∀ s, s.Within text → (nested s).Within text) (room : Nat) (h : s.Within text) :
    (readItem own nested room text references s).Within text :=
  h.of_reads hnested (reads_readItem own nested room text references h.memory)

theorem readPart (own : Reader) (references : List (String × Reference)) (room : Nat) (h : s.Within text) :
    (readPart own text references room s).Within text := by
  induction room generalizing s with
  | zero => exact h.of_eq (flush_memory _) (flush_stop _)
  | succ room ih =>
    exact readItems_induction (fun s hs => hs.of_eq s.flush_memory s.flush_stop)
      (fun s hs => hs.readItem (fun s hs => ih hs) (room + 1)) _ h

end Within

end State

/-- What every step keeps, as soon as reading the text of a link keeps it, is kept by reading a part of a
text. -/
theorem readPart_induction {ι : Type} {P : ι → State → Prop} (hflush : ∀ i s, P i s → P i s.flush)
    (hplain : ∀ i s cs, P i s → P i { s.plain cs with pos := s.stop })
    (hstep : ∀ nested, (∀ i s, s.Within text → P i s → P i (nested s)) →
      ∀ i s s', s.Within text → P i s → ReadsItem own nested text references s s' → P i s')
    (room : Nat) {i : ι} (hs : s.Within text) (h : P i s) :
    P i (readPart own text references room s) := by
  induction room generalizing s i with
  | zero => exact hflush i _ (hplain i s _ h)
  | succ room ih =>
    refine (readItems_induction (P := fun s => s.Within text ∧ P i s)
      (fun s h => ⟨h.1.of_eq s.flush_memory s.flush_stop, hflush i s h.2⟩) (fun s h => ?_) _ ⟨hs, h⟩).2
    exact ⟨h.1.readItem (fun s hs => hs.readPart own references room) _,
      hstep _ (fun i s hs h => ih hs h) i s _ h.1 h.2 (reads_readItem _ _ _ _ _ h.1.memory)⟩

/-! ### Texts of their own -/

theorem length_slice_lt (hs : s.Within text) {start stop q : Nat}
    (h : start ≤ stop ∧ stop < q ∧ q ≤ s.stop) : (slice text start stop).length < text.size := by
  have hlength := Block.length_slice_le text start stop
  have hle := hs.stop_le
  omega

theorem addItem_congr (hown : ∀ cs, cs.length < text.size → own cs = own' cs)
    (hnested : ∀ s, s.Within text → nested s = nested' s) (hs : s.Within text) {item : Item} {p q : Nat}
    (hitem : item.StandsAt references text s.stop p q) :
    addItem own nested text item s = addItem own' nested' text item s := by
  cases item with
  | link start stop target title =>
    obtain ⟨-, -, hq, hend, -⟩ := hitem
    rw [addItem_link, addItem_link]
    dsimp only
    rw [hnested _ (hs.inLink _ (Nat.le_of_lt (Nat.lt_of_lt_of_le hq hend)) _)]
  | image start stop | note start stop =>
    simp only [addItem, hown _ (length_slice_lt hs hitem.2)]
  | _ => rfl

theorem readItem_congr (hown : ∀ cs, cs.length < text.size → own cs = own' cs)
    (hnested : ∀ s, s.Within text → nested s = nested' s) (room : Nat) (hs : s.Within text) :
    readItem own nested room text references s = readItem own' nested' room text references s := by
  unfold readItem
  split
  · rfl
  · rfl
  · rfl
  · dsimp only
    obtain ⟨hfound, hmemory⟩ := recognized room text references hs.memory (v := View.mk text s.stop s.pending
      (decide (0 < s.linkLevel)) references (s.notes.labels.map (·.1))) rfl rfl rfl
    generalize StateT.run _ _ = result at hfound hmemory ⊢
    obtain ⟨found, memory⟩ := result
    cases found with
    | none => rfl
    | some r =>
      have hs' : State.Within text { s with memory } := ⟨hmemory, hs.stop_le⟩
      exact congrArg (fun s : State => { s with pos := r.2 }) (addItem_congr hown hnested hs' (hfound r rfl))

theorem readPart_congr (hown : ∀ cs, cs.length < text.size → own cs = own' cs) (room : Nat)
    (hs : s.Within text) :
    readPart own text references room s = readPart own' text references room s := by
  induction room generalizing s with
  | zero => rfl
  | succ room ih =>
    exact readItems_congr (P := State.Within text)
      (fun s hs => hs.readItem (fun s hs => hs.readPart own references room) _)
      (fun s hs => readItem_congr hown (fun s hs => ih hs) _ hs) _ hs

/-- The state in which a text is read. -/
def State.start (cs : List Char) (notes : Notes) : State :=
  { stop := cs.toArray.size, notes }

theorem State.within_start (cs : List Char) (notes : Notes) : (State.start cs notes).Within cs.toArray :=
  ⟨advances_empty, Nat.le_refl _⟩

theorem readOwn_succ (references : List (String × Reference)) (depth : Nat) (cs : List Char) (notes : Notes) :
    readOwn references (depth + 1) cs notes =
      let s := readPart (readOwn references depth) cs.toArray references maxDepth (.start cs notes)
      (s.finish, s.notes) :=
  rfl

/-- Any bound on the nesting of texts that is greater than the length of the text will do. -/
theorem readOwn_eq {cs : List Char} {depth : Nat} (h : cs.length < depth) :
    readOwn references depth cs = readText references cs := by
  induction depth using Nat.strongRecOn generalizing cs with
  | ind depth ih =>
    cases depth with
    | zero => cases h
    | succ depth =>
      have hown (alt : List Char) (halt : alt.length < cs.toArray.size) :
          readOwn references depth alt = readOwn references cs.length alt := by
        rw [List.size_toArray] at halt
        rw [ih depth (Nat.lt_succ_self depth) (by omega), ih cs.length h halt]
      funext notes
      rw [readText, readOwn_succ, readOwn_succ]
      dsimp only
      rw [readPart_congr hown _ (State.within_start cs notes)]

/-- A text is read item by item, the texts in it that stand on their own by themselves. -/
theorem readText_eq (references : List (String × Reference)) (cs : List Char) (notes : Notes) :
    readText references cs notes =
      let s := readPart (readText references) cs.toArray references maxDepth (.start cs notes)
      (s.finish, s.notes) := by
  have hown (alt : List Char) (halt : alt.length < cs.toArray.size) :
      readOwn references cs.length alt = readText references alt :=
    readOwn_eq (List.size_toArray ▸ halt)
  rw [readText, readOwn_succ]
  dsimp only
  rw [readPart_congr hown _ (State.within_start cs notes)]

/-- What goes on from shorter texts to a text, given that it is read item by item, holds of reading every
text. -/
theorem readText_induction {R : List Char → (Notes → Array Event × Notes) → Prop}
    (hstep : ∀ cs : List Char, (∀ alt, alt.length < cs.toArray.size → R alt (readText references alt)) →
      R cs fun notes =>
        let s := readPart (readText references) cs.toArray references maxDepth (.start cs notes)
        (s.finish, s.notes)) (cs : List Char) : R cs (readText references cs) := by
  induction hlength : cs.length using Nat.strongRecOn generalizing cs with
  | ind n ih =>
    rw [funext (readText_eq references cs)]
    refine hstep cs fun alt halt => ih alt.length ?_ alt rfl
    rwa [List.size_toArray, hlength] at halt

end ProposalCheck.Markup.Inline
