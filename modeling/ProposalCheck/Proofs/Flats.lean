import ProposalCheck.Proofs.Spans

/-!
# Flat forms and the trees they build

Blocks are read as a sequence of marks in which every construct and every footnote that opens closes
again (`Mark.Flat`). The footnotes are then taken out of the sequence and put at its end.
`Markup.read_shape` says what tree comes of it: below the root are the blocks of the flow, and a node
that has a node for each footnote.

A footnote inside another one tears the outer one apart, and what is left of that may open more than
it closes. The blocks of the inner one are still a flat form (`Notes.flat_blocks`), so that the nodes
at the end are complete whatever stands in front of them, and a tree comes of all of it only if the
rest is complete as well.
-/

namespace ProposalCheck.Markup

/-- Whether a construct may stand in the flow of a document or inside a footnote. -/
def Construct.isBlock : Construct → Bool
  | blockquote | bulletList | orderedList | listItem | codeBlock _ | fence _ | htmlBlock _ | paragraph
  | heading | thematicBreak | table | tableHead | tableBody | tableRow | headerCell | dataCell
  | footnoteAnchor _ => true
  | _ => false

/-- Whether a construct is a block that may have something inside it. -/
def Construct.isContainer : Construct → Bool
  | blockquote | bulletList | orderedList | listItem | paragraph | heading | table | tableHead
  | tableBody | tableRow | headerCell | dataCell => true
  | _ => false

theorem Construct.isBlock_of_isContainer {c : Construct} (h : c.isContainer = true) :
    c.isBlock = true := by
  cases c <;> first | rfl | cases h

/-- A block that starts below line `n` if it has lines. -/
def Node.IsBlock (n : Nat) (c : Construct) (l : Option LineSpan) : Prop :=
  c.isBlock = true ∧ ∀ s ∈ l, s.1 < n

/-- A block that may have something inside it and starts below line `n` if it has lines. -/
def Node.IsContainer (n : Nat) (c : Construct) (l : Option LineSpan) : Prop :=
  c.isContainer = true ∧ ∀ s ∈ l, s.1 < n

/-! ### Flat forms -/

/-- Marks of blocks in which what opens closes again, with texts that satisfy a condition. There are
footnotes among them only if `notes` is true. -/
inductive Mark.Flat {α : Type} (P : α → Option LineSpan → Prop) (n : Nat) (notes : Bool) :
    List (Mark α) → Prop
  | nil : Flat P n notes []
  | append {a b : List (Mark α)} (ha : Flat P n notes a) (hb : Flat P n notes b) :
      Flat P n notes (a ++ b)
  | leaf {c : Construct} {l : Option LineSpan} (h : Node.IsBlock n c l) :
      Flat P n notes [.leaf c l]
  | prose {x : α} {l : Option LineSpan} (h : P x l) : Flat P n notes [.prose x l]
  | around {c : Construct} {l : Option LineSpan} {ms : List (Mark α)} (h : Node.IsContainer n c l)
      (inner : Flat P n notes ms) : Flat P n notes (.opening c l :: ms ++ [.closing c])
  | note {label : String} {ms : List (Mark α)} (h : notes = true) (inner : Flat P n notes ms) :
      Flat P n notes (.noteOpening label :: ms ++ [.noteClosing])

namespace Mark

variable {α : Type} {P Q : α → Option LineSpan → Prop} {n : Nat} {notes : Bool}
  {ms : List (Mark α)}

/-- Whether a mark is a bound of a footnote. -/
def isBound : Mark α → Bool
  | noteOpening _ | noteClosing => true
  | event _ | prose _ _ => false

theorem Flat.imp (h : Flat P n notes ms) (hP : ∀ x l, .prose x l ∈ ms → P x l → Q x l) :
    Flat Q n notes ms := by
  induction h with
  | nil => exact .nil
  | append _ _ iha ihb =>
    exact .append (iha fun x l hm => hP x l (List.mem_append_left _ hm))
      (ihb fun x l hm => hP x l (List.mem_append_right _ hm))
  | leaf h => exact .leaf h
  | prose h => exact .prose (hP _ _ (List.mem_singleton_self _) h)
  | around h _ ih => exact .around h (ih fun x l hm => hP x l (by simp [hm]))
  | note h _ ih => exact .note h (ih fun x l hm => hP x l (by simp [hm]))

theorem Flat.not_bound (h : Flat P n false ms) : ∀ m ∈ ms, m.isBound = false := by
  induction h with
  | nil => exact List.forall_mem_nil _
  | append _ _ iha ihb => exact List.forall_mem_append.2 ⟨iha, ihb⟩
  | leaf _ | prose _ => exact List.forall_mem_singleton.2 rfl
  | around _ _ ih =>
    exact List.forall_mem_cons.2 ⟨rfl, List.forall_mem_append.2 ⟨ih, List.forall_mem_singleton.2 rfl⟩⟩
  | note h => cases h

theorem Flat.replicate {m : Mark α} (h : Flat P n notes [m]) (count : Nat) :
    Flat P n notes (List.replicate count m) := by
  induction count with
  | zero => exact .nil
  | succ count ih => exact .append h ih

/-- A flat form stays one when something is put in front of the end of its last construct. -/
theorem Flat.insert {body a : List (Mark α)} {c : Construct} (h : Flat P n false ms)
    (ha : Flat P n false a) (hms : ms = body ++ [.closing c]) :
    Flat P n false (body ++ a ++ [.closing c]) := by
  induction h generalizing body with
  | nil => simp at hms
  | @append front b hfront hb ihfront ihb =>
    rcases List.eq_nil_or_concat' b with rfl | ⟨b, m, rfl⟩
    · exact ihfront (by simpa using hms)
    · rw [← List.append_assoc] at hms
      obtain ⟨rfl, hm⟩ := List.append_inj' hms rfl
      rw [List.append_assoc, List.append_assoc, ← List.append_assoc b]
      exact .append hfront (ihb (congrArg _ hm))
  | leaf _ | prose _ =>
    have hlast := congrArg List.getLast? hms
    rw [List.getLast?_concat] at hlast
    cases Option.some.inj hlast
  | @around c' l inner h hinner _ =>
    obtain ⟨rfl, hm⟩ := List.append_inj' hms rfl
    obtain rfl : c' = c := by
      injection List.singleton_inj.1 hm with hm
      injection hm
    exact .around h (.append hinner ha)
  | note h => cases h

/-- What each mark of a flat form says by itself. -/
def Stands (P : α → Option LineSpan → Prop) (n : Nat) : Mark α → Prop
  | .event e => e.Gives (fun m => ∃ c l, m = .node c l [] ∧ Node.IsBlock n c l) (Node.IsContainer n)
  | .prose x l => P x l
  | .noteOpening _ | .noteClosing => True

theorem Flat.stands (h : Flat P n notes ms) : ∀ m ∈ ms, m.Stands P n := by
  induction h with
  | nil => exact List.forall_mem_nil _
  | append _ _ iha ihb => exact List.forall_mem_append.2 ⟨iha, ihb⟩
  | leaf h => exact List.forall_mem_singleton.2 ⟨_, _, rfl, h⟩
  | prose h => exact List.forall_mem_singleton.2 h
  | around h _ ih =>
    exact List.forall_mem_cons.2
      ⟨h, List.forall_mem_append.2 ⟨ih, List.forall_mem_singleton.2 trivial⟩⟩
  | note _ _ ih =>
    exact List.forall_mem_cons.2
      ⟨trivial, List.forall_mem_append.2 ⟨ih, List.forall_mem_singleton.2 trivial⟩⟩

end Mark

/-! ### Footnotes -/

namespace Notes

open Mark (Flat)

variable {P : Prose → Option LineSpan → Prop} {n : Nat} {ms rest current : List (Mark Prose)}
  {label : String}

theorem divide_inside (h : ∀ m ∈ ms, m.isBound = false) (label : String)
    (current rest : List (Mark Prose)) :
    divide (ms ++ rest) true label current = divide rest true label (current ++ ms) := by
  induction ms generalizing current with
  | nil => rw [List.nil_append, List.append_nil]
  | cons m ms ih =>
    obtain ⟨hm, hms⟩ := List.forall_mem_cons.1 h
    have hstep : divide (m :: (ms ++ rest)) true label current
        = divide (ms ++ rest) true label (current ++ [m]) := by
      cases m with
      | event e => rfl
      | prose x l => rfl
      | noteOpening _ | noteClosing => cases hm
    rw [List.cons_append, hstep, ih hms, List.append_assoc, List.singleton_append]

theorem blocks_outside (h : ∀ m ∈ ms, m.isBound = false) (label : String)
    (current rest : List (Mark Prose)) :
    (divide (ms ++ rest) false label current).blocks = (divide rest false label current).blocks := by
  induction ms with
  | nil => rfl
  | cons m ms ih =>
    obtain ⟨hm, hms⟩ := List.forall_mem_cons.1 h
    rw [← ih hms]
    cases m with
    | event e => rfl
    | prose x l => rfl
    | noteOpening _ | noteClosing => cases hm

/-- Marks among which there is a footnote: whatever has been read before them, all blocks that they
give are flat forms, and after them no footnote is open. -/
def Settles (P : Prose → Option LineSpan → Prop) (n : Nat) (ms : List (Mark Prose)) : Prop :=
  ∀ rest inside label current, ∃ label' current' blocks, Flat P n false current' ∧
    (∀ b ∈ blocks, Flat P n false b.2) ∧
    (divide (ms ++ rest) inside label current).blocks
      = blocks ++ (divide rest false label' current').blocks

theorem Settles.behind {front : List (Mark Prose)} (h : Settles P n ms)
    (hfront : ∀ m ∈ front, m.isBound = false) : Settles P n (front ++ ms) := by
  intro rest inside label current
  rw [List.append_assoc]
  cases inside with
  | true =>
    rw [divide_inside hfront]
    exact h rest true label (current ++ front)
  | false =>
    rw [blocks_outside hfront]
    exact h rest false label current

theorem Settles.before (h : Settles P n ms) {after : List (Mark Prose)}
    (hafter : ∀ m ∈ after, m.isBound = false) : Settles P n (ms ++ after) := by
  intro rest inside label current
  obtain ⟨label', current', blocks, hcurrent, hblocks, heq⟩ := h (after ++ rest) inside label current
  refine ⟨label', current', blocks, hcurrent, hblocks, ?_⟩
  rw [List.append_assoc, heq, blocks_outside hafter]

theorem Settles.append {a b : List (Mark Prose)} (ha : Settles P n a) (hb : Settles P n b) :
    Settles P n (a ++ b) := by
  intro rest inside label current
  obtain ⟨label', current', front, -, hfront, heq⟩ := ha (b ++ rest) inside label current
  obtain ⟨label'', current'', back, hcurrent, hback, heq'⟩ := hb rest false label' current'
  refine ⟨label'', current'', front ++ back, hcurrent, List.forall_mem_append.2 ⟨hfront, hback⟩, ?_⟩
  rw [List.append_assoc, heq, heq', List.append_assoc]

/-- The innermost footnotes are flat forms without footnotes. -/
theorem flat_or_settles (h : Flat P n true ms) : Flat P n false ms ∨ Settles P n ms := by
  induction h with
  | nil => exact .inl .nil
  | leaf h => exact .inl (.leaf h)
  | prose h => exact .inl (.prose h)
  | append _ _ iha ihb =>
    rcases iha with ha | ha <;> rcases ihb with hb | hb
    · exact .inl (.append ha hb)
    · exact .inr (hb.behind ha.not_bound)
    · exact .inr (ha.before hb.not_bound)
    · exact .inr (ha.append hb)
  | @around c l ms h _ ih =>
    rcases ih with ih | ih
    · exact .inl (.around h ih)
    · have hopening : ∀ m ∈ [(.opening c l : Mark Prose)], m.isBound = false := by
        exact List.forall_mem_singleton.2 rfl
      exact .inr ((ih.behind hopening).before (List.forall_mem_singleton.2 rfl))
  | @note label ms _ _ ih =>
    refine .inr fun rest inside outer current => ?_
    have hstart : divide (.noteOpening label :: ms ++ [.noteClosing] ++ rest) inside outer current
        = divide (ms ++ .noteClosing :: rest) true label [] := by
      rw [List.append_assoc]
      rfl
    rw [hstart]
    -- at its end an outer footnote gets the blocks that an inner one has left behind
    rcases ih with ih | ih
    · refine ⟨label, ms, [(label, ms)], ih, List.forall_mem_singleton.2 ih, ?_⟩
      rw [divide_inside ih.not_bound, List.nil_append]
      rfl
    · obtain ⟨label', current', blocks, hcurrent, hblocks, heq⟩ :=
        ih (.noteClosing :: rest) true label []
      refine ⟨label', current', blocks ++ [(label', current')], hcurrent,
        List.forall_mem_append.2 ⟨hblocks, List.forall_mem_singleton.2 hcurrent⟩, ?_⟩
      rw [heq, List.append_assoc]
      rfl

theorem flat_blocks (h : Flat P n true ms) :
    ∀ b ∈ (divide ms false "" []).blocks, Flat P n false b.2 := by
  rcases flat_or_settles h with h | h
  · have hnone := blocks_outside h.not_bound "" [] []
    rw [List.append_nil] at hnone
    rw [hnone]
    exact List.forall_mem_nil _
  · obtain ⟨label', current', blocks, -, hblocks, heq⟩ := h [] false "" []
    rw [List.append_nil] at heq
    rw [heq]
    exact List.forall_mem_append.2 ⟨hblocks, List.forall_mem_nil _⟩

theorem mem_of_mem_divide {inside : Bool} {m : Mark Prose}
    (h : m ∈ (divide ms inside label current).marks) : m ∈ ms := by
  fun_induction divide ms inside label current with
  | case1 => cases h
  | case2 label ms _ _ _ ih => exact List.mem_cons_of_mem _ (ih h)
  | case3 ms _ label current rest ih => exact List.mem_cons_of_mem _ (ih h)
  | case4 m ms label current _ _ ih => exact List.mem_cons_of_mem _ (ih h)
  | case5 m ms label current _ _ rest ih =>
    rcases List.mem_cons.1 h with rfl | h
    · exact List.mem_cons_self
    · exact List.mem_cons_of_mem _ (ih h)

theorem flat_blocksOf {flow : Flow} (label : String) (h : ∀ b ∈ flow.blocks, Flat P n false b.2) :
    Flat P n false (blocksOf flow label) := by
  unfold blocksOf
  split
  · rename_i b hb
    exact h b (List.mem_reverse.1 (List.mem_of_find?_eq_some hb))
  · exact .nil

/-- The marks of a footnote that is written in its place. -/
theorem noteMarks_written (flow : Flow) (prose : Prose) :
    noteMarks flow (.written prose) = .opening (.footnote none) none ::
      [.opening .paragraph none, .prose prose none, .leaf (.footnoteAnchor none) none,
        .closing .paragraph] ++ [.closing (.footnote none)] := rfl

/-- The blocks of a footnote stay a flat form when anchors are put into them. -/
theorem exists_noteMarks_labelled {flow : Flow} (label : String) (count : Nat)
    (h : ∀ b ∈ flow.blocks, Flat P n false b.2) :
    ∃ inner, Flat P n false inner ∧ noteMarks flow (.labelled label count)
      = .opening (.footnote (some label)) none :: inner ++ [.closing (.footnote (some label))] := by
  have hblocks := flat_blocksOf label h
  have hanchor : Flat P n false [.leaf (.footnoteAnchor (some label)) none] :=
    .leaf ⟨rfl, fun s hs => by cases hs⟩
  have hanchors := hanchor.replicate (Nat.max count 1)
  unfold noteMarks
  dsimp only
  cases hlast : (blocksOf flow label).getLast? with
  | none => exact ⟨_, hanchors, by simp⟩
  | some m =>
    dsimp only
    split
    · rename_i hcloses
      obtain ⟨body, hbody⟩ := List.getLast?_eq_some_iff.1 hlast
      obtain rfl : m = .closing .paragraph := by
        unfold closesParagraph at hcloses
        split at hcloses
        · rfl
        · cases hcloses
      refine ⟨_, hblocks.insert hanchors hbody, ?_⟩
      rw [hbody, List.dropLast_concat]
      rfl
    · exact ⟨_, .append hblocks hanchors, by simp⟩

end Notes

/-! ### Nodes of blocks -/

/-- A tree of blocks with texts that satisfy a condition. -/
inductive Node.Built (P : Prose → Option LineSpan → Prop) (n : Nat) : Node → Prop
  | block {c : Construct} {l : Option LineSpan} {cs : List Node} (own : Node.IsBlock n c l)
      (empty : c.isContainer = false → cs = []) (children : ∀ m ∈ cs, Built P n m) :
      Built P n (.node c l cs)
  | prose {p : Prose} {l : Option LineSpan} {ns : List Node} (hp : P p l)
      (hns : p.nodes? = some ns) : Built P n (.node .inline l ns)

theorem Node.Built.leaf {P : Prose → Option LineSpan → Prop} {n : Nat} {c : Construct}
    {l : Option LineSpan} (h : Node.IsBlock n c l) : (Node.node c l []).Built P n :=
  .block h (fun _ => rfl) (List.forall_mem_nil _)

theorem Node.Built.around {P : Prose → Option LineSpan → Prop} {n : Nat} {c : Construct}
    {l : Option LineSpan} {cs : List Node} (h : Node.IsContainer n c l) (hcs : ∀ m ∈ cs, m.Built P n) :
    (Node.node c l cs).Built P n :=
  .block ⟨Construct.isBlock_of_isContainer h.1, h.2⟩ (fun hc => by rw [h.1] at hc; cases hc) hcs

namespace Event

/-- Events that build some nodes wherever they stand. -/
def Builds (es : List Event) (ns : List Node) : Prop :=
  ∀ rest done fs, build (es ++ rest) done fs = build rest (ns.reverse ++ done) fs

theorem Builds.nil : Builds [] [] :=
  fun _ _ _ => rfl

theorem Builds.leaf (c : Construct) (l : Option LineSpan) (cs : List Node) :
    Builds [.leaf c l cs] [.node c l cs] :=
  fun _ _ _ => rfl

theorem Builds.append {a b : List Event} {ns ms : List Node} (ha : Builds a ns) (hb : Builds b ms) :
    Builds (a ++ b) (ns ++ ms) := by
  intro rest done fs
  rw [List.append_assoc, ha, hb, List.reverse_append, List.append_assoc]

theorem Builds.around {es : List Event} {ns : List Node} (h : Builds es ns) (c : Construct)
    (l : Option LineSpan) (c' : Construct) :
    Builds (.opening c l :: es ++ [.closing c']) [.node c l ns] := by
  intro rest done fs
  rw [List.cons_append, List.cons_append, List.append_assoc, build, h, List.singleton_append, build,
    List.append_nil, List.reverse_reverse]
  rfl

/-- Nodes that are complete stand behind those that the events before them build. -/
theorem exists_of_build_append {es back : List Event} {xs ns done : List Node} {fs : List Frame}
    (hback : Builds back xs) (h : build (es ++ back) done fs = some ns) :
    ∃ front, build es done fs = some front ∧ ns = front ++ xs := by
  induction es generalizing done fs with
  | nil =>
    rw [List.nil_append, ← List.append_nil back, hback] at h
    cases fs with
    | nil =>
      obtain rfl := Option.some.inj h
      exact ⟨done.reverse, rfl, by simp⟩
    | cons f fs => cases h
  | cons e es ih =>
    cases e with
    | leaf c l cs => exact ih h
    | opening c l => exact ih h
    | closing c =>
      cases fs with
      | nil => cases h
      | cons f fs => exact ih h

end Event

/-- The events of marks; the bounds of footnotes give none. -/
def Mark.events? (ms : List (Mark Prose)) : Option (List Event) :=
  (ms.mapM Mark.event?).map List.reduceOption

namespace Mark

variable {P : Prose → Option LineSpan → Prop} {n : Nat} {ms a b : List (Mark Prose)}
  {es : List Event}

theorem events?_append (h : events? (a ++ b) = some es) :
    ∃ x y, events? a = some x ∧ events? b = some y ∧ es = x ++ y := by
  obtain ⟨os, hos, rfl⟩ := Option.map_eq_some_iff.1 h
  rw [List.mapM_append] at hos
  obtain ⟨xs, hxs, hos⟩ := Option.bind_eq_some_iff.1 hos
  obtain ⟨ys, hys, hos⟩ := Option.bind_eq_some_iff.1 hos
  obtain rfl := Option.some.inj hos
  refine ⟨_, _, by rw [events?, hxs]; rfl, by rw [events?, hys]; rfl, ?_⟩
  exact List.reduceOption_append _ _

theorem events?_cons {m : Mark Prose} (h : events? (m :: ms) = some es) :
    ∃ x y, events? [m] = some x ∧ events? ms = some y ∧ es = x ++ y :=
  events?_append (a := [m]) h

theorem events?_prose {p : Prose} {l : Option LineSpan} (h : events? [.prose p l] = some es) :
    ∃ ns, p.nodes? = some ns ∧ es = [.leaf .inline l ns] := by
  cases hns : p.nodes? with
  | none => simp [events?, event?, hns] at h
  | some ns => exact ⟨ns, rfl, by simpa [events?, event?, hns, List.reduceOption] using h.symm⟩

/-- The events of a flat form without footnotes build nodes of its blocks. -/
theorem Flat.builds (h : Flat P n false ms) (hes : events? ms = some es) :
    ∃ ns, (∀ m ∈ ns, m.Built P n) ∧ Event.Builds es ns := by
  induction h generalizing es with
  | nil =>
    obtain rfl := Option.some.inj hes
    exact ⟨[], List.forall_mem_nil _, .nil⟩
  | append _ _ iha ihb =>
    obtain ⟨x, y, hx, hy, rfl⟩ := events?_append hes
    obtain ⟨ns, hns, hbuilds⟩ := iha hx
    obtain ⟨ns', hns', hbuilds'⟩ := ihb hy
    exact ⟨ns ++ ns', List.forall_mem_append.2 ⟨hns, hns'⟩, hbuilds.append hbuilds'⟩
  | @leaf c l h =>
    obtain rfl := Option.some.inj hes
    exact ⟨_, List.forall_mem_singleton.2 (.leaf h), .leaf c l []⟩
  | @prose x l h =>
    obtain ⟨ns, hns, rfl⟩ := events?_prose hes
    exact ⟨_, List.forall_mem_singleton.2 (.prose h hns), .leaf .inline l ns⟩
  | @around c l ms h _ ih =>
    obtain ⟨x, y, hx, hy, rfl⟩ := events?_append hes
    obtain ⟨w, z, hw, hz, rfl⟩ := events?_cons hx
    obtain ⟨ns, hns, hbuilds⟩ := ih hz
    obtain rfl := Option.some.inj hw
    obtain rfl := Option.some.inj hy
    exact ⟨_, List.forall_mem_singleton.2 (.around h hns), hbuilds.around c l c⟩
  | note h => cases h

/-- The marks of a flat form in the flow give events of its blocks, one by one. -/
theorem gives_of_stands (h : ∀ m ∈ ms, m.Stands P n) (hes : events? ms = some es) :
    ∀ e ∈ es, e.Gives (Node.Built P n) (Node.IsContainer n) := by
  induction ms generalizing es with
  | nil =>
    obtain rfl := Option.some.inj hes
    exact List.forall_mem_nil _
  | cons m rest ih =>
    obtain ⟨hm, hrest⟩ := List.forall_mem_cons.1 h
    obtain ⟨x, y, hx, hy, rfl⟩ := events?_cons hes
    refine List.forall_mem_append.2 ⟨?_, ih hrest hy⟩
    cases m with
    | event e =>
      obtain rfl := Option.some.inj hx
      refine List.forall_mem_singleton.2 ?_
      cases e with
      | opening c l => exact hm
      | closing c => trivial
      | leaf c l cs =>
        obtain ⟨c', l', hnode, hblock⟩ := hm
        rw [Event.Gives, hnode]
        exact .leaf hblock
    | prose p l =>
      obtain ⟨ns, hns, rfl⟩ := events?_prose hx
      exact List.forall_mem_singleton.2 (.prose hm hns)
    | noteOpening _ | noteClosing =>
      obtain rfl := Option.some.inj hx
      exact List.forall_mem_nil _

end Mark

/-! ### Texts -/

/-- A text with the events that reading its content has given. -/
structure Prose.IsRead (references : List (String × Reference))
    (P : String → Option LineSpan → Prop) (p : Prose) (l : Option LineSpan) : Prop where
  content : P p.content l
  events : ∃ notes, notes.Inner ∧
    p.events = (Inline.readText references p.content.toList notes).1

/-- A text without lines that satisfies a condition. -/
def Prose.Loose (Q : Prose → Prop) (p : Prose) (l : Option LineSpan) : Prop :=
  l = none ∧ Q p

section

variable {references : List (String × Reference)} {P : String → Option LineSpan → Prop} {n : Nat}

theorem Prose.IsRead.given {E : Event → Prop} {Q : Prose → Prop} (hE : Inline.Given references E Q)
    {p : Prose} {l : Option LineSpan} (h : p.IsRead references P l) : ∀ e ∈ p.events, E e := by
  obtain ⟨notes, -, hevents⟩ := h.events
  rw [hevents]
  exact (hE.anyNotes.readText _ notes fun note _ => note.holds_true).1

theorem Prose.IsRead.inner {p : Prose} {l : Option LineSpan} (h : p.IsRead references P l) :
    ∀ e ∈ p.events, e.Inner :=
  h.given (Inline.given_inner references)

theorem readProse_append (references : List (String × Reference)) (a b : List (Mark String))
    (notes : Notes) :
    readProse references (a ++ b) notes =
      ((readProse references a notes).1
        ++ (readProse references b (readProse references a notes).2).1,
        (readProse references b (readProse references a notes).2).2) := by
  induction a generalizing notes with
  | nil => rfl
  | cons m rest ih =>
    simp only [List.cons_append, readProse, ih]

/-- Reading the texts keeps the form, and the texts of the footnotes that are written in their places
satisfy what they satisfy when they are read. -/
theorem Mark.Flat.readProse {E : Event → Prop} {Q : Prose → Prop}
    (hE : Inline.Given references E Q) {ms : List (Mark String)} (h : Flat P n true ms) {notes : Notes} (hinner : notes.Inner)
    (hnotes : notes.Hold Q) :
    Flat (Prose.IsRead references P) n true (Markup.readProse references ms notes).1 ∧
      (Markup.readProse references ms notes).2.Inner ∧
      (Markup.readProse references ms notes).2.Hold Q := by
  induction h generalizing notes with
  | nil => exact ⟨.nil, hinner, hnotes⟩
  | append _ _ iha ihb =>
    obtain ⟨ha, hinner, hnotes⟩ := iha hinner hnotes
    obtain ⟨hb, hkept⟩ := ihb hinner hnotes
    rw [readProse_append]
    exact ⟨.append ha hb, hkept⟩
  | leaf h => exact ⟨.leaf h, hinner, hnotes⟩
  | @prose content l h =>
    have hread := (Inline.given_inner references).readText content.toList notes
      (Notes.inner_iff_hold.1 hinner)
    exact ⟨.prose ⟨h, notes, hinner, rfl⟩, Notes.inner_iff_hold.2 hread.2,
      (hE.readText _ _ hnotes).2⟩
  | @around c l ms h _ ih =>
    obtain ⟨hms, hkept⟩ := ih hinner hnotes
    rw [readProse_append]
    exact ⟨.around h hms, hkept⟩
  | @note label ms h _ ih =>
    obtain ⟨hms, hkept⟩ := ih hinner hnotes
    rw [readProse_append]
    exact ⟨.note h hms, hkept⟩

end

/-! ### Documents -/

/-- A footnote: the blocks of one that is defined under a label, or one that is written in a text. -/
inductive Node.IsNote (P : Prose → Option LineSpan → Prop) (Q : Prose → Prop) (n : Nat) : Node → Prop
  | labelled {label : String} {cs : List Node} (h : ∀ m ∈ cs, m.Built P n) :
      IsNote P Q n (.node (.footnote (some label)) none cs)
  | written {cs : List Node} (h : ∀ m ∈ cs, m.Built (Prose.Loose Q) 0) :
      IsNote P Q n (.node (.footnote none) none cs)

/-- A node below the root: a block of the flow, or the footnotes. -/
inductive Node.IsPart (P : Prose → Option LineSpan → Prop) (Q : Prose → Prop) (n : Nat) : Node → Prop
  | block {m : Node} (h : m.Built P n) : IsPart P Q n m
  | notes {cs : List Node} (h : ∀ m ∈ cs, m.IsNote P Q n) :
      IsPart P Q n (.node .footnoteBlock none cs)

section

variable {P : Prose → Option LineSpan → Prop} {Q : Prose → Prop} {n : Nat} {flow : Notes.Flow}
  {es : List Event}

theorem exists_note_of_events? (hflow : ∀ b ∈ flow.blocks, Mark.Flat P n false b.2) {note : Note}
    (hnote : note.Holds Q) (hes : Mark.events? (Notes.noteMarks flow note) = some es) :
    ∃ m : Node, m.IsNote P Q n ∧ Event.Builds es [m] := by
  -- the marks of both kinds stand between the bounds of a footnote
  have haround {R : Prose → Option LineSpan → Prop} {k : Nat} {inner : List (Mark Prose)}
      {label : Option String} (hinner : Mark.Flat R k false inner)
      (hmarks : Notes.noteMarks flow note
        = .opening (.footnote label) none :: inner ++ [.closing (.footnote label)]) :
      ∃ cs, (∀ m ∈ cs, m.Built R k) ∧ Event.Builds es [.node (.footnote label) none cs] := by
    rw [hmarks] at hes
    obtain ⟨x, y, hx, hy, rfl⟩ := Mark.events?_append hes
    obtain ⟨w, z, hw, hz, rfl⟩ := Mark.events?_cons hx
    obtain ⟨cs, hcs, hbuilds⟩ := hinner.builds hz
    obtain rfl := Option.some.inj hw
    obtain rfl := Option.some.inj hy
    exact ⟨cs, hcs, hbuilds.around _ _ _⟩
  cases note with
  | labelled label count =>
    obtain ⟨inner, hinner, hmarks⟩ := Notes.exists_noteMarks_labelled label count hflow
    obtain ⟨cs, hcs, hbuilds⟩ := haround hinner hmarks
    exact ⟨_, .labelled hcs, hbuilds⟩
  | written prose =>
    have hnolines : ∀ s ∈ (none : Option LineSpan), s.1 < 0 := fun s hs => by cases hs
    have hinner : Mark.Flat (Prose.Loose Q) 0 false [.opening .paragraph none, .prose prose none,
        .leaf (.footnoteAnchor none) none, .closing .paragraph] :=
      .around ⟨rfl, hnolines⟩ (.append (a := [_]) (.prose ⟨rfl, hnote⟩) (.leaf ⟨rfl, hnolines⟩))
    obtain ⟨cs, hcs, hbuilds⟩ := haround hinner (Notes.noteMarks_written flow prose)
    exact ⟨_, .written hcs, hbuilds⟩

theorem exists_notes_of_events? (hflow : ∀ b ∈ flow.blocks, Mark.Flat P n false b.2)
    {notes : List Note} (hnotes : ∀ note ∈ notes, note.Holds Q)
    (hes : Mark.events? (notes.flatMap (Notes.noteMarks flow)) = some es) :
    ∃ ms, (∀ m ∈ ms, m.IsNote P Q n) ∧ Event.Builds es ms := by
  induction notes generalizing es with
  | nil =>
    obtain rfl := Option.some.inj hes
    exact ⟨[], List.forall_mem_nil _, .nil⟩
  | cons note rest ih =>
    obtain ⟨hnote, hrest⟩ := List.forall_mem_cons.1 hnotes
    rw [List.flatMap_cons] at hes
    obtain ⟨x, y, hx, hy, rfl⟩ := Mark.events?_append hes
    obtain ⟨m, hm, hbuilds⟩ := exists_note_of_events? hflow hnote hx
    obtain ⟨ms, hms, hbuilds'⟩ := ih hrest hy
    exact ⟨m :: ms, List.forall_mem_cons.2 ⟨hm, hms⟩, hbuilds.append hbuilds'⟩

/-- The nodes of marks of blocks, with the footnotes put behind them. -/
theorem isPart_of_place {ms : List (Mark Prose)} {notes : Notes} {ns : List Node}
    (h : Mark.Flat P n true ms) (hnotes : notes.Hold Q)
    (hes : Mark.events? (notes.place ms) = some es) (hns : Event.toNodes? es = some ns) :
    ∀ m ∈ ns, m.IsPart P Q n := by
  have hstands : ∀ m ∈ (Notes.divide ms false "" []).marks, m.Stands P n :=
    fun m hm => h.stands m (Notes.mem_of_mem_divide hm)
  have hflow {front : List Event} {nodes : List Node}
      (hfront : Mark.events? (Notes.divide ms false "" []).marks = some front)
      (hnodes : Event.toNodes? front = some nodes) : ∀ m ∈ nodes, m.IsPart P Q n := by
    have hbuilt := Event.forall_of_toNodes? (fun c l cs => Node.Built.around) hnodes
      (Mark.gives_of_stands hstands hfront)
    exact fun m hm => .block (hbuilt m hm)
  unfold Notes.place at hes
  dsimp only at hes
  split at hes
  · exact hflow hes hns
  · rw [List.append_assoc] at hes
    obtain ⟨front, back, hfront, hback, rfl⟩ := Mark.events?_append hes
    obtain ⟨x, y, hx, hy, rfl⟩ := Mark.events?_append hback
    obtain ⟨w, z, hw, hz, rfl⟩ := Mark.events?_cons hx
    obtain ⟨cs, hcs, hbuilds⟩ := exists_notes_of_events? (Notes.flat_blocks h)
      (fun note hnote => hnotes note (Array.mem_toList_iff.1 hnote)) hz
    obtain rfl := Option.some.inj hw
    obtain rfl := Option.some.inj hy
    -- the footnotes are complete, so that what stands in front of them is a tree of its own
    obtain ⟨nodes, hnodes, rfl⟩ :=
      Event.exists_of_build_append (hbuilds.around .footnoteBlock none _) hns
    exact List.forall_mem_append.2
      ⟨hflow hfront hnodes, List.forall_mem_singleton.2 (.notes hcs)⟩

end

/-- The tree of a text: each node below its root is a block with the texts that have been read, or has
the footnotes below it. -/
theorem read_shape {source : String} {root : Node} (h : read source = .ok root)
    {P : String → Option LineSpan → Prop} {n : Nat}
    (hblocks : Mark.Flat P n true
      (Block.readBlocks (normalizeText source.toList).toArray).marks.toList)
    {E : Event → Prop} {Q : Prose → Prop} (hE : Inline.Given
      (Block.readBlocks (normalizeText source.toList).toArray).references E Q) :
    ∃ ns, root = .node .root none ns ∧ ∀ m ∈ ns, m.IsPart (Prose.IsRead
      (Block.readBlocks (normalizeText source.toList).toArray).references P) Q n := by
  simp only [read] at h
  split at h
  · cases h
  · rename_i os hos
    split at h
    · cases h
    · rename_i ns hns
      obtain rfl := Except.ok.inj h
      have hevents := congrArg (Option.map List.reduceOption) hos
      obtain ⟨hflat, -, hnotes⟩ := hblocks.readProse hE
        (Notes.inner_iff_hold.2 (Notes.hold_ofLabels _)) (Notes.hold_ofLabels _)
      exact ⟨ns, rfl, isPart_of_place hflat hnotes hevents hns⟩

/-! ### Lines of a tree -/

namespace Node

variable {n k : Nat} {m : Node}

theorem Built.within {P : Prose → Option LineSpan → Prop} (h : m.Built P k) (hk : k ≤ n)
    (hP : ∀ p l, P p l → (∀ s ∈ l, s.1 < n) ∧ ∀ e ∈ p.events, e.Inner) : m.Within n := by
  induction h with
  | block own _ _ ih => exact .node (fun s hs => Nat.lt_of_lt_of_le (own.2 s hs) hk) ih
  | prose hp hns =>
    obtain ⟨hlines, hevents⟩ := hP _ _ hp
    exact .node hlines fun m hm => (inner_nodes? hns hevents m hm).within n

theorem IsPart.within {references : List (String × Reference)} {P : String → Option LineSpan → Prop}
    (h : m.IsPart (Prose.IsRead references P) Prose.Inner n) (hP : ∀ x l, P x l → ∀ s ∈ l, s.1 < n) :
    m.Within n := by
  have hbuilt {m : Node} (h : m.Built (Prose.IsRead references P) n) : m.Within n :=
    h.within (Nat.le_refl n) fun p l hp => ⟨hP _ _ hp.content, hp.inner⟩
  have hnone (s : LineSpan) (hs : s ∈ (none : Option LineSpan)) : s.1 < n := by cases hs
  cases h with
  | block h => exact hbuilt h
  | notes h =>
    refine .node hnone fun m hm => ?_
    cases h m hm with
    | labelled hcs => exact .node hnone fun m hm => hbuilt (hcs m hm)
    | written hcs =>
      refine .node hnone fun m hm => (hcs m hm).within (Nat.zero_le n) ?_
      rintro p l ⟨rfl, hevents⟩
      exact ⟨hnone, hevents⟩

end Node

end ProposalCheck.Markup
