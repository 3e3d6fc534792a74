import Mathlib.Data.List.Forall2
import ProposalCheck.Proofs.Places

/-!
# Where the nodes inside texts come from

`Document.inside_places`: a node inside the text of a block is on the lines on which that text is
written. A footnote that is written in its place is moved to the end of the tree without lines, so
that whatever is inside it is on no lines, and counts as if it were on the first line of the body
(`Document.inside_places_written`).

The argument follows the tree down. `Markup.Stage` says what can stand at a site, and `Stage.below` is
the step from a node to its children.
-/

namespace ProposalCheck.Markup

/-! ### What stands at a site -/

/-- One of some nodes is a footnote that is written in its place. -/
def Node.AnyWritten (ms : List Node) : Prop :=
  ∃ m ∈ ms, m.construct = .footnote none

theorem Construct.isInline_of_isBlock {c : Construct} (h : c.isBlock = true) : c.isInline = false := by
  cases c <;> simp_all [isBlock, isInline]

/-- One of some nodes is a text on some lines that satisfies a condition. -/
def Node.AnyText (P : Prose → Option LineSpan → Prop) (ms : List Node) (span : LineSpan) : Prop :=
  ∃ p ns, P p (some span) ∧ p.nodes? = some ns ∧ .node .inline (some span) ns ∈ ms

/-- What can stand inside some nodes with the lines `outer` in the tree of a text. -/
inductive Stage (P : Prose → Option LineSpan → Prop) (n : Nat) (around : List Node)
    (outer : Option LineSpan) : Node → Prop
  | root {ns : List Node} (houter : outer = none) (hout : ¬ Node.AnyWritten around)
      (h : ∀ m ∈ ns, m.IsPart P Prose.Inner n) : Stage P n around outer (.node .root none ns)
  | notes {ns : List Node} (houter : outer = none) (hout : ¬ Node.AnyWritten around)
      (h : ∀ m ∈ ns, m.IsNote P Prose.Inner n) : Stage P n around outer (.node .footnoteBlock none ns)
  | note {m : Node} (houter : outer = none) (hout : ¬ Node.AnyWritten around) (h : m.IsNote P Prose.Inner n) :
      Stage P n around outer m
  | block {m : Node} (hout : ¬ Node.AnyWritten around) (h : m.Built P n) : Stage P n around outer m
  /-- Inside a text of a block. -/
  | inside {m : Node} {span : LineSpan} (houter : outer = some span) (hout : ¬ Node.AnyWritten around)
      (htext : Node.AnyText P around span) (h : m.Inner) : Stage P n around outer m
  /-- Inside a footnote that is written in its place. -/
  | written {m : Node} (houter : outer = none) (hin : Node.AnyWritten around)
      (h : m.Built (Prose.Loose Prose.Inner) 0 ∨ m.Inner) : Stage P n around outer m

section

variable {P : Prose → Option LineSpan → Prop} {n : Nat} {around : List Node}
  {outer l : Option LineSpan} {c : Construct} {cs : List Node}

theorem Node.anyWritten_cons (m : Node) (ms : List Node) :
    AnyWritten (m :: ms) ↔ m.construct = .footnote none ∨ AnyWritten ms := by
  simp [AnyWritten]

theorem Node.not_anyWritten_cons {ms : List Node} (h : ¬ AnyWritten ms) (hc : c ≠ .footnote none) :
    ¬ AnyWritten (.node c l cs :: ms) := fun hany =>
  ((anyWritten_cons _ ms).1 hany).elim hc h

theorem Construct.ne_footnote_of_isBlock (h : c.isBlock = true) : c ≠ .footnote none := by
  rintro rfl
  cases h

theorem Construct.ne_footnote_of_isInline (h : c.isInline = true) : c ≠ .footnote none := by
  rintro rfl
  cases h

theorem Node.lines_of_isBlock_zero (h : Node.IsBlock 0 c l) : l = none := by
  cases l with
  | none => rfl
  | some s => exact absurd (h.2 s rfl) (Nat.not_lt_zero _)

/-- What can stand below a node. -/
theorem Stage.below (hP : ∀ p l, P p l → (∃ span, l = some span) ∧ ∀ e ∈ p.events, e.Inner)
    (h : Stage P n around outer (.node c l cs)) :
    ∀ m ∈ cs, Stage P n (.node c l cs :: around) (l <|> outer) m := by
  intro m hm
  cases h with
  | root houter hout h =>
    have hout' : ¬ Node.AnyWritten (.node .root none cs :: around) :=
      Node.not_anyWritten_cons hout (by simp)
    cases h m hm with
    | block h => exact .block hout' h
    | notes h => exact .notes houter hout' h
  | notes houter hout h =>
    exact .note houter (Node.not_anyWritten_cons hout (by simp)) (h m hm)
  | note houter hout h =>
    cases h with
    | labelled h => exact .block (Node.not_anyWritten_cons hout (by simp)) (h m hm)
    | written h =>
      exact .written houter ((Node.anyWritten_cons _ _).2 (.inl rfl)) (.inl (h m hm))
  | block hout h =>
    cases h with
    | block own _ h =>
      exact .block (Node.not_anyWritten_cons hout (Construct.ne_footnote_of_isBlock own.1)) (h m hm)
    | @prose p _ _ hp hns =>
      obtain ⟨⟨span, rfl⟩, hevents⟩ := hP p l hp
      refine .inside rfl (Node.not_anyWritten_cons hout (by simp)) ?_ (inner_nodes? hns hevents m hm)
      exact ⟨p, cs, hp, hns, List.mem_cons_self⟩
  | inside houter hout htext h =>
    cases h with
    | node own h =>
      obtain ⟨hinline, rfl⟩ := own
      obtain ⟨p, ns, hp, hns, hmem⟩ := htext
      refine .inside houter
        (Node.not_anyWritten_cons hout (Construct.ne_footnote_of_isInline hinline)) ?_ (h m hm)
      exact ⟨p, ns, hp, hns, List.mem_cons_of_mem _ hmem⟩
  | written houter hin h =>
    have hin' : Node.AnyWritten (.node c l cs :: around) := (Node.anyWritten_cons _ _).2 (.inr hin)
    rcases h with h | h
    · cases h with
      | block own _ h =>
        -- no line is below the first one
        obtain rfl := Node.lines_of_isBlock_zero own
        exact .written houter hin' (.inl (h m hm))
      | prose hp hns =>
        obtain ⟨rfl, hevents⟩ := hp
        exact .written houter hin' (.inr (inner_nodes? hns hevents m hm))
    · cases h with
      | node own h =>
        obtain ⟨-, rfl⟩ := own
        exact .written houter hin' (.inr (h m hm))

/-- The lines of what belongs to a text are those of the text, or none inside a footnote that is
written in its place. -/
theorem Stage.lines_inline {m : Node} (hP : ∀ p l, P p l → ∃ span, l = some span)
    (h : Stage P n around outer m) (hinline : m.construct.isInline = true) :
    (Node.AnyWritten around → (m.lines <|> outer) = none) ∧
      (¬ Node.AnyWritten around →
        ∃ span, Node.AnyText P (m :: around) span ∧ (m.lines <|> outer) = some span) := by
  have hblock {c : Construct} (hc : c.isBlock = true) (hinline : c.isInline = true) : False := by
    rw [Construct.isInline_of_isBlock hc] at hinline
    cases hinline
  cases h with
  | root | notes => cases hinline
  | note _ _ h => cases h <;> cases hinline
  | block hout h =>
    refine ⟨fun hin => absurd hin hout, fun _ => ?_⟩
    cases h with
    | block own _ _ => exact (hblock own.1 hinline).elim
    | @prose p l ns hp hns =>
      obtain ⟨span, rfl⟩ := hP p l hp
      exact ⟨span, ⟨p, ns, hp, hns, List.mem_cons_self⟩, rfl⟩
  | @inside _ span houter hout htext h =>
    refine ⟨fun hin => absurd hin hout, fun _ => ?_⟩
    cases h with
    | node own _ =>
      obtain ⟨-, rfl⟩ := own
      obtain ⟨p, ns, hp, hns, hmem⟩ := htext
      exact ⟨span, ⟨p, ns, hp, hns, List.mem_cons_of_mem _ hmem⟩, houter⟩
  | written houter hin h =>
    refine ⟨fun _ => ?_, fun hout => absurd hin hout⟩
    rcases h with h | h
    · cases h with
      | block own _ _ => exact (hblock own.1 hinline).elim
      | prose hp _ =>
        obtain ⟨rfl, -⟩ := hp
        exact houter
    · cases h with
      | node own _ =>
        obtain ⟨-, rfl⟩ := own
        exact houter

end

/-! ### Texts of a source -/

/-- The lines of a source, where a carriage return ends a line as well. -/
def sourceLines (source : String) : List (List Char) :=
  Text.charLines (normalizeText source.toList)

/-- A text that a block of a source has on some lines, and that is written on them. -/
structure IsTextOf (source content : String) (l : Option LineSpan) : Prop where
  mark : .prose content l ∈ (Block.readBlocks (normalizeText source.toList).toArray).marks
  placed : Placed (sourceLines source) content l

theorem flat_textsOf (source : String) : Mark.Flat (IsTextOf source) (sourceLines source).length true
    (Block.readBlocks (normalizeText source.toList).toArray).marks.toList :=
  (Block.flat_readBlocks _).imp fun _ _ hx hp => ⟨Array.mem_toList_iff.1 hx, hp.placed⟩

/-- A site inside a text of a source: reading the text has given a node around the site, or at it, and
the site is on the lines of the text. -/
structure Site.Inside (source : String) (s : Site) (p : Prose) (span : LineSpan) : Prop where
  read : p.IsRead (Block.readBlocks (normalizeText source.toList).toArray).references
    (IsTextOf source) (some span)
  around : ∃ ns, p.nodes? = some ns ∧ .node .inline (some span) ns ∈ s.place.node :: s.around
  lines : s.place.lines = some span

/-- What belongs to the inside of a text is on the lines on which a block of the source has this text,
or it is in a footnote that is written in its place and on no lines. -/
theorem inside_of_read {source : String} {root : Node} (h : read source = .ok root) {s : Site}
    (hs : s ∈ root.sites) (hinline : s.place.construct.isInline = true) :
    (Node.AnyWritten s.around → s.place.lines = none) ∧
      (¬ Node.AnyWritten s.around → ∃ p span, s.Inside source p span) := by
  obtain ⟨ns, rfl, hns⟩ := read_shape h (flat_textsOf source) (Inline.given_inner _)
  have hroot : Stage _ _ [] none (.node .root none ns) := .root rfl (by simp [Node.AnyWritten]) hns
  have hlines {references : List (String × Reference)} (p : Prose) (l : Option LineSpan)
      (hp : p.IsRead references (IsTextOf source) l) : ∃ span, l = some span := by
    obtain ⟨span, hspan, -⟩ := hp.content.placed
    exact ⟨span, hspan⟩
  obtain ⟨outer, houter, hstage⟩ := Node.forall_sitesIn
    (fun _ _ _ _ _ => Stage.below fun p l hp => ⟨hlines p l hp, hp.inner⟩) _ hroot s hs
  obtain ⟨hin, hout⟩ := hstage.lines_inline hlines hinline
  rw [houter]
  refine ⟨hin, fun hnot => ?_⟩
  obtain ⟨span, ⟨p, ns, hp, hns, hmem⟩, hspan⟩ := hout hnot
  exact ⟨p, span, hp, ⟨ns, hns, hmem⟩, houter.trans hspan⟩

end ProposalCheck.Markup

namespace ProposalCheck

/-! ### Lines of the source -/

namespace Markup

/-- A character as Markdown reads it. -/
def replaceNull (c : Char) : Char :=
  if c == '\x00' then '\uFFFD' else c

theorem map_replaceNull {cs : List Char} (h : '\x00' ∉ cs) : cs.map replaceNull = cs := by
  refine (List.map_congr_left fun c hc => ?_).trans cs.map_id
  have hne : c ≠ '\x00' := fun heq => h (heq ▸ hc)
  simp [replaceNull, hne]

/-- Without carriage returns alone, the lines of a source are those of its text with null characters
replaced, less the carriage returns at their ends. -/
theorem charLines_normalizeText {cs : List Char} (hreturns : Text.loneReturns cs = 0) :
    List.Forall₂ (· <+: ·) (Text.charLines (normalizeText cs))
      ((Text.charLines cs).map (List.map replaceNull)) := by
  fun_induction normalizeText cs with
  | case1 => exact .cons (List.prefix_refl _) .nil
  | case2 r ih =>
    have hlines : Text.charLines ('\r' :: '\n' :: r) = ['\r'] :: Text.charLines r :=
      Text.charLines_append (l := ['\r']) (by decide) r
    rw [hlines, Text.charLines_lineFeed]
    exact .cons List.nil_prefix (ih hreturns)
  | case3 c r hpair ih =>
    have hcount : Text.loneReturns (c :: r) = (if c == '\r' then 1 else 0) + Text.loneReturns r := by
      rw [Text.loneReturns]
      exact hpair
    rw [hcount] at hreturns
    have hc : c ≠ '\r' := by
      rintro rfl
      simp at hreturns
    have hrest := ih (by omega)
    rw [if_neg (by simpa using hc)]
    change List.Forall₂ _ (Text.charLines (replaceNull c :: normalizeText r)) _
    by_cases hlf : c = '\n'
    · subst hlf
      exact .cons (List.prefix_refl _) hrest
    · have hlf' : replaceNull c ≠ '\n' := by
        unfold replaceNull
        split
        · decide
        · exact hlf
      obtain ⟨l, ls, hl⟩ := Text.exists_charLines (normalizeText r)
      obtain ⟨l', ls', hl'⟩ := Text.exists_charLines r
      rw [hl, hl'] at hrest
      rw [Text.charLines_cons hlf' hl, Text.charLines_cons hlf hl']
      obtain ⟨hfirst, hmore⟩ := List.forall₂_cons.1 hrest
      exact .cons (List.cons_prefix_cons.2 ⟨rfl, hfirst⟩) hmore

theorem flatten_sublist {as bs : List (List Char)} (h : List.Forall₂ (· <+: ·) as bs) :
    as.flatten.Sublist bs.flatten := by
  induction h with
  | nil => exact List.Sublist.refl _
  | cons hab _ ih => exact hab.sublist.append ih

theorem WrittenOn.of_forall₂ {as bs : List (List Char)} {span : LineSpan} {cs : List Char}
    (h : List.Forall₂ (· <+: ·) as bs) (hcs : WrittenOn as span cs) : WrittenOn bs span cs :=
  hcs.trans (flatten_sublist (List.forall₂_take _ (List.forall₂_drop _ h)))

end Markup

open Markup (Site Node WrittenOn ink)

theorem Fence.flatten_sublist_unlines (ls : List (List Char)) :
    ls.flatten.Sublist (Fence.unlines ls) := by
  induction ls with
  | nil => exact List.nil_sublist _
  | cons l rest ih =>
    cases rest with
    | nil => simp
    | cons l' rest =>
      rw [Fence.unlines_cons_cons, List.flatten_cons]
      exact (List.Sublist.refl l).append (ih.trans (List.sublist_cons_self _ _))

namespace Document

variable {text : String} {origin : Option String} {path : Option Path} {d : Document}
  {p : Markup.Place} {span : Markup.LineSpan}

theorem ink_trimLineFeeds (cs : List Char) : ink (trimLineFeeds cs) = ink cs := by
  induction cs using List.reverseRecOn with
  | nil => rfl
  | append_singleton init c ih =>
    by_cases hc : c = '\n'
    · rw [hc, trimLineFeeds_concat, ih, Markup.ink_append]
      exact (List.append_nil _).symm
    · rw [trimLineFeeds_of_not_mem init (List.cons_ne_nil c []) (by simpa using Ne.symm hc)]

/-- Behind the preamble of a document that starts with a fence are the lines of its body. -/
theorem drop_bodyLine (hparse : parse text origin path = .ok d) (hp : p ∈ d.body.places.tail)
    (hfence : d.lines.head? = some ['-', '-', '-']) :
    d.lines.drop d.bodyLine = Text.charLines d.bodySource.toList := by
  have hlength := exists_bodyLines hparse hp
  obtain ⟨lead, ps, rest, hsections⟩ := exists_sections hparse
  obtain rfl : lead = [] := by
    rcases hsections.leading with rfl | rfl
    · rfl
    · rw [hsections.lines] at hfence
      cases hfence
  have hdrop : d.lines.drop d.bodyLine = rest := by
    rw [hsections.lines, hsections.bodyLine]
    simp
  have hrest : rest ≠ [] := by
    rintro rfl
    have hshort := List.drop_eq_nil_iff.1 hdrop
    omega
  have hnolf : ∀ l ∈ rest, '\n' ∉ l := fun l hl =>
    Text.not_mem_of_mem_split (List.mem_of_mem_drop (hdrop ▸ hl) : l ∈ d.lines)
  rw [hdrop, hsections.body, String.toList_ofList, Fence.charLines_unlines hrest hnolf]

/-- What is shown of a place below the root has the text that is written on its lines. -/
theorem exists_nodeText (hparse : parse text origin path = .ok d) (hp : p ∈ d.body.places.tail)
    (hfence : d.lines.head? = some ['-', '-', '-']) (hreturns : Text.loneReturns d.bodySource.toList = 0)
    (hnull : '\x00' ∉ d.bodySource.toList) (hspan : p.lines = some span) {cs : List Char}
    (hcs : WrittenOn (Markup.sourceLines d.bodySource) span cs) :
    ∃ shown, d.nodeText p = .ok shown ∧ (ink cs).Sublist shown.toList := by
  have hline := nodeLine_le hparse hp
  have hread : (Text.charLines d.bodySource.toList).map (List.map Markup.replaceNull)
      = Text.charLines d.bodySource.toList := by
    refine (List.map_congr_left fun l hl => Markup.map_replaceNull fun hmem => hnull ?_).trans (List.map_id _)
    rw [← Fence.unlines_charLines d.bodySource.toList]
    exact (Fence.flatten_sublist_unlines _).mem (List.mem_flatten_of_mem hl hmem)
  have hwritten := hcs.of_forall₂ (hread ▸ Markup.charLines_normalizeText hreturns)
  rw [← drop_bodyLine hparse hp hfence] at hwritten
  obtain ⟨first, last⟩ := span
  have hstart : ¬ d.lines.length ≤ first + d.bodyLine := by
    rw [nodeLine, hspan] at hline
    dsimp only at hline
    omega
  have hmore : last - first ≤ Nat.max last (first + 1) - first :=
    Nat.sub_le_sub_right (Nat.le_max_left _ _) _
  have hlines := hwritten.trans ((List.take_sublist_take_left hmore).flatten.trans
    (Fence.flatten_sublist_unlines _))
  rw [List.drop_drop, Nat.add_comm d.bodyLine] at hlines
  have hshown := Markup.ink_mono hlines
  rw [Markup.ink_ink, ← ink_trimLineFeeds (Fence.unlines _)] at hshown
  refine ⟨_, by rw [nodeText_of_some d hspan]; exact if_neg hstart, ?_⟩
  rw [String.toList_ofList]
  exact hshown.trans (Markup.ink_sublist _)

/-- Every node that belongs to the inside of a text is on the lines on which a block of the body has this
text, and in a document that starts with a fence its text is among what is shown of these lines,
unless a carriage return alone ends a line or a null character is replaced. Only what is in a footnote
that is written in its place is on no lines, and counts as if it were on the first line of the
body. -/
theorem inside_places (hparse : parse text origin path = .ok d) :
    d.body.sites.map Site.place = d.body.places ∧
    ∀ s ∈ d.body.sites, s.place.construct.isInline = true →
      (Node.AnyWritten s.around → s.place.lines = none ∧ d.nodeLine s.place = d.bodyLine + 1 ∧
        d.nodeText s.place = d.line (d.bodyLine + 1)) ∧
      (¬ Node.AnyWritten s.around → ∃ p span, s.Inside d.bodySource p span ∧
        d.nodeLine s.place = span.1 + d.bodyLine + 1 ∧
        (d.lines.head? = some ['-', '-', '-'] → Text.loneReturns d.bodySource.toList = 0 →
          '\x00' ∉ d.bodySource.toList → ∃ shown, d.nodeText s.place = .ok shown ∧
            (ink p.content.toList).Sublist shown.toList)) := by
  refine ⟨Node.map_place_sites d.body, fun s hs hinline => ?_⟩
  obtain ⟨hin, hout⟩ := Markup.inside_of_read (read_of_parse hparse) hs hinline
  refine ⟨fun hwritten => ?_, fun hnot => ?_⟩
  · have hlines := hin hwritten
    refine ⟨hlines, ?_, ?_⟩
    · rw [nodeLine, hlines, Nat.zero_add]
    · rw [nodeText, hlines]
  · obtain ⟨p, span, hinside⟩ := hout hnot
    have hplace : s.place ∈ d.body.places := by
      rw [← Node.map_place_sites]
      exact List.mem_map_of_mem hs
    have htail := mem_places_tail hparse hplace fun hroot => by
      rw [hroot] at hinline
      cases hinline
    refine ⟨p, span, hinside, ?_, fun hfence hreturns hnull => ?_⟩
    · rw [nodeLine, hinside.lines]
    · obtain ⟨span', hspan, -, hplaced⟩ := hinside.read.content.placed
      obtain rfl := Option.some.inj hspan
      exact exists_nodeText hparse htail hfence hreturns hnull hinside.lines hplaced

theorem inside_places_quoted :
    ∃ d, parse "---\na: b\n---\n\n> one\n> \x60two\x60\n" none none = .ok d ∧
      ∃ s ∈ d.body.sites, s.place.construct = .code "two" ∧ d.nodeLine s.place = 5 ∧
        ∃ p span, s.Inside d.bodySource p span ∧ d.nodeLine s.place = span.1 + d.bodyLine + 1 ∧
          ∃ shown, d.nodeText s.place = .ok shown ∧ (ink p.content.toList).Sublist shown.toList := by
  have hread : (parse "---\na: b\n---\n\n> one\n> \x60two\x60\n" none none).toOption.map (fun d =>
      (d.body.sites.any fun s => s.place.construct == .code "two" && d.nodeLine s.place == 5
          && !s.around.any (·.construct == .footnote none),
        d.lines.head?, Text.loneReturns d.bodySource.toList, d.bodySource.toList.contains '\x00'))
      = some (true, some ['-', '-', '-'], 0, false) := by decide +kernel
  cases hparse : parse "---\na: b\n---\n\n> one\n> \x60two\x60\n" none none with
  | error e =>
    rw [hparse] at hread
    cases hread
  | ok d =>
    rw [hparse] at hread
    simp only [Except.toOption, Option.map_some, Option.some.injEq, Prod.mk.injEq] at hread
    obtain ⟨hsite, hfence, hreturns, hnull⟩ := hread
    obtain ⟨s, hs, hsite⟩ := List.any_eq_true.1 hsite
    simp only [Bool.and_eq_true, beq_iff_eq, Bool.not_eq_true', List.any_eq_false] at hsite
    obtain ⟨⟨hcode, hline⟩, hout⟩ := hsite
    have hinline : s.place.construct.isInline = true := by rw [hcode]; rfl
    have hnot : ¬ Node.AnyWritten s.around := by
      rintro ⟨m, hm, hwritten⟩
      exact hout m hm hwritten
    obtain ⟨p, span, hinside, hnode, hshown⟩ := ((inside_places hparse).2 s hs hinline).2 hnot
    exact ⟨d, rfl, s, hs, hcode, hline, p, span, hinside, hnode,
      hshown hfence hreturns (by simpa using hnull)⟩

/-- A text in a footnote that is written in its place is on no lines, although it is written on line 6:
what the rule about prose says about it is said about line 4, the first one of the body. -/
theorem inside_places_written :
    ∃ d, parse "---\na: b\n---\na\n\nb^[c]\n" none none = .ok d ∧
      (¬ ∀ p ∈ d.body.places, p.construct.isInline = true → ∃ span, p.lines = some span) ∧
      ((Rule.prose { pattern := "c", message := "no c" }).check "markdown-re"
        { document := d, cache := .empty, level := .error, settings := {} }).messages.map
          (fun m => m.snippets.map fun x => (x.lineStart, x.source)) = [[(4, "a")]] := by
  have hshown : (parse "---\na: b\n---\na\n\nb^[c]\n" none none).toOption.map (fun d =>
      (d.body.places.any fun p => p.construct.isInline && p.lines.isNone,
        ((Rule.prose { pattern := "c", message := "no c" }).check "markdown-re"
          { document := d, cache := .empty, level := .error, settings := {} }).messages.map
            fun m => m.snippets.map fun x => (x.lineStart, x.source)))
      = some (true, [[(4, "a")]]) := by decide +kernel
  cases hparse : parse "---\na: b\n---\na\n\nb^[c]\n" none none with
  | error e =>
    rw [hparse] at hshown
    cases hshown
  | ok d =>
    rw [hparse] at hshown
    simp only [Except.toOption, Option.map_some, Option.some.injEq, Prod.mk.injEq] at hshown
    obtain ⟨hlost, hreport⟩ := hshown
    refine ⟨d, rfl, fun hall => ?_, hreport⟩
    obtain ⟨p, hp, hlost⟩ := List.any_eq_true.1 hlost
    obtain ⟨hinline, hnone⟩ := Bool.and_eq_true_iff.1 hlost
    obtain ⟨span, hspan⟩ := hall p hp hinline
    rw [hspan] at hnone
    cases hnone

end Document

end ProposalCheck
