import ProposalCheck.Proofs.FirstLines
import ProposalCheck.Proofs.LinkAdvice
import ProposalCheck.Proofs.LinkTraces
import ProposalCheck.Proofs.Origins

/-!
# The lines of links

A link is shown on the first line of its block that has its target, or on the first line of all if none has
it. `Rule.LinkStatus.check_lines`: for a link that is written on one line as `[label](inside)`, this is the
line that holds the link exactly if the target is on none of the lines of the block in front of it, provided
that the target is stored as it is written. So the second one of two links to the same target is shown on the
line of the first one (`Rule.LinkStatus.check_lines_repeated`).

The argument goes from the tree to the source. The links of a text come into it in order
(`Prose.traces_nodes?`), the lines of the text stand on lines of the body that follow each other
(`Markup.LinedUp`), and behind the preamble the lines of the document are those of the body
(`Document.drop_bodyLine`).
-/

namespace ProposalCheck

/-! ### Lines as they are read -/

namespace Markup

/-- Where no character has been replaced, a line has what Markdown reads. -/
theorem infix_of_map_replaceNull {part l : List Char} (h : part <:+: l.map replaceNull)
    (hpart : '\uFFFD' ∉ part) : part <:+: l := by
  obtain ⟨before, after, heq⟩ := h
  obtain ⟨l', after', rfl, hl', -⟩ := List.map_eq_append_iff.1 heq.symm
  obtain ⟨before', part', rfl, -, hpart'⟩ := List.map_eq_append_iff.1 hl'
  have hnull : '\x00' ∉ part' := fun hmem => hpart (hpart' ▸ List.mem_map_of_mem hmem)
  rw [map_replaceNull hnull] at hpart'
  exact hpart' ▸ ⟨before', after', rfl⟩

/-! ### Texts and their links -/

namespace InlineLink

variable {w : InlineLink} {cs : List Char}

/-- The number of line breaks of a text in front of a link. -/
def row (text : Array Char) (w : InlineLink) : Nat :=
  (slice text 0 w.start).count '\n'

theorem StandsIn.infix_inside {text : Array Char} (h : w.StandsIn text) :
    w.inside text <:+: w.source text := by
  rw [h.source_eq]
  exact ⟨_, [')'], rfl⟩

/-- A link that is written on one line stands on the line of the text that is as far down as there are line
breaks in front of it. -/
theorem StandsIn.exists_line (h : w.StandsIn cs.toArray) (hline : '\n' ∉ w.source cs.toArray) :
    ∃ l, (Text.charLines cs)[w.row cs.toArray]? = some l ∧
      w.source cs.toArray <:+: l.dropWhile (· == ' ') := by
  have hlabel := h.label_le
  have hinside := h.inside_le
  have hsize := (Array.getElem?_eq_some_iff.1 h.ending).1
  have hcs : slice cs.toArray 0 w.start ++ w.source cs.toArray
      ++ slice cs.toArray (w.stop + 1) cs.toArray.size = cs := by
    rw [source, slice_append _ (Nat.zero_le _) (by omega), slice_append _ (Nat.zero_le _) hsize]
    simp [slice_eq]
  have hfirst : (Text.charLines (w.source cs.toArray))[0]? = some (w.source cs.toArray) := by
    rw [Text.charLines_of_not_mem hline]
    rfl
  obtain ⟨l, hl, hheld⟩ := Text.exists_line_append (slice cs.toArray 0 w.start) (w.source cs.toArray)
    (slice cs.toArray (w.stop + 1) cs.toArray.size) hfirst
  rw [hcs] at hl
  refine ⟨l, hl, ?_⟩
  have hdrop : (w.source cs.toArray).dropWhile (· == ' ') = w.source cs.toArray := by
    rw [h.source_eq]
    rfl
  exact hdrop ▸ infix_dropWhile _ hheld

end InlineLink

/-- The site of a text of a source, which has been read from some of its lines. -/
structure Site.IsText (source : String) (s : Site) (p : Prose) (span : LineSpan) : Prop where
  read : p.IsRead (Block.readBlocks (normalizeText source.toList).toArray).references
    (IsTextOf source) (some span)
  node : ∃ ns, p.nodes? = some ns ∧ s.place.node = .node .inline (some span) ns

/-- Around what is inside a text is the site of the text. -/
theorem Site.Inside.exists_isText {source : String} {root : Node} {s : Site} {p : Prose} {span : LineSpan}
    (h : s.Inside source p span) (hs : s ∈ root.sites) (hconstruct : s.place.construct ≠ .inline) :
    ∃ t ∈ root.sites, t.IsText source p span ∧ s.place ∈ t.place.node.placesIn t.place.lines := by
  obtain ⟨ns, hns, hmem⟩ := h.around
  have haround : .node .inline (some span) ns ∈ s.around := by
    refine List.mem_of_ne_of_mem (fun heq => hconstruct ?_) hmem
    rw [Place.construct, ← heq]
    rfl
  rcases Node.exists_site_around root s hs _ haround with hnil | ⟨t, ht, hnode, hplace⟩
  · cases hnil
  · exact ⟨t, ht, ⟨h.read, ns, hns, hnode⟩, hnode ▸ hplace⟩

/-- What belongs to a text is on its lines. -/
theorem Site.IsText.lines {source : String} {s : Site} {p : Prose} {span : LineSpan}
    (h : s.IsText source p span) : ∀ q ∈ s.place.node.placesIn s.place.lines, q.lines = some span := by
  obtain ⟨ns, hns, hnode⟩ := h.node
  rw [hnode, Node.placesIn]
  refine List.forall_mem_cons.2 ⟨rfl, fun q hq => ?_⟩
  have hinner : (Node.node .inline none ns).Inner := .node ⟨rfl, rfl⟩ (inner_nodes? hns h.read.inner)
  exact hinner.lines_places q (List.mem_cons_of_mem _ hq)

end Markup

namespace Document

/-- The labels that are defined in the body. -/
def references (d : Document) : List (String × Markup.Reference) :=
  (Markup.Block.readBlocks (Markup.normalizeText d.bodySource.toList).toArray).references

/-- A line of a text that is lined up on lines of the body is a part of a line of the document, as Markdown
reads it. -/
theorem exists_line_of_linedUp {d : Document} {text : String} {origin : Option String} {path : Option Path}
    {p : Markup.Place} {span : Markup.LineSpan} {skipped k : Nat} {cs l : List Char}
    (hparse : parse text origin path = .ok d) (hp : p ∈ d.body.places.tail)
    (hfence : d.lines.head? = some ['-', '-', '-']) (hreturns : Text.loneReturns d.bodySource.toList = 0)
    (h : Markup.LinedUp (Markup.sourceLines d.bodySource) span skipped cs)
    (hl : (Text.charLines cs)[k]? = some l) (hne : l.dropWhile (· == ' ') ≠ []) :
    span.1 + skipped + k < span.2 ∧
      ∃ shown, d.line (span.1 + skipped + k + d.bodyLine + 1 : Nat) = .ok shown ∧
        l.dropWhile (· == ' ') <:+: shown.toList.map Markup.replaceNull := by
  obtain ⟨hlt, hheld⟩ := h k l hl
  refine ⟨hlt, ?_⟩
  generalize span.1 + skipped + k = i at hheld
  have hnormal := Markup.charLines_normalizeText hreturns
  rw [← drop_bodyLine hparse hp hfence] at hnormal
  cases hline : (Markup.sourceLines d.bodySource)[i]? with
  | none =>
    rw [hline] at hheld
    exact absurd (List.infix_nil.1 hheld) hne
  | some source =>
    rw [hline, Option.getD_some] at hheld
    obtain ⟨hi, rfl⟩ := List.getElem?_eq_some_iff.1 hline
    have hi' : i < ((d.lines.drop d.bodyLine).map (List.map Markup.replaceNull)).length :=
      hnormal.length_eq ▸ hi
    have hprefix := hnormal.get hi hi'
    rw [List.get_eq_getElem, List.get_eq_getElem, List.getElem_map, List.getElem_drop] at hprefix
    rw [List.length_map, List.length_drop] at hi'
    refine ⟨String.ofList d.lines[d.bodyLine + i], line_succ.2 ?_, ?_⟩
    · rw [String.toList_ofList, Nat.add_comm i]
      exact List.getElem?_eq_getElem (by omega)
    · rw [String.toList_ofList]
      exact hheld.trans hprefix.isInfix

end Document

namespace Rule.LinkStatus

open Markup (Site Node Place Prose InlineLink)

/-- The links at some places in order. -/
def linksAt (ps : List Place) : List Link :=
  ps.filterMap fun p =>
    match p.construct with
    | .link target _ => some { place := p, target }
    | _ => none

theorem links_eq (body : Node) : links body = linksAt body.places := rfl

theorem mem_linksAt {ps : List Place} {l : Link} :
    l ∈ linksAt ps ↔ l.place ∈ ps ∧ ∃ title, l.place.construct = .link l.target title := by
  rw [linksAt, List.mem_filterMap]
  constructor
  · rintro ⟨p, hp, hl⟩
    split at hl
    · rename_i target title hconstruct
      obtain rfl := Option.some.inj hl
      exact ⟨hp, title, hconstruct⟩
    · cases hl
  · rintro ⟨hp, title, hconstruct⟩
    exact ⟨l.place, hp, by rw [hconstruct]⟩

theorem map_target_linksAt (outer : Option Markup.LineSpan) (n : Node) :
    (linksAt (n.placesIn outer)).map (·.target) = n.linkTargets := by
  rw [← Node.filterMap_placesIn outer, linksAt, List.map_filterMap]
  refine List.filterMap_congr fun p _ => ?_
  cases p.construct <;> rfl

/-- A link is shown on the first line of its block that has its target, or else on the first one. -/
theorem firstWith_of_line {d : Document} {l : Link} {first last n : Nat}
    (hlines : l.place.lines = some (first, last)) (h : line d l = .ok n) :
    d.FirstWith (first + d.bodyLine + 1) (Nat.max last (first + 1) - first) l.target.toList n := by
  obtain ⟨shown, hshown, hn⟩ := bind_eq_ok.1 h
  have hfirst : d.nodeLine l.place = first + d.bodyLine + 1 := by rw [Document.nodeLine, hlines]
  have hsplit : Text.lines shown = (Text.charLines shown.toList).map String.ofList := rfl
  obtain rfl := Except.ok.inj hn
  rw [hfirst, hsplit, List.findIdx?_map]
  by_cases hempty : l.target.isEmpty = true
  · rw [if_pos hempty, String.isEmpty_iff.1 hempty]
    exact Document.firstWith_nil hlines hshown
  · rw [if_neg hempty]
    refine Document.firstWith_findIdx? hlines hshown (fun hnil => hempty ?_) fun cs => ?_
    · exact String.isEmpty_iff.2 (String.toList_eq_nil_iff.1 hnil)
    · rw [Function.comp_apply, Text.occursIn_iff, String.toList_ofList]

/-- The links at a site and below it, in order. -/
def linksIn (s : Site) : List Link :=
  linksAt (s.place.node.placesIn s.place.lines)

theorem mem_links_of_mem_linksIn {body : Node} {s : Site} {l : Link} (hs : s ∈ body.sites)
    (hl : l ∈ linksIn s) : l ∈ links body := by
  obtain ⟨hplace, hconstruct⟩ := mem_linksAt.1 hl
  exact mem_linksAt.2 ⟨Node.mem_places_of_site hs _ hplace, hconstruct⟩

/-- A link that is written in a text on some lines of the body stands on a line `m` of the document, and is
shown on the first line of the block that has its target, or else on its first line. If the target is stored
as it is written, this is the right line exactly if no line in front of it has the target as well. -/
structure Link.Shown (d : Document) (text : Array Char) (span : Markup.LineSpan) (l : Link) (w : InlineLink)
    (m n : Nat) : Prop where
  holds : ∃ shown, d.line m = .ok shown ∧ w.source text <:+: shown.toList.map Markup.replaceNull
  within : span.1 + d.bodyLine + 1 ≤ m ∧ m ≤ span.2 + d.bodyLine
  first : d.FirstWith (span.1 + d.bodyLine + 1) (span.2 - span.1) l.target.toList n
  right_iff : l.target.toList <:+: w.inside text →
    (n = m ↔ ∀ j, span.1 + d.bodyLine + 1 ≤ j → j < m → ¬ d.Has j l.target.toList)

section

variable {text : String} {origin : Option String} {path : Option Path} {d : Document} {i : Site} {p : Prose}
  {span : Markup.LineSpan} {skipped n : Nat} {l : Link} {w : InlineLink}

theorem place_mem_tail_of_isText (hparse : Document.parse text origin path = .ok d) (hi : i ∈ d.body.sites)
    (htext : i.IsText d.bodySource p span) : i.place ∈ d.body.places.tail := by
  refine Document.mem_places_tail hparse ?_ ?_
  · rw [← Node.map_place_sites]
    exact List.mem_map_of_mem hi
  · obtain ⟨ns, -, hnode⟩ := htext.node
    rw [Place.construct, hnode]
    exact fun h => by cases h

theorem shown_of_linedUp (hparse : Document.parse text origin path = .ok d) (hi : i ∈ d.body.sites)
    (htext : i.IsText d.bodySource p span) (hfence : d.lines.head? = some ['-', '-', '-'])
    (hreturns : Text.loneReturns d.bodySource.toList = 0)
    (hlined : Markup.LinedUp (Markup.sourceLines d.bodySource) span skipped p.content.toList)
    (hl : l ∈ linksIn i) (hw : w.StandsIn p.content.toList.toArray)
    (hleads : Markup.LeadsTo (w.inside p.content.toList.toArray) l.target.toList)
    (hsource : '\n' ∉ w.source p.content.toList.toArray) (hn : line d l = .ok n) :
    l.Shown d p.content.toList.toArray span w
      (span.1 + d.bodyLine + 1 + skipped + w.row p.content.toList.toArray) n := by
  have hplace : l.place ∈ i.place.node.placesIn i.place.lines := (mem_linksAt.1 hl).1
  have htail := place_mem_tail_of_isText hparse hi htext
  obtain ⟨row, hrow, hheld⟩ := hw.exists_line hsource
  have hne : row.dropWhile (· == ' ') ≠ [] := by
    intro hnil
    rw [hnil, hw.source_eq] at hheld
    cases List.infix_nil.1 hheld
  obtain ⟨hlt, shown, hshown, hpart⟩ :=
    Document.exists_line_of_linedUp hparse htail hfence hreturns hlined hrow hne
  generalize w.row p.content.toList.toArray = k at hlt hshown
  have hm : span.1 + skipped + k + d.bodyLine + 1 = span.1 + d.bodyLine + 1 + skipped + k := by omega
  rw [hm] at hshown
  have hcount : Nat.max span.2 (span.1 + 1) - span.1 = span.2 - span.1 := by
    rw [show Nat.max span.2 (span.1 + 1) = span.2 from Nat.max_eq_left (by omega)]
  have hfirst := firstWith_of_line (htext.lines l.place hplace) hn
  rw [hcount] at hfirst
  refine ⟨⟨shown, hshown, hheld.trans hpart⟩, by omega, hfirst, fun hinside => ?_⟩
  refine hfirst.eq_iff (by omega) (by omega) ⟨shown, hshown, ?_⟩
  exact Markup.infix_of_map_replaceNull
    ((hinside.trans hw.infix_inside).trans (hheld.trans hpart)) hleads.replacement_not_mem

theorem exists_line_of_snippet {c : Context} {x : Snippet} (h : snippet c l = .ok x) :
    ∃ n : Nat, line c.document l = .ok n ∧ x.lineStart = n := by
  obtain ⟨n, hn, h⟩ := bind_eq_ok.1 h
  obtain ⟨shown, -, h⟩ := bind_eq_ok.1 h
  obtain rfl := Except.ok.inj h
  exact ⟨n, hn, rfl⟩

/-- What is on no lines is shown on the first line of the body. -/
theorem line_of_none (hlines : l.place.lines = none) (h : line d l = .ok n) : n = d.bodyLine + 1 := by
  obtain ⟨shown, hshown, hn⟩ := bind_eq_ok.1 h
  rw [Document.nodeText, hlines] at hshown
  have hlf : '\n' ∉ shown.toList :=
    d.lineFeed_not_mem _ (List.mem_of_getElem? (Document.line_succ (k := d.bodyLine).1 hshown))
  have hsingle : Text.lines shown = [shown] := by
    rw [Text.lines, Text.splitOn, ← Text.charLines, Text.charLines_of_not_mem hlf]
    simp
  obtain rfl := Except.ok.inj hn
  rw [hsingle, Document.nodeLine, hlines]
  cases htarget : l.target.isEmpty <;> cases hoccurs : Text.occursIn l.target shown <;> simp_all

/-- What is on a single line is shown on this line. -/
theorem line_of_single (hlines : l.place.lines = some span) (hone : span.2 = span.1 + 1)
    (h : line d l = .ok n) : n = span.1 + d.bodyLine + 1 := by
  have hfirst := firstWith_of_line hlines h
  have hcount : Nat.max span.2 (span.1 + 1) - span.1 = 1 := by
    rw [hone, show Nat.max (span.1 + 1) (span.1 + 1) = span.1 + 1 from Nat.max_self _]
    omega
  rw [hcount] at hfirst
  exact hfirst.eq_start

/-- The links of a text that is on some lines of the body, each with how it comes into the text, in order. A
link that is written in the text on one line is shown as `Link.Shown` says, where the lines of the text stand
on lines of the document from `first` on; or the text is on a single line, and so is the link. -/
structure Linked (c : Context) (i : Site) (p : Prose) (span : Markup.LineSpan)
    (ws : List (Option InlineLink)) (first : Nat) : Prop where
  stems : List.Forall₂ (fun l o => p.Stems c.document.references l.target o) (linksIn i) ws
  ascending : ws.reduceOption.Pairwise fun w w' => w.start < w'.start
  shown : ∀ (k : Nat) (l : Link) (w : InlineLink), (linksIn i)[k]? = some l → ws[k]? = some (some w) →
    '\n' ∉ w.source p.content.toList.toArray → ∃ (x : Snippet) (n : Nat), snippet c l = .ok x ∧
      x.lineStart = n ∧ (span.2 = span.1 + 1 ∧ n = span.1 + c.document.bodyLine + 1 ∨
        l.Shown c.document p.content.toList.toArray span w (first + w.row p.content.toList.toArray) n)

variable {s : Setup} {slug : String} {c : Context}

theorem exists_snippet_of_mem (hparse : Document.parse text origin path = .ok c.document)
    (hreturns : Text.loneReturns c.document.bodySource.toList = 0) (hl : l ∈ links c.document.body) :
    ∃ x, snippet c l = .ok x := by
  have hline := Document.nodeLine_le hparse (place_mem_tail hparse hl)
  exact exists_snippet (by omega)

theorem exists_linked (hparse : Document.parse text origin path = .ok c.document)
    (hi : i ∈ c.document.body.sites) (htext : i.IsText c.document.bodySource p span)
    (hfence : c.document.lines.head? = some ['-', '-', '-'])
    (hreturns : Text.loneReturns c.document.bodySource.toList = 0) :
    ∃ ws first, Linked c i p span ws first := by
  obtain ⟨ns, hns, hnode⟩ := htext.node
  obtain ⟨ws, hws, hascending⟩ := Prose.traces_nodes? htext.read hns
  have htargets : (linksIn i).map (·.target) = ns.flatMap Node.linkTargets := by
    rw [linksIn, map_target_linksAt, hnode, Node.linkTargets_node]
    rfl
  rw [← htargets, List.forall₂_map_left_iff] at hws
  have hsnippet {k : Nat} {l : Link} (hl : (linksIn i)[k]? = some l) :
      ∃ (x : Snippet) (n : Nat), snippet c l = .ok x ∧ line c.document l = .ok n ∧ x.lineStart = n := by
    obtain ⟨x, hx⟩ :=
      exists_snippet_of_mem hparse hreturns (mem_links_of_mem_linksIn hi (List.mem_of_getElem? hl))
    obtain ⟨n, hn, hstart⟩ := exists_line_of_snippet hx
    exact ⟨x, n, hx, hn, hstart⟩
  obtain ⟨span', hspan, -, -, hlaid⟩ :=
    (Markup.Block.flat_readBlocks _).stands _ (Array.mem_toList_iff.2 htext.read.content.mark)
  obtain rfl := Option.some.inj hspan
  rcases hlaid with hone | ⟨skipped, hlined⟩
  · refine ⟨ws, 0, hws, hascending, fun k l w hl _ _ => ?_⟩
    obtain ⟨x, n, hx, hn, hstart⟩ := hsnippet hl
    have hplace := (mem_linksAt.1 (List.mem_of_getElem? hl)).1
    exact ⟨x, n, hx, hstart, .inl ⟨hone, line_of_single (htext.lines l.place hplace) hone hn⟩⟩
  · refine ⟨ws, span.1 + c.document.bodyLine + 1 + skipped, hws, hascending, fun k l w hl hw hsource => ?_⟩
    obtain ⟨x, n, hx, hn, hstart⟩ := hsnippet hl
    obtain ⟨hk, hl'⟩ := List.getElem?_eq_some_iff.1 hl
    obtain ⟨hk', hw'⟩ := List.getElem?_eq_some_iff.1 hw
    have hstems := hws.get hk hk'
    rw [List.get_eq_getElem, List.get_eq_getElem, hl', hw'] at hstems
    rcases hstems with hcomes | ⟨hnone, -⟩
    · cases hcomes with
      | written hstands hleads =>
        exact ⟨x, n, hx, hstart, .inr (shown_of_linedUp hparse hi htext hfence hreturns hlined
          (List.mem_of_getElem? hl) hstands hleads hsource hn)⟩
    · cases hnone

/-- Each message is about a link of the body. -/
theorem exists_link_of_mem {m : Message} (hm : m ∈ (check s slug c).messages) :
    ∃ l ∈ links c.document.body, ∃ x, snippet c l = .ok x ∧ m.snippets = [x] := by
  obtain ⟨ls, hls, hm⟩ := Findings.mem_messages_ofExcept hm
  obtain ⟨judged, rest, rfl, hsays, -⟩ := judgeAll_behind s slug c [] ls
  obtain ⟨front, l, after, rfl, x, hx, hwarns⟩ := hsays.exists_of_mem hm
  refine ⟨l.toLink, mem_links (mapError_eq_ok.1 hls) (by simp), x, hx, ?_⟩
  rcases hwarns with ⟨e, -, rfl⟩ | ⟨t, listed, -, -, -, rfl⟩ <;> rfl

end

/-- Each message shows a link of the body. A link in a footnote that is written in its place is shown on the
first line of the body; any other link belongs to a text, and the links of a text are shown as `Linked`
says. So a link that is written on one line of a block of several lines is shown on the first line of the
block that has its target. If the target is stored as it is written, this is the line of the link exactly if
the target is on no line of the block in front of it. -/
theorem check_lines (s : Setup) (slug : String) {c : Context} {text : String} {origin : Option String}
    {path : Option Path} (hparse : Document.parse text origin path = .ok c.document)
    (hfence : c.document.lines.head? = some ['-', '-', '-'])
    (hreturns : Text.loneReturns c.document.bodySource.toList = 0) :
    (∀ m ∈ (check s slug c).messages, ∃ l ∈ links c.document.body, ∃ x, snippet c l = .ok x ∧
      m.snippets = [x]) ∧
    (∀ l ∈ links c.document.body, ∃ t ∈ c.document.body.sites, t.place = l.place ∧
      (Node.AnyWritten t.around → ∃ x, snippet c l = .ok x ∧ x.lineStart = c.document.bodyLine + 1) ∧
      (¬ Node.AnyWritten t.around → ∃ i ∈ c.document.body.sites, ∃ p span,
        i.IsText c.document.bodySource p span ∧ l ∈ linksIn i)) ∧
    ∀ i ∈ c.document.body.sites, ∀ p span, i.IsText c.document.bodySource p span →
      ∃ ws first, Linked c i p span ws first := by
  refine ⟨fun m hm => exists_link_of_mem hm, fun l hl => ?_, fun i hi p span htext =>
    exists_linked hparse hi htext hfence hreturns⟩
  obtain ⟨hplace, title, hconstruct⟩ := mem_linksAt.1 (links_eq c.document.body ▸ hl)
  rw [← Node.map_place_sites, List.mem_map] at hplace
  obtain ⟨t, ht, hplace⟩ := hplace
  have hlink : t.place.construct = .link l.target title := hplace ▸ hconstruct
  obtain ⟨hin, hout⟩ := Markup.inside_of_read (Document.read_of_parse hparse) ht (by rw [hlink]; rfl)
  refine ⟨t, ht, hplace, fun hwritten => ?_, fun hnot => ?_⟩
  · obtain ⟨x, hx⟩ := exists_snippet_of_mem hparse hreturns hl
    obtain ⟨n, hn, hstart⟩ := exists_line_of_snippet hx
    rw [line_of_none (hplace ▸ hin hwritten) hn] at hstart
    exact ⟨x, hx, by simpa using hstart⟩
  · obtain ⟨p, span, hinside⟩ := hout hnot
    obtain ⟨i, hi, htext, hmem⟩ := hinside.exists_isText ht (by rw [hlink]; exact nofun)
    exact ⟨i, hi, p, span, htext, mem_linksAt.2 ⟨hplace ▸ hmem, title, hconstruct⟩⟩

/-- A final proposal with links to drafts or to proposals in review in its body. -/
def linkingIn (body : String) : Context where
  document := RequiredStatus.documentAt "eip-9.md" ("---\nstatus: Final\n---\n" ++ body)
  cache := linking.cache
  level := .error
  settings := {}

theorem check_lines_two : ∃ c, (check fourTiers "links" c).messages.map (fun m =>
      m.snippets.map fun x => (x.lineStart, x.source)) = [[(4, "[a](eip-1.md)")], [(5, "[b](eip-2.md)")]] ∧
    ∃ i ∈ c.document.body.sites, ∃ p span, i.IsText c.document.bodySource p span ∧ linksIn i ≠ [] ∧
      ∃ ws first, Linked c i p span ws first := by
  have hshown : let c := linkingIn "[a](eip-1.md)\n[b](eip-2.md)\n"
      ((check fourTiers "links" c).messages.map fun m => m.snippets.map fun x => (x.lineStart, x.source))
        = [[(4, "[a](eip-1.md)")], [(5, "[b](eip-2.md)")]] ∧
      (c.document.lines.head? = some ['-', '-', '-'] ∧
        Text.loneReturns c.document.bodySource.toList = 0 ∧ (links c.document.body).isEmpty = false) ∧
      (c.document.body.sites.all fun t => t.around.all fun m => m.construct != .footnote none) = true := by
    decide +kernel
  obtain ⟨hmessages, ⟨hfence, hreturns, hlinks⟩, hsites⟩ := hshown
  have hparse := RequiredStatus.parse_documentAt "eip-9.md"
    ("---\nstatus: Final\n---\n" ++ "[a](eip-1.md)\n[b](eip-2.md)\n") (by decide +kernel)
  obtain ⟨-, hplaces, htexts⟩ := check_lines fourTiers "links"
    (c := linkingIn "[a](eip-1.md)\n[b](eip-2.md)\n") hparse hfence hreturns
  obtain ⟨l, hl⟩ := List.exists_mem_of_ne_nil _ (List.isEmpty_eq_false_iff.1 hlinks)
  obtain ⟨t, ht, -, -, hnot⟩ := hplaces l hl
  obtain ⟨i, hi, p, span, htext, hmem⟩ := hnot fun ⟨m, hm, hwritten⟩ => by
    have hm' := List.all_eq_true.1 (List.all_eq_true.1 hsites t ht) m hm
    rw [hwritten] at hm'
    cases hm'
  exact ⟨_, hmessages, i, hi, p, span, htext, List.ne_nil_of_mem hmem, htexts i hi p span htext⟩

/-- The second one of two links to the same draft stands on line 5, and its message shows line 4, on which
the first one stands. -/
theorem check_lines_repeated : let c := linkingIn "[a](eip-1.md)\n[b](eip-1.md)\n"
    (links c.document.body).map (fun l => (l.target, l.place.node.children.map Node.construct))
      = [("eip-1.md", [.text "a"]), ("eip-1.md", [.text "b"])] ∧
    (c.document.line 5).toOption = some "[b](eip-1.md)" ∧
    (check fourTiers "links" c).messages.map (fun m => m.snippets.map fun x => (x.lineStart, x.source))
      = [[(4, "[a](eip-1.md)")], [(4, "[a](eip-1.md)")]] := by
  decide +kernel

end Rule.LinkStatus

end ProposalCheck
