import ProposalCheck.Proofs.Blocks
import ProposalCheck.Proofs.Declarations
import ProposalCheck.Proofs.Excerpts

/-!
# Places in the body

`Document.places_exist`: the places of a body start on lines of the document, so that their lines can
be shown and no rule about the body ends a run because a line is missing. Markdown also takes a
carriage return alone for the end of a line, which a document does not, and behind one a place may be
on no line at all (`Document.places_behind_return`).
-/

namespace ProposalCheck

/-! ### Computations that may fail -/

/-- Whatever a function applied to each item of a list gives, it gives on one of the items. -/
theorem exists_of_mem_mapM {ε α β : Type} {f : α → Except ε β} {xs : List α} {ys : List β}
    (h : xs.mapM f = .ok ys) : ∀ y ∈ ys, ∃ x ∈ xs, f x = .ok y := by
  induction xs generalizing ys with
  | nil =>
    obtain rfl : [] = ys := Except.ok.inj h
    simp
  | cons x rest ih =>
    rw [List.mapM_cons, bind_eq_ok] at h
    obtain ⟨y, hx, h⟩ := h
    obtain ⟨zs, hrest, h⟩ := bind_eq_ok.1 h
    obtain rfl : y :: zs = ys := Except.ok.inj h
    refine List.forall_mem_cons.2 ⟨⟨x, List.mem_cons_self, hx⟩, fun z hz => ?_⟩
    obtain ⟨w, hw, hfw⟩ := ih hrest z hz
    exact ⟨w, List.mem_cons_of_mem _ hw, hfw⟩

/-- A function fails on a list as it does on one of the items. -/
theorem exists_of_mapM_error {ε α β : Type} {f : α → Except ε β} {xs : List α} {e : ε}
    (h : xs.mapM f = .error e) : ∃ x ∈ xs, f x = .error e := by
  induction xs with
  | nil => cases h
  | cons x rest ih =>
    rw [List.mapM_cons] at h
    rcases bind_eq_error.1 h with hx | ⟨y, -, h⟩
    · exact ⟨x, List.mem_cons_self, hx⟩
    · rcases bind_eq_error.1 h with hrest | ⟨ys, -, h⟩
      · obtain ⟨z, hz, hfz⟩ := ih hrest
        exact ⟨z, List.mem_cons_of_mem _ hz, hfz⟩
      · cases h

namespace Document

variable {text : String} {origin : Option String} {path : Option Path} {d : Document}
  {p : Markup.Place}

theorem construct_of_read {source : String} {root : Markup.Node} (h : Markup.read source = .ok root) :
    root.construct = .root := by
  simp only [Markup.read] at h
  split at h
  · cases h
  · split at h
    · cases h
    · obtain rfl := Except.ok.inj h
      rfl

theorem read_empty : Markup.read "" = .ok (.node .root none []) := rfl

/-- A place that is not below the root is the root. -/
theorem mem_places_tail (h : parse text origin path = .ok d) (hp : p ∈ d.body.places)
    (hroot : p.construct ≠ .root) : p ∈ d.body.places.tail := by
  have hconstruct := construct_of_read (read_of_parse h)
  cases hbody : d.body with
  | node c l cs =>
    rw [hbody, Markup.Node.places, Markup.Node.placesIn] at hp
    rw [Markup.Node.places, Markup.Node.placesIn]
    rcases List.mem_cons.1 hp with rfl | hp
    · rw [hbody] at hconstruct
      exact absurd hconstruct hroot
    · exact hp

/-- The body of a document with places below the root is not empty, and has one line more than it has
line breaks. -/
theorem exists_bodyLines (h : parse text origin path = .ok d) (hp : p ∈ d.body.places.tail) :
    d.bodyLine + (d.bodySource.toList.count '\n' + 1) ≤ d.lines.length := by
  obtain ⟨lead, ps, rest, hsections⟩ := exists_sections h
  have hrest : rest ≠ [] := by
    rintro rfl
    have hread := read_of_parse h
    rw [hsections.body, Fence.unlines_nil] at hread
    obtain hbody : d.body = .node .root none [] := Except.ok.inj (hread.symm.trans read_empty)
    rw [hbody] at hp
    cases hp
  have hnolf : ∀ l ∈ rest, '\n' ∉ l := fun l hl => by
    have hmem : l ∈ d.lines := by
      rw [hsections.lines]
      simp [hl]
    exact Text.not_mem_of_mem_split hmem
  have hcount := Fence.count_unlines hrest hnolf
  rw [Text.count, ← hsections.body] at hcount
  rw [hcount, hsections.bodyLine, hsections.lines]
  simp
  omega

/-- A place below the root is on a line of the document, unless carriage returns alone end lines of
the body. -/
theorem nodeLine_le (h : parse text origin path = .ok d) (hp : p ∈ d.body.places.tail) :
    d.nodeLine p ≤ d.lines.length + Text.loneReturns d.bodySource.toList := by
  have hlines := exists_bodyLines h hp
  have hwithin := (Markup.within_read_lines (read_of_parse h)).places p (List.mem_of_mem_tail hp)
  unfold nodeLine
  cases hspan : p.lines with
  | none =>
    dsimp only
    omega
  | some span =>
    have hfirst := hwithin span hspan
    dsimp only
    omega

theorem exists_line {n : Int} (hpos : 1 ≤ n) (hle : n ≤ d.lines.length) :
    ∃ source, d.line n = .ok source := by
  have hlt : n.toNat - 1 < d.lines.length := by omega
  refine ⟨String.ofList d.lines[n.toNat - 1], ?_⟩
  rw [line_eq, if_neg (by omega), List.getElem?_eq_getElem hlt]

/-- The lines of a place can be read exactly if its first line is there. -/
theorem nodeText_isOk : (∃ source, d.nodeText p = .ok source) ↔ d.nodeLine p ≤ d.lines.length := by
  constructor
  · rintro ⟨source, hsource⟩
    obtain ⟨first, count, hline, hpos, hle, -⟩ := cutAt_of_nodeText hsource
    omega
  · intro hle
    unfold nodeLine at hle
    cases hp : p.lines with
    | none =>
      rw [hp] at hle
      rw [nodeText, hp]
      exact exists_line (by omega) (by omega)
    | some span =>
      rw [hp] at hle
      dsimp only at hle
      rw [nodeText_of_some d hp, if_neg (by omega)]
      exact ⟨_, rfl⟩

theorem excerpt_isOk (level : Level) (label : Option String) :
    (∃ x, d.excerpt p level label = .ok x) ↔ d.nodeLine p ≤ d.lines.length := by
  rw [← nodeText_isOk]
  constructor
  · rintro ⟨x, hx⟩
    obtain ⟨source, hsource, -⟩ := bind_eq_ok.1 hx
    exact ⟨source, hsource⟩
  · rintro ⟨source, hsource⟩
    exact ⟨_, bind_eq_ok.2 ⟨source, hsource, rfl⟩⟩

end Document

/-! ### Rules about the body -/

namespace Rule

variable {text : String} {origin : Option String} {path : Option Path} {c : Context} {slug : String}

namespace Prose

/-- How the pattern that the rule is set up with ends a run on a document: it cannot be read, or a
group of a match ends before it starts. -/
inductive Unfit (s : Setup) (d : Document) : Crash → Prop where
  | unreadable {e : PatternError} (h : Pattern.read s.pattern = .error e) : Unfit s d (.pattern e)
  | garbled {pattern : Pattern} {p : Markup.Place} {m : Pattern.Match}
      (hread : Pattern.read s.pattern = .ok pattern) (hp : p ∈ d.body.places)
      (hm : offence? pattern p.construct = some m) (hgarbled : pattern.isGarbled m) :
      Unfit s d .garbledGroup

theorem eq_pattern_of_stopOf {pattern : String} {e : PatternError} {x : Crash}
    (h : stopOf pattern e = .crash x) : x = .pattern e := by
  unfold stopOf at h
  split at h
  · cases h
  · exact (Stop.crash.inj h).symm

theorem nodeText_of_excerpt {d : Document} {p : Markup.Place} {level : Level}
    {label : Option String} {e : LineError} (h : d.excerpt p level label = .error e) :
    d.nodeText p = .error e := by
  rcases bind_eq_error.1 h with h | ⟨text, -, h⟩
  · exact h
  · cases h

/-- The rule stops at a node with nothing but a crash. -/
theorem crash_of_judge {s : Setup} {pattern : Pattern} {p : Markup.Place} {stop : Stop}
    (h : (judge s slug c pattern p).stop = some stop) :
    ∃ m, offence? pattern p.construct = some m ∧
      (pattern.isGarbled m = true ∧ stop = .crash .garbledGroup ∨
        ∃ e, c.document.nodeText p = .error e ∧ stop = .crash (.line e)) := by
  unfold judge at h
  cases hm : offence? pattern p.construct with
  | none =>
    rw [hm] at h
    cases h
  | some m =>
    refine ⟨m, rfl, ?_⟩
    rw [hm] at h
    dsimp only at h
    by_cases hgarbled : pattern.isGarbled m = true
    · rw [if_pos hgarbled] at h
      exact .inl ⟨hgarbled, (Option.some.inj h).symm⟩
    · rw [if_neg hgarbled, report] at h
      cases hexcerpt : c.document.excerpt p c.level none with
      | error e =>
        rw [hexcerpt] at h
        exact .inr ⟨e, nodeText_of_excerpt hexcerpt, (Option.some.inj h).symm⟩
      | ok snippet =>
        rw [hexcerpt] at h
        cases h

end Prose

/-- Only its pattern lets the rule about prose end a run, if every place below the root has a line. -/
theorem prose_unfit (s : Prose.Setup) (hparse : Document.parse text origin path = .ok c.document)
    (hplaces : ∀ p ∈ c.document.body.places.tail, c.document.nodeLine p ≤ c.document.lines.length)
    {x : Crash} (h : ((prose s).check slug c).stop = some (.crash x)) :
    Prose.Unfit s c.document x := by
  simp only [prose, Prose.check_eq] at h
  cases hread : Pattern.read s.pattern with
  | error e =>
    rw [hread] at h
    rw [Prose.eq_pattern_of_stopOf (Option.some.inj h)]
    exact .unreadable hread
  | ok pattern =>
    rw [hread] at h
    obtain ⟨f, hf, h⟩ := Findings.stop_concat h
    obtain ⟨p, hp, rfl⟩ := List.mem_map.1 hf
    replace hp := Prose.mem_places_of_mem_reached hp
    obtain ⟨m, hm, ⟨hgarbled, heq⟩ | ⟨e, hline, -⟩⟩ := Prose.crash_of_judge h
    · rw [Stop.crash.inj heq]
      exact .garbled hread hp hm hgarbled
    · have hroot : p.construct ≠ .root := by
        intro hroot
        rw [hroot] at hm
        cases hm
      have hfirst := hplaces p (Document.mem_places_tail hparse hp hroot)
      obtain ⟨shown, hshown⟩ := Document.nodeText_isOk.2 hfirst
      rw [hshown] at hline
      cases hline

namespace LinkStatus

/-- How a pattern that is found in a target ends a run: the first group is not there, took no part or is
no number that can be read, or a group ends before it starts. -/
inductive Misread (pattern : Pattern) (target : List Char) : Crash → Prop where
  | garbled {m : Pattern.Match} (hm : pattern.find? target.toArray = some m)
      (hgarbled : pattern.isGarbled m = true) : Misread pattern target .garbledGroup
  | noGroup {m : Pattern.Match} (hm : pattern.find? target.toArray = some m)
      (hgarbled : pattern.isGarbled m = false) (hgroups : pattern.groups = 0) :
    Misread pattern target .noGroup
  | emptyGroup {m : Pattern.Match} (hm : pattern.find? target.toArray = some m)
      (hgarbled : pattern.isGarbled m = false) (hgroups : pattern.groups ≠ 0)
      (hgroup : m.group? 1 = none) : Misread pattern target .emptyGroup
  | numeral {m : Pattern.Match} {i j : Nat} {e : Text.NumeralError}
      (hm : pattern.find? target.toArray = some m) (hgarbled : pattern.isGarbled m = false)
      (hgroups : pattern.groups ≠ 0) (hgroup : m.group? 1 = some (i, j))
      (hread : Text.Numeral.read (String.ofList ((target.drop i).take (j - i))) = .error e) :
    Misread pattern target (.numeral e)

theorem toProposal?_eq_error {pattern : Pattern} {link : Link} {x : Crash} :
    toProposal? pattern link = .error x ↔ Misread pattern link.target.toList x := by
  constructor
  · intro h
    unfold toProposal? at h
    dsimp only at h
    split at h
    · cases h
    · rename_i m hm
      split at h
      · rename_i hgarbled
        rw [← Except.error.inj h]
        exact .garbled hm hgarbled
      · rename_i hgarbled
        rw [Bool.not_eq_true] at hgarbled
        rcases bind_eq_error.1 h with h | ⟨n, -, h⟩
        · unfold number at h
          split at h
          · rename_i hgroups
            rw [← Except.error.inj h]
            exact .noGroup hm hgarbled (beq_iff_eq.1 hgroups)
          · rename_i hgroups
            replace hgroups : pattern.groups ≠ 0 := fun hzero => hgroups (beq_iff_eq.2 hzero)
            split at h
            · rename_i hgroup
              rw [← Except.error.inj h]
              exact .emptyGroup hm hgarbled hgroups hgroup
            · rename_i i j hgroup
              obtain ⟨e, hread, rfl⟩ := mapError_eq_error h
              exact .numeral hm hgarbled hgroups hgroup hread
        · cases h
  · intro h
    cases h with
    | garbled hm hgarbled =>
      simp [toProposal?, hm, hgarbled, throw, throwThe, MonadExceptOf.throw, bind, Except.bind]
    | noGroup hm hgarbled hgroups =>
      simp [toProposal?, hm, hgarbled, number, hgroups, bind, Except.bind]
    | emptyGroup hm hgarbled hgroups hgroup =>
      simp [toProposal?, hm, hgarbled, number, hgroups, hgroup, bind, Except.bind]
    | numeral hm hgarbled hgroups hgroup hread =>
      simp [toProposal?, hm, hgarbled, number, hgroups, hgroup, hread, bind, Except.bind,
        mapError_error]

theorem proposalLinks_of_unreadable {s : Setup} {d : Document} {e : PatternError}
    (h : Pattern.read s.pattern = .error e) : proposalLinks s d = .error (.pattern e) := by
  rw [proposalLinks, h]
  rfl

/-- What keeps the rule from telling the links to proposals is its pattern, or a target in which the
pattern is found. -/
theorem exists_of_proposalLinks_error {s : Setup} {d : Document} {x : Crash}
    (h : proposalLinks s d = .error x) :
    (∃ e, Pattern.read s.pattern = .error e ∧ x = .pattern e) ∨
      ∃ pattern, Pattern.read s.pattern = .ok pattern ∧
        ∃ link ∈ links d.body, Misread pattern link.target.toList x := by
  rcases bind_eq_error.1 h with h | ⟨pattern, hread, h⟩
  · obtain ⟨e, hread, rfl⟩ := mapError_eq_error h
    exact .inl ⟨e, hread, rfl⟩
  · rcases bind_eq_error.1 h with h | ⟨found, -, h⟩
    · obtain ⟨link, hlink, h⟩ := exists_of_mapM_error h
      exact .inr ⟨pattern, mapError_eq_ok.1 hread, link, hlink, toProposal?_eq_error.1 h⟩
    · cases h

theorem ne_line_of_proposalLinks {s : Setup} {d : Document} {x : Crash}
    (h : proposalLinks s d = .error x) (e : LineError) : x ≠ .line e := by
  rintro rfl
  obtain ⟨_, -, hx⟩ | ⟨_, -, _, -, hmisread⟩ := exists_of_proposalLinks_error h
  · cases hx
  · cases hmisread

theorem stop_discover {s : Setup} {d : Document} {x : Crash} (h : proposalLinks s d = .error x) :
    ((linkStatus s).discover d).stop = some (.crash x) := by
  simp only [linkStatus, discover, h]

theorem toLink_of_toProposal? {pattern : Pattern} {l : Link} {link : ProposalLink}
    (h : toProposal? pattern l = .ok (some link)) : link.toLink = l := by
  unfold toProposal? at h
  dsimp only at h
  split at h
  · cases h
  · split at h
    · cases h
    · obtain ⟨n, -, h⟩ := bind_eq_ok.1 h
      obtain rfl := Option.some.inj (Except.ok.inj h)
      rfl

/-- A link to a proposal is a link of the body. -/
theorem mem_links {s : Setup} {d : Document} {links : List ProposalLink} {link : ProposalLink}
    (h : proposalLinks s d = .ok links) (hlink : link ∈ links) :
    link.toLink ∈ LinkStatus.links d.body := by
  obtain ⟨pattern, -, h⟩ := bind_eq_ok.1 h
  obtain ⟨found, hfound, h⟩ := bind_eq_ok.1 h
  obtain rfl := Except.ok.inj h
  obtain ⟨o, ho, hsome⟩ := List.mem_filterMap.1 hlink
  obtain ⟨l, hl, heq⟩ := exists_of_mem_mapM hfound o ho
  rw [toLink_of_toProposal? (heq.trans (congrArg _ hsome))]
  exact hl

theorem place_mem_tail (hparse : Document.parse text origin path = .ok c.document) {l : Link}
    (h : l ∈ links c.document.body) : l.place ∈ c.document.body.places.tail := by
  obtain ⟨p, hp, hl⟩ := List.mem_filterMap.1 h
  split at hl
  · rename_i target title hconstruct
    obtain rfl := Option.some.inj hl
    refine Document.mem_places_tail hparse hp ?_
    rw [hconstruct]
    exact nofun
  · cases hl

/-- The line of a link is there if the first line of its place is. -/
theorem exists_snippet {l : Link} (h : c.document.nodeLine l.place ≤ c.document.lines.length) :
    ∃ x, snippet c l = .ok x := by
  obtain ⟨source, hsource⟩ := Document.nodeText_isOk.2 h
  obtain ⟨first, count, hfirst, hpos, hle, hcut⟩ := Document.cutAt_of_nodeText hsource
  have hcount : (Text.lines source).length = count := by
    have hne : (c.document.lines.drop first).take count ≠ [] := by
      rw [Ne, List.take_eq_nil_iff, List.drop_eq_nil_iff, not_or]
      omega
    have hnolf : ∀ x ∈ (c.document.lines.drop first).take count, '\n' ∉ x := fun x hx =>
      Text.not_mem_of_mem_split (List.mem_of_mem_drop (List.mem_of_mem_take hx))
    rw [Text.lines, Text.splitOn, List.length_map, hcut]
    refine (congrArg List.length (Fence.charLines_unlines hne hnolf)).trans ?_
    rw [List.length_take, List.length_drop]
    omega
  have hline : ∃ n, line c.document l = .ok n ∧ n ≤ c.document.lines.length ∧ 1 ≤ n := by
    refine ⟨_, bind_eq_ok.2 ⟨source, hsource, rfl⟩, ?_⟩
    split
    · rw [Option.getD_none]
      omega
    · cases hfound : (Text.lines source).findIdx? (Text.occursIn l.target) with
      | none =>
        rw [Option.getD_none]
        omega
      | some i =>
        have hi := (List.findIdx?_eq_some_iff_findIdx_eq.1 hfound).1
        rw [Option.getD_some]
        omega
  obtain ⟨n, hn, hle, hpos⟩ := hline
  obtain ⟨shown, hshown⟩ := Document.exists_line (d := c.document) (n := n) (by omega) (by omega)
  exact ⟨_, bind_eq_ok.2 ⟨n, hn, bind_eq_ok.2 ⟨shown, hshown, rfl⟩⟩⟩

/-- A link is not shown only if the lines of its place cannot be read. -/
theorem nodeText_of_snippet {l : Link} {e : LineError} (h : snippet c l = .error e) :
    c.document.nodeText l.place = .error e := by
  cases htext : c.document.nodeText l.place with
  | ok text =>
    obtain ⟨shown, hshown⟩ := exists_snippet (Document.nodeText_isOk.1 ⟨text, htext⟩)
    rw [hshown] at h
    cases h
  | error e' =>
    rw [snippet, line, htext] at h
    obtain rfl : e' = e := Except.error.inj h
    rfl

end LinkStatus

/-- The rule about links ends no run that it has not ended before, when it was asked for what it
needs, if every place below the root has a line. -/
theorem linkStatus_crash (s : LinkStatus.Setup)
    (hparse : Document.parse text origin path = .ok c.document)
    (hplaces : ∀ p ∈ c.document.body.places.tail, c.document.nodeLine p ≤ c.document.lines.length)
    {x : Crash} (h : ((linkStatus s).check slug c).stop = some (.crash x)) :
    LinkStatus.proposalLinks s c.document = .error x := by
  simp only [linkStatus, LinkStatus.check] at h
  cases hlinks : LinkStatus.proposalLinks s c.document with
  | error y =>
    rw [hlinks] at h
    rw [Stop.crash.inj (Option.some.inj h)]
  | ok links =>
    rw [hlinks] at h
    obtain ⟨lowest, link, hlink, h⟩ := LinkStatus.stop_judgeAll h
    have hplace := LinkStatus.place_mem_tail hparse (LinkStatus.mem_links hlinks hlink)
    obtain ⟨shown, hshown⟩ := LinkStatus.exists_snippet (hplaces _ hplace)
    rcases LinkStatus.stop_judge h with ⟨e, hnot, -⟩ | ⟨r, -, heq⟩
    · rw [hshown] at hnot
      cases hnot
    · cases heq

end Rule

namespace Document

/-- Every place below the root of a body starts on a line of the document and can be shown, if no line
of the body ends in a carriage return alone; each such line moves what follows it one further down
than it is. Then no rule about the body ends a run for want of a line: the one about prose does so by
its pattern only, and the one about links only if its discovery did, which looks at no line. -/
theorem places_exist {text : String} {origin : Option String} {path : Option Path} {d : Document}
    (hparse : parse text origin path = .ok d) :
    (∀ p ∈ d.body.places.tail,
      d.nodeLine p ≤ d.lines.length + Text.loneReturns d.bodySource.toList) ∧
    (Text.loneReturns d.bodySource.toList = 0 → ∀ p ∈ d.body.places.tail,
      1 ≤ d.nodeLine p ∧ d.nodeLine p ≤ d.lines.length ∧ (∃ source, d.nodeText p = .ok source) ∧
        ∀ level label, ∃ x, d.excerpt p level label = .ok x) ∧
    (Text.loneReturns d.bodySource.toList = 0 → ∀ slug c x, c.document = d →
      (∀ s, ((Rule.prose s).check slug c).stop = some (.crash x) → Rule.Prose.Unfit s d x) ∧
        ∀ s, ((Rule.linkStatus s).check slug c).stop = some (.crash x) →
          ((Rule.linkStatus s).discover d).stop = some (.crash x) ∧ ∀ e, x ≠ .line e) := by
  have hle : ∀ p ∈ d.body.places.tail,
      d.nodeLine p ≤ d.lines.length + Text.loneReturns d.bodySource.toList :=
    fun p hp => nodeLine_le hparse hp
  refine ⟨hle, fun hreturns p hp => ?_, ?_⟩
  · have hline : d.nodeLine p ≤ d.lines.length := by simpa [hreturns] using hle p hp
    exact ⟨Nat.le_add_left 1 _, hline, nodeText_isOk.2 hline,
      fun level label => (excerpt_isOk level label).2 hline⟩
  · rintro hreturns slug c x rfl
    have hlines : ∀ p ∈ c.document.body.places.tail,
        c.document.nodeLine p ≤ c.document.lines.length := fun p hp => by
      simpa [hreturns] using hle p hp
    refine ⟨fun s hstop => Rule.prose_unfit s hparse hlines hstop, fun s hstop => ?_⟩
    have hlinks := Rule.linkStatus_crash s hparse hlines hstop
    exact ⟨Rule.LinkStatus.stop_discover hlinks, Rule.LinkStatus.ne_line_of_proposalLinks hlinks⟩

theorem places_exist_draft :
    ∃ d, parse "---\na: b\n---\n> one\r\ntwo" none none = .ok d ∧
      d.body.places.tail ≠ [] ∧
      ∀ p ∈ d.body.places.tail, 1 ≤ d.nodeLine p ∧ d.nodeLine p ≤ d.lines.length ∧
        (∃ source, d.nodeText p = .ok source) ∧
        ∀ level label, ∃ x, d.excerpt p level label = .ok x := by
  have hread : (parse "---\na: b\n---\n> one\r\ntwo" none none).toOption.map (fun d =>
      (d.body.places.tail.isEmpty, Text.loneReturns d.bodySource.toList)) = some (false, 0) := by
    decide +kernel
  cases hparse : parse "---\na: b\n---\n> one\r\ntwo" none none with
  | error e =>
    rw [hparse] at hread
    cases hread
  | ok d =>
    rw [hparse] at hread
    obtain ⟨hempty, hreturns⟩ := Prod.mk.inj (Option.some.inj hread)
    refine ⟨d, rfl, fun hnil => ?_, (places_exist hparse).2.1 hreturns⟩
    rw [hnil] at hempty
    cases hempty

/-- A carriage return alone ends a line of Markdown and no line of the document, so that a text behind
it may be on no line, and the rule about prose ends the run. -/
theorem places_behind_return :
    ∃ d, parse "---\na: b\n---\na\r\rb" none none = .ok d ∧
      (∃ p ∈ d.body.places.tail, ¬ (d.nodeLine p ≤ d.lines.length) ∧
        ¬ ∃ source, d.nodeText p = .ok source) ∧
      ¬ Stop.Benign ((Rule.prose { pattern := "b", message := "no b" }).check "markdown-re"
        { document := d, cache := .empty, level := .error, settings := {} }).stop := by
  have hshown : (parse "---\na: b\n---\na\r\rb" none none).toOption.map (fun d =>
      (d.body.places.tail.any fun p => !decide (d.nodeLine p ≤ d.lines.length),
        Linter.isBenign ((Rule.prose { pattern := "b", message := "no b" }).check "markdown-re"
          { document := d, cache := .empty, level := .error, settings := {} }).stop))
      = some (true, false) := by decide +kernel
  cases hparse : parse "---\na: b\n---\na\r\rb" none none with
  | error e =>
    rw [hparse] at hshown
    cases hshown
  | ok d =>
    rw [hparse] at hshown
    obtain ⟨hplace, hstop⟩ := Prod.mk.inj (Option.some.inj hshown)
    refine ⟨d, rfl, ?_, fun hbenign => ?_⟩
    · obtain ⟨p, hp, hline⟩ := List.any_eq_true.1 hplace
      have hpast : ¬ (d.nodeLine p ≤ d.lines.length) := by simpa using hline
      exact ⟨p, hp, hpast, fun h => hpast (nodeText_isOk.1 h)⟩
    · rw [Linter.isBenign_iff.2 hbenign] at hstop
      cases hstop

end Document

end ProposalCheck
