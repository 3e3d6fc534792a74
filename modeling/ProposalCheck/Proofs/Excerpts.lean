import ProposalCheck.Proofs.LineAccess
import ProposalCheck.Proofs.Malformed
import ProposalCheck.Proofs.Prose
import ProposalCheck.Proofs.Visits

/-!
# Excerpts

Every message of a shipped rule carries the slug of the rule and the level at which the rule reports,
and shows whole lines of the text with ranges that split no character:
`Linter.findings_faithful`. The lines that are shown have the number that is said, but for lines of
the preamble behind an empty first line, which are said to be one further up than they are
(`Shipped.shift`).
-/

namespace ProposalCheck

/-! ### Ranges -/

namespace Text

/-- A byte offset between two characters, or at an end of the text. -/
def IsBoundary (cs : List Char) (i : Int) : Prop :=
  ∃ before after, cs = before ++ after ∧ i = byteLength before

theorem isBoundary_byteOffset (cs : List Char) (index : Int) :
    IsBoundary cs (byteOffset cs index) :=
  ⟨_, _, (List.take_append_drop index.toNat cs).symm, rfl⟩

theorem byteLength_take_le (cs : List Char) {m n : Nat} (h : m ≤ n) :
    byteLength (cs.take m) ≤ byteLength (cs.take n) := by
  obtain ⟨k, rfl⟩ := Nat.exists_eq_add_of_le h
  rw [List.take_add, byteLength_append]
  exact Nat.le_add_right _ _

theorem byteOffset_le (cs : List Char) (index : Int) : byteOffset cs index ≤ byteLength cs := by
  conv => rhs; rw [← List.take_append_drop index.toNat cs, byteLength_append]
  exact Nat.le_add_right _ _

end Text

/-- The range of an annotation lies in a text and splits no character. -/
structure Highlight.Fits (a : Highlight) (source : String) : Prop where
  nonneg : 0 ≤ a.start
  start_le : a.start ≤ a.stop
  stop_le : a.stop ≤ Text.byteLength source.toList
  start_boundary : Text.IsBoundary source.toList a.start
  stop_boundary : Text.IsBoundary source.toList a.stop

theorem Level.spanChars_fits (level : Level) (text : String) (start : Int) {length : Int}
    (h : 0 ≤ length) : (level.spanChars text start length).Fits text where
  nonneg := Int.natCast_nonneg _
  start_le := by
    have hle : start.toNat ≤ (start + length).toNat := by omega
    exact Int.ofNat_le.2 (Text.byteLength_take_le _ hle)
  stop_le := Int.ofNat_le.2 (Text.byteOffset_le _ _)
  start_boundary := Text.isBoundary_byteOffset _ _
  stop_boundary := Text.isBoundary_byteOffset _ _

theorem Highlight.Fits.labelled {a : Highlight} {source : String} (h : a.Fits source)
    (label : Option String) : ({ a with label } : Highlight).Fits source :=
  ⟨h.nonneg, h.start_le, h.stop_le, h.start_boundary, h.stop_boundary⟩

theorem Level.labelled_fits (level : Level) (text : String) (start : Int) (length : Nat)
    (label : Option String) :
    ({ level.spanChars text start length with label } : Highlight).Fits text :=
  (level.spanChars_fits text start (Int.natCast_nonneg length)).labelled label

/-! ### Lines -/

/-- An excerpt shows whole lines of a text, which are `shift` lines further down than it says, and its
annotations lie in them. -/
structure Snippet.Shows (x : Snippet) (text : String) (origin : Option String) (shift : Nat) :
    Prop where
  origin : x.origin = origin
  lines : ∃ first count : Nat, x.lineStart = first + 1 ∧ 0 < count ∧
    first + shift + count ≤ (Text.lines text).length ∧
    x.source = Text.unlines (((Text.lines text).drop (first + shift)).take count)
  annotations : ∀ a ∈ x.annotations, a.Fits x.source

/-- A message of a rule about a text has the slug and the level of the rule, and its excerpts show
lines of the text. -/
structure Message.Faithful (m : Message) (slug : String) (level : Level) (text : String)
    (origin : Option String) (shift : Nat) : Prop where
  id : m.id = some slug
  level : m.level = level
  snippets : ∀ x ∈ m.snippets, x.Shows text origin shift

namespace Document

/-- The lines from a position on, as a text. -/
def CutAt (d : Document) (first count : Nat) (source : String) : Prop :=
  0 < count ∧ first + count ≤ d.lines.length ∧
    source.toList = Fence.unlines ((d.lines.drop first).take count)

variable {d : Document} {first count : Nat} {source : String}

theorem cutAt_one {line : List Char} (h : d.lines[first]? = some line) :
    d.CutAt first 1 (String.ofList line) := by
  obtain ⟨hlt, hline⟩ := List.getElem?_eq_some_iff.1 h
  refine ⟨Nat.one_pos, hlt, ?_⟩
  rw [List.drop_eq_getElem_cons hlt, List.take_succ_cons, List.take_zero, hline,
    Fence.unlines_singleton, String.toList_ofList]

theorem CutAt.eq_unlines (h : d.CutAt first count source) :
    source = Text.unlines (((Text.lines d.source).drop first).take count) := by
  rw [← String.toList_inj, h.2.2, Fence.toList_unlines, List.map_take, List.map_drop, Text.lines,
    Text.splitOn, List.map_map]
  congr 3
  exact (List.map_id'' (fun _ => String.toList_ofList) _).symm

theorem CutAt.shows {x : Snippet} {shift : Nat} (h : d.CutAt (first + shift) count x.source)
    (horigin : x.origin = d.origin) (hline : x.lineStart = first + 1)
    (hannotations : ∀ a ∈ x.annotations, a.Fits x.source) : x.Shows d.source d.origin shift where
  origin := horigin
  lines := by
    refine ⟨first, count, hline, h.1, ?_, h.eq_unlines⟩
    rw [Text.lines, Text.splitOn, List.length_map]
    exact h.2.1
  annotations := hannotations

theorem cutAt_of_line {n : Int} (h : d.line n = .ok source) :
    ∃ first : Nat, n = first + 1 ∧ d.CutAt first 1 source := by
  rw [line_eq] at h
  split at h
  · cases h
  · rename_i hn
    split at h
    · rename_i l hl
      obtain rfl := Except.ok.inj h
      refine ⟨n.toNat - 1, by omega, cutAt_one hl⟩
    · cases h

/-! ### Places in the body -/

/-- Without the line feeds at its end a text still consists of its first lines. -/
theorem exists_trimLineFeeds {ls : List (List Char)} (hls : ls ≠ []) (h : ∀ l ∈ ls, '\n' ∉ l) :
    ∃ count, 0 < count ∧ count ≤ ls.length ∧
      trimLineFeeds (Fence.unlines ls) = Fence.unlines (ls.take count) := by
  obtain ⟨blanks, hblanks⟩ := exists_charLines_trimLineFeeds ls hls h
  have hne : Text.charLines (trimLineFeeds (Fence.unlines ls)) ≠ [] := Text.split_ne_nil _ _
  rw [← Fence.unlines_charLines (trimLineFeeds (Fence.unlines ls))]
  generalize Text.charLines (trimLineFeeds (Fence.unlines ls)) = front at hblanks hne
  refine ⟨front.length, List.length_pos_iff.2 hne, ?_, ?_⟩
  · rw [hblanks, List.length_append]
    exact Nat.le_add_right _ _
  · rw [hblanks, List.take_left]

theorem cutAt_of_nodeText {p : Markup.Place} (h : d.nodeText p = .ok source) :
    ∃ first count : Nat, d.nodeLine p = first + 1 ∧ d.CutAt first count source := by
  cases hp : p.lines with
  | none =>
    rw [nodeText, hp] at h
    obtain ⟨first, hline, hcut⟩ := cutAt_of_line h
    refine ⟨first, 1, ?_, hcut⟩
    simp only [nodeLine, hp]
    omega
  | some span =>
    rw [nodeText_of_some d hp] at h
    split at h
    · cases h
    · rename_i hlt
      obtain rfl := Except.ok.inj h
      have hne : (d.lines.drop (span.1 + d.bodyLine)).take (Nat.max span.2 (span.1 + 1) - span.1)
          ≠ [] := by
        rw [Ne, List.take_eq_nil_iff, List.drop_eq_nil_iff, not_or]
        have : span.1 + 1 ≤ Nat.max span.2 (span.1 + 1) := Nat.le_max_right _ _
        omega
      obtain ⟨count, hpos, hle, htrim⟩ := exists_trimLineFeeds hne fun l hl =>
        Text.not_mem_of_mem_split (List.mem_of_mem_drop (List.mem_of_mem_take hl))
      rw [List.length_take, List.length_drop] at hle
      refine ⟨span.1 + d.bodyLine, count, by simp [nodeLine, hp], hpos, by omega, ?_⟩
      rw [String.toList_ofList]
      refine htrim.trans ?_
      rw [List.take_take, Nat.min_eq_left (by omega)]

theorem excerpt_shows {p : Markup.Place} {level : Level} {label : Option String} {x : Snippet}
    (h : d.excerpt p level label = .ok x) : x.Shows d.source d.origin 0 := by
  obtain ⟨source, hsource, h⟩ := bind_eq_ok.1 h
  obtain ⟨first, count, hline, hcut⟩ := cutAt_of_nodeText hsource
  obtain rfl := Except.ok.inj h
  have hshift : d.CutAt (first + 0) count source := hcut
  refine hshift.shows rfl (by simp [hline]) ?_
  intro a ha
  obtain rfl := List.mem_singleton.1 ha
  exact level.labelled_fits source _ _ label

end Document

/-! ### Messages of a rule -/

namespace Findings

variable {m : Message}

theorem mem_messages_append {a b : Findings} (h : m ∈ (a ++ b).messages) :
    m ∈ a.messages ∨ m ∈ b.messages := by
  change m ∈ (append a b).messages at h
  unfold append at h
  split at h
  · exact .inl h
  · exact List.mem_append.1 h

theorem mem_messages_concat {fs : List Findings} (h : m ∈ (concat fs).messages) :
    ∃ f ∈ fs, m ∈ f.messages := by
  induction fs with
  | nil => cases h
  | cons f rest ih =>
    rcases mem_messages_append h with h | h
    · exact ⟨f, List.mem_cons_self, h⟩
    · obtain ⟨g, hg, hm⟩ := ih h
      exact ⟨g, List.mem_cons_of_mem _ hg, hm⟩

theorem mem_messages_ofExcept {α : Type} {r : Except Stop α} {f : α → Findings}
    (h : m ∈ (ofExcept r f).messages) : ∃ y, r = .ok y ∧ m ∈ (f y).messages := by
  cases r with
  | error s => cases h
  | ok y => exact ⟨y, rfl, h⟩

end Findings

theorem Preamble.mem_of_byName? {p : Preamble} {name : String} {f : Field}
    (h : p.byName? name = some f) : f ∈ p.fields :=
  List.mem_reverse.1 (List.mem_of_find?_eq_some h)

theorem Rule.Duplicates.mem_pairs {fields : List Field} {first again : Field}
    (h : (first, again) ∈ pairs fields) : first ∈ fields ∧ again ∈ fields := by
  obtain ⟨f, hf, hpair⟩ := List.mem_filterMap.1 h
  split at hpair
  · rename_i found hfound
    split at hpair
    · cases hpair
    · obtain ⟨rfl, rfl⟩ := Prod.mk.inj (Option.some.inj hpair)
      exact ⟨List.mem_of_find?_eq_some hfound, hf⟩
  · cases hpair

namespace Rule.RequiredStatus

theorem mem_judgeAll {judge : Item → Except Stop Verdict} {is : List Item} {v : Verdict}
    (h : v ∈ (judgeAll judge is).1) : ∃ i ∈ is, judge i = .ok v := by
  induction is with
  | nil => cases h
  | cons i rest ih =>
    rw [judgeAll] at h
    cases hi : judge i with
    | error x => simp [hi] at h
    | ok v' =>
      simp only [hi] at h
      rcases List.mem_cons.1 h with rfl | h
      · exact ⟨i, List.mem_cons_self, hi⟩
      · obtain ⟨j, hj, hv⟩ := ih h
        exact ⟨j, List.mem_cons_of_mem _ hj, hv⟩

variable {s : Setup} {slug : String} {c : Context} {f : Field}

theorem mark_fits (i : Item) (label : String) : (mark c f i label).Fits f.source :=
  Level.labelled_fits _ _ _ _ _

/-- A verdict about an item with a number says what has become of the file of the number, and shows
the mark of the item. -/
theorem judge_eq_ok {i : Item} {v : Verdict} (h : judge s slug c f i = .ok v) :
    v = .ignored ∨ ∃ n, i.number? = .ok (some n) ∧
      ((∃ other, c.atPath (fileName n) = .ok other ∧
          v = .tier (s.flow.tierOf s.status other.preamble)
            (mark c f i "has a less advanced status")) ∨
        ∃ e, c.atPath (fileName n) = .error (.failed e) ∧
          v = .unreadable (((c.level.message
            ("unable to read file \x60" ++ fileName n ++ "\x60: " ++ e.message)).withId
              slug).addSnippet ((c.fieldSnippet f).annotate (mark c f i "required from here")))) := by
  obtain ⟨number, hnumber, h⟩ := bind_eq_ok.1 h
  cases number with
  | none => exact .inl (Except.ok.inj h).symm
  | some n =>
    refine .inr ⟨n, mapError_eq_ok.1 hnumber, ?_⟩
    rcases hother : c.atPath (fileName n) with e | other
    · cases e with
      | undeclared r =>
        simp only [hother] at h
        cases h
      | failed e =>
        simp only [hother] at h
        exact .inr ⟨e, rfl, (Except.ok.inj h).symm⟩
    · simp only [hother] at h
      exact .inl ⟨other, rfl, (Except.ok.inj h).symm⟩

theorem mem_below {tier : Nat} {vs : List Verdict} {a : Highlight} (h : a ∈ below tier vs) :
    ∃ n < tier, .tier n a ∈ vs := by
  obtain ⟨v, hv, ha⟩ := List.mem_filterMap.1 h
  cases v with
  | tier n a' =>
    simp only [Option.ite_none_right_eq_some] at ha
    obtain rfl := Option.some.inj ha.2
    exact ⟨n, ha.1, hv⟩
  | _ => cases ha

theorem mem_unreadable {vs : List Verdict} {m : Message} (h : m ∈ unreadable vs) :
    .unreadable m ∈ vs := by
  obtain ⟨v, hv, hm⟩ := List.mem_filterMap.1 h
  cases v with
  | unreadable m' =>
    obtain rfl := Option.some.inj hm
    exact hv
  | _ => cases hm

theorem marks_fit {tier : Nat} {is : List Item} {a : Highlight}
    (h : a ∈ below tier (judgeAll (judge s slug c f) is).1) : a.Fits f.source := by
  obtain ⟨n, -, hn⟩ := mem_below h
  obtain ⟨i, -, hi⟩ := mem_judgeAll hn
  rcases judge_eq_ok hi with hv | ⟨number, -, ⟨other, -, hv⟩ | ⟨e, -, hv⟩⟩
  · cases hv
  · obtain ⟨-, rfl⟩ := Verdict.tier.inj hv
    exact mark_fits _ _
  · cases hv

theorem mem_unstable {vs : List Verdict} {m : Message} (h : m ∈ unstable s slug c f vs) :
    m.id = some slug ∧ m.level = c.level ∧ below (s.flow.tierOf s.status c.preamble) vs ≠ [] ∧
      m.snippets
        = [(c.fieldSnippet f).annotateAll (below (s.flow.tierOf s.status c.preamble) vs)] := by
  simp only [unstable] at h
  split at h
  · cases h
  · rename_i hmarks
    have hne := mt List.isEmpty_iff.2 hmarks
    split at h
    · obtain rfl := List.mem_singleton.1 h
      exact ⟨rfl, rfl, hne, rfl⟩
    · obtain rfl := List.mem_singleton.1 h
      exact ⟨rfl, rfl, hne, rfl⟩

end Rule.RequiredStatus

/-- The title of a message tells what is wrong with a mention of a number: its file cannot be read, or
the document there objects to the text of the mention. -/
def Rule.Mention.Tells (s : Setup) (c : Context) (number : Int) (mention title : String) : Prop :=
  (∃ e, c.atPath (s.fileName number) = .error (.failed e) ∧
    title = "unable to read file \x60" ++ s.fileName number ++ "\x60: " ++ e.message) ∨
  ∃ other, c.atPath (s.fileName number) = .ok other ∧
    objection? mention other.preamble = some title

/-- A message about a mention shows the field and marks the mention. -/
theorem Rule.Mention.mem_judge {s : Setup} {slug : String} {c : Context} {f : Field}
    {found : Pattern.Match} {m : Message} (h : m ∈ (judge s slug c f found).messages) :
    m.id = some slug ∧ m.level = c.level ∧ m.snippets = [(c.fieldSnippet f).annotate
      ((c.level.spanChars f.source (f.name.length + 1 + found.start : Nat)
        (found.stop - found.start : Nat)).withLabel "referenced here")] ∧
      ∃ n, number f.value found = .ok n ∧
        Tells s c n (slice f.value.toList found.start found.stop) m.title := by
  obtain ⟨n, hn, h⟩ := Findings.mem_messages_ofExcept h
  have hnumber := mapError_eq_ok.1 hn
  rcases hother : c.atPath (s.fileName n) with e | other
  · cases e with
    | undeclared r =>
      simp only [hother] at h
      cases h
    | failed e =>
      simp only [hother] at h
      obtain rfl := List.mem_singleton.1 h
      exact ⟨rfl, rfl, rfl, n, hnumber, .inl ⟨e, hother, rfl⟩⟩
  · simp only [hother] at h
    split at h
    · rename_i title htitle
      obtain rfl := List.mem_singleton.1 h
      exact ⟨rfl, rfl, rfl, n, hnumber, .inr ⟨other, hother, htitle⟩⟩
    · cases h

namespace Rule.LinkStatus

variable {s : Setup} {slug : String} {c : Context} {m : Message}

theorem unstable_shows (s : Setup) (slug : String) (c : Context) (fileName : String) (x : Snippet)
    (ceiling : Nat) : (unstable s slug c fileName x ceiling).id = some slug ∧
      (unstable s slug c fileName x ceiling).level = c.level ∧
      (unstable s slug c fileName x ceiling).snippets = [x] := by
  simp only [unstable]
  split
  · exact ⟨rfl, rfl, rfl⟩
  · exact ⟨rfl, rfl, rfl⟩

/-- A message about a link shows the line of the link. -/
theorem mem_judge {lowest : Option Nat} {link : ProposalLink}
    (h : m ∈ (judge s slug c lowest link).1.messages) :
    ∃ x, snippet c link.toLink = .ok x ∧ m.id = some slug ∧ m.level = c.level ∧
      m.snippets = [x] := by
  unfold judge at h
  cases hx : snippet c link.toLink with
  | error e =>
    rw [hx] at h
    cases h
  | ok x =>
    refine ⟨x, rfl, ?_⟩
    simp only [hx] at h
    rcases hother : c.atPath link.fileName with e | other
    · cases e with
      | undeclared r =>
        simp only [hother] at h
        cases h
      | failed e =>
        simp only [hother] at h
        obtain rfl := List.mem_singleton.1 h
        exact ⟨rfl, rfl, rfl⟩
    · simp only [hother] at h
      split at h
      · obtain rfl := List.mem_singleton.1 h
        exact unstable_shows _ _ _ _ _ _
      · cases h

theorem mem_judgeAll {lowest : Option Nat} {links : List ProposalLink}
    (h : m ∈ (judgeAll s slug c lowest links).messages) :
    ∃ lowest, ∃ link ∈ links, m ∈ (judge s slug c lowest link).1.messages := by
  induction links generalizing lowest with
  | nil => cases h
  | cons link rest ih =>
    rcases Findings.mem_messages_append h with h | h
    · exact ⟨lowest, link, List.mem_cons_self, h⟩
    · obtain ⟨lowest, found, hfound, hm⟩ := ih h
      exact ⟨lowest, found, List.mem_cons_of_mem _ hfound, hm⟩

theorem snippet_shows {link : Link} {x : Snippet} (h : snippet c link = .ok x) :
    x.Shows c.document.source c.document.origin 0 := by
  obtain ⟨n, -, h⟩ := bind_eq_ok.1 h
  obtain ⟨source, hsource, h⟩ := bind_eq_ok.1 h
  obtain rfl := Except.ok.inj h
  obtain ⟨first, hn, hcut⟩ := Document.cutAt_of_line hsource
  exact Document.CutAt.shows hcut rfl hn (fun a ha => by cases ha)

end Rule.LinkStatus

/-! ### Fields of the preamble -/

section Parsed

variable {text : String} {origin : Option String} {path : Option Path} {c : Context} {slug : String}
  {f : Field} {m : Message}

theorem Document.cutAt_of_field {d : Document} (hparse : parse text origin path = .ok d)
    (hf : f ∈ d.preamble.fields) :
    ∃ first : Nat, f.line = first + 1 ∧ d.CutAt (first + Fence.lead text) 1 f.source := by
  obtain ⟨lead, ps, rest, hsections⟩ := exists_sections hparse
  obtain ⟨i, hi⟩ := List.mem_iff_getElem?.1 hf
  have hline := hsections.numbered i f hi
  refine ⟨i + 1, hline, ?_⟩
  have hget := (laidOut_of_parse hparse).field f hf
  rw [hline, lines, (parts_of_parse hparse).1] at hget
  rw [← String.ofList_toList (s := f.source)]
  refine cutAt_one ?_
  rw [lines, (parts_of_parse hparse).1]
  exact hget

variable (hparse : Document.parse text origin path = .ok c.document)

include hparse

theorem shows_of_shows {x : Snippet} {shift : Nat}
    (h : x.Shows c.document.source c.document.origin shift) : x.Shows text origin shift := by
  rwa [(Document.parts_of_parse hparse).1, Document.origin_of_parse hparse] at h

theorem fieldSnippet_shows {as : List Highlight} (hf : f ∈ c.preamble.fields)
    (has : ∀ a ∈ as, a.Fits f.source) :
    ((c.fieldSnippet f).annotateAll as).Shows text origin (Fence.lead text) := by
  obtain ⟨first, hline, hcut⟩ := Document.cutAt_of_field hparse hf
  refine shows_of_shows hparse (Document.CutAt.shows hcut rfl ?_ has)
  change (f.line : Int) = first + 1
  rw [hline]
  rfl

/-! ### The rules -/

theorem duplicates_faithful (h : m ∈ (Rule.duplicates.check slug c).messages) :
    m.Faithful slug c.level text origin (Fence.lead text) := by
  obtain ⟨⟨first, again⟩, hpair, rfl⟩ := List.mem_map.1 h
  obtain ⟨hfirst, hagain⟩ := Rule.Duplicates.mem_pairs hpair
  refine ⟨rfl, rfl, List.forall_mem_cons.2 ⟨?_, List.forall_mem_singleton.2 ?_⟩⟩
  · refine fieldSnippet_shows hparse hfirst (List.forall_mem_singleton.2 ?_)
    exact Level.labelled_fits _ _ _ _ _
  · refine fieldSnippet_shows hparse hagain (List.forall_mem_singleton.2 ?_)
    exact Level.labelled_fits _ _ _ _ _

theorem spacing_mark_shows (hf : f ∈ c.preamble.fields) (length : Nat) (label : String) :
    (Rule.Spacing.mark c f length label).Shows text origin (Fence.lead text) := by
  refine fieldSnippet_shows hparse hf (List.forall_mem_singleton.2 ?_)
  exact Level.labelled_fits _ _ _ _ _

theorem spacing_faithful (h : m ∈ (Rule.spacing.check slug c).messages) :
    m.Faithful slug c.level text origin (Fence.lead text) := by
  obtain ⟨m, hm, rfl⟩ := List.mem_map.1 h
  rcases List.mem_append.1 hm with hm | hm
  · obtain ⟨f, hf, rfl⟩ := List.mem_map.1 hm
    refine ⟨rfl, rfl, List.forall_mem_singleton.2 ?_⟩
    exact spacing_mark_shows hparse (List.mem_of_mem_filter hf) _ _
  · split at hm
    · cases hm
    · obtain rfl := List.mem_singleton.1 hm
      refine ⟨rfl, rfl, fun x hx => ?_⟩
      obtain ⟨f, hf, rfl⟩ := List.mem_map.1 hx
      exact spacing_mark_shows hparse (List.mem_of_mem_filter hf) _ _

theorem required_faithful {names : List String}
    (h : m ∈ ((Rule.required names).check slug c).messages) :
    m.Faithful slug c.level text origin 0 := by
  simp only [Rule.required, Rule.Required.check] at h
  split at h
  · cases h
  · obtain ⟨first, hfirst, hm⟩ := Findings.mem_messages_ofExcept h
    obtain rfl := List.mem_singleton.1 hm
    obtain ⟨n, hn, hcut⟩ := Document.cutAt_of_line (mapError_eq_ok.1 hfirst)
    refine ⟨rfl, rfl, List.forall_mem_singleton.2 (shows_of_shows hparse ?_)⟩
    exact Document.CutAt.shows hcut rfl hn (fun a ha => by cases ha)

theorem prose_faithful {s : Rule.Prose.Setup} (h : m ∈ ((Rule.prose s).check slug c).messages) :
    m.Faithful slug c.level text origin 0 := by
  simp only [Rule.prose, Rule.Prose.check_eq] at h
  obtain ⟨pattern, -, hm⟩ := Findings.mem_messages_ofExcept h
  obtain ⟨_, hfindings, hm⟩ := Findings.mem_messages_concat hm
  obtain ⟨p, -, rfl⟩ := List.mem_map.1 hfindings
  unfold Rule.Prose.judge at hm
  split at hm
  · cases hm
  · split at hm
    · cases hm
    · obtain ⟨x, hx, hm⟩ := Findings.mem_messages_ofExcept hm
      obtain rfl := List.mem_singleton.1 hm
      refine ⟨rfl, rfl, List.forall_mem_singleton.2 (shows_of_shows hparse ?_)⟩
      exact Document.excerpt_shows (mapError_eq_ok.1 hx)

theorem requiredStatus_faithful {s : Rule.RequiredStatus.Setup}
    (h : m ∈ ((Rule.requiredStatus s).check slug c).messages) :
    m.Faithful slug c.level text origin (Fence.lead text) := by
  simp only [Rule.requiredStatus, Rule.RequiredStatus.check] at h
  cases hf : c.preamble.byName? s.requires with
  | none =>
    rw [hf] at h
    cases h
  | some f =>
    simp only [hf] at h
    have hfield : f ∈ c.preamble.fields := Preamble.mem_of_byName? hf
    rcases List.mem_append.1 h with h | h
    · obtain ⟨i, -, hi⟩ := Rule.RequiredStatus.mem_judgeAll (Rule.RequiredStatus.mem_unreadable h)
      rcases Rule.RequiredStatus.judge_eq_ok hi with
        hv | ⟨n, -, ⟨other, -, hv⟩ | ⟨e, -, hv⟩⟩
      · cases hv
      · cases hv
      · obtain rfl := Rule.RequiredStatus.Verdict.unreadable.inj hv
        refine ⟨rfl, rfl, List.forall_mem_singleton.2 ?_⟩
        refine fieldSnippet_shows hparse hfield (List.forall_mem_singleton.2 ?_)
        exact Rule.RequiredStatus.mark_fits _ _
    · split at h
      · cases h
      · obtain ⟨hid, hlevel, -, hsnippets⟩ := Rule.RequiredStatus.mem_unstable h
        refine ⟨hid, hlevel, hsnippets ▸ List.forall_mem_singleton.2 ?_⟩
        exact fieldSnippet_shows hparse hfield fun a ha => Rule.RequiredStatus.marks_fit ha

theorem mention_faithful {s : Rule.Mention.Setup}
    (h : m ∈ ((Rule.mention s).check slug c).messages) :
    m.Faithful slug c.level text origin (Fence.lead text) := by
  simp only [Rule.mention, Rule.Mention.check] at h
  cases hf : c.preamble.byName? s.field with
  | none =>
    rw [hf] at h
    cases h
  | some f =>
    simp only [hf] at h
    obtain ⟨_, hfindings, hm⟩ := Findings.mem_messages_concat h
    obtain ⟨found, -, rfl⟩ := List.mem_map.1 hfindings
    obtain ⟨hid, hlevel, hsnippets, -⟩ := Rule.Mention.mem_judge hm
    refine ⟨hid, hlevel, hsnippets ▸ List.forall_mem_singleton.2 ?_⟩
    refine fieldSnippet_shows hparse (Preamble.mem_of_byName? hf) (List.forall_mem_singleton.2 ?_)
    exact Level.labelled_fits _ _ _ _ _

theorem linkStatus_faithful {s : Rule.LinkStatus.Setup}
    (h : m ∈ ((Rule.linkStatus s).check slug c).messages) :
    m.Faithful slug c.level text origin 0 := by
  obtain ⟨links, -, hm⟩ := Findings.mem_messages_ofExcept h
  obtain ⟨lowest, link, -, hm⟩ := Rule.LinkStatus.mem_judgeAll hm
  obtain ⟨x, hx, hid, hlevel, hsnippets⟩ := Rule.LinkStatus.mem_judge hm
  refine ⟨hid, hlevel, hsnippets ▸ List.forall_mem_singleton.2 ?_⟩
  exact shows_of_shows hparse (Rule.LinkStatus.snippet_shows hx)

end Parsed

/-- How much further down the lines are that a rule shows than it says. A rule about fields does not
count an empty line in front of the first fence. -/
def Shipped.shift (s : Shipped) (text : String) : Nat :=
  match s with
  | required _ | prose _ | linkStatus _ => 0
  | duplicates | spacing | requiredStatus _ | mention _ => Fence.lead text

/-- What a shipped rule reports about a document has its slug and the level of the rule or else of the
document, and shows whole lines of the text under its origin, with ranges that split no character.
The lines are those of the number that is said, but for an empty line in front of the preamble. -/
theorem Linter.findings_faithful {text : String} {origin : Option String} {path : Option Path}
    {d : Document} (hparse : Document.parse text origin path = .ok d) (s : Shipped) (slug : String)
    (level : Option Level) (cache : Cache FetchError Document) (settings : Settings) :
    ∀ m ∈ (findings d cache settings (slug, { rule := s.toRule, level })).messages,
      m.Faithful slug (level.getD settings.defaultLevel) text origin (s.shift text) := by
  intro m hm
  cases s with
  | duplicates => exact duplicates_faithful hparse hm
  | spacing => exact spacing_faithful hparse hm
  | required names => exact required_faithful hparse hm
  | requiredStatus s => exact requiredStatus_faithful hparse hm
  | mention s => exact mention_faithful hparse hm
  | prose s => exact prose_faithful hparse hm
  | linkStatus s => exact linkStatus_faithful hparse hm

theorem Linter.findings_faithful_draft :
    ∃ d, Document.parse "---\na:b\n---\n" (some "a.md") none = .ok d ∧
      (findings d .empty {} ("preamble-trim", { rule := Shipped.spacing.toRule, level := none })).messages
        ≠ [] ∧
      ∀ m ∈ (findings d .empty {}
          ("preamble-trim", { rule := Shipped.spacing.toRule, level := none })).messages,
        m.Faithful "preamble-trim" .error "---\na:b\n---\n" (some "a.md") 0 := by
  have hcount : (Document.parse "---\na:b\n---\n" (some "a.md") none).toOption.map (fun d =>
      (findings d .empty {}
        ("preamble-trim", { rule := Shipped.spacing.toRule, level := none })).messages.length)
      = some 1 := by decide +kernel
  cases hparse : Document.parse "---\na:b\n---\n" (some "a.md") none with
  | error e =>
    rw [hparse] at hcount
    cases hcount
  | ok d =>
    rw [hparse] at hcount
    refine ⟨d, rfl, fun hnil => ?_, ?_⟩
    · rw [Except.toOption, Option.map_some, hnil] at hcount
      cases hcount
    · exact findings_faithful hparse .spacing "preamble-trim" none .empty {}

/-- Behind an empty line a field is shown under the number of the line before it. -/
theorem Linter.findings_behind_empty_line :
    ∃ d, Document.parse "\n---\na:b\n---\n" (some "a.md") none = .ok d ∧
      ∃ m ∈ (findings d .empty {}
          ("preamble-trim", { rule := Shipped.spacing.toRule, level := none })).messages,
        ¬ m.Faithful "preamble-trim" .error "\n---\na:b\n---\n" (some "a.md") 0 := by
  have hshown : (Document.parse "\n---\na:b\n---\n" (some "a.md") none).toOption.map (fun d =>
      (findings d .empty {}
        ("preamble-trim", { rule := Shipped.spacing.toRule, level := none })).messages.map fun m =>
          m.snippets.map fun x => (x.source, x.lineStart))
      = some [[("a:b", 2)]] := by decide +kernel
  cases hparse : Document.parse "\n---\na:b\n---\n" (some "a.md") none with
  | error e =>
    rw [hparse] at hshown
    cases hshown
  | ok d =>
    rw [hparse] at hshown
    have hmem := List.mem_singleton_self [(("a:b" : String), (2 : Int))]
    rw [← Option.some.inj hshown] at hmem
    obtain ⟨m, hm, hsnippets⟩ := List.mem_map.1 hmem
    have hmem := List.mem_singleton_self (("a:b" : String), (2 : Int))
    rw [← hsnippets] at hmem
    obtain ⟨x, hx, hline⟩ := List.mem_map.1 hmem
    refine ⟨d, rfl, m, hm, fun hfaithful => ?_⟩
    obtain ⟨first, count, hfirst, hpos, -, hsource⟩ := (hfaithful.snippets x hx).lines
    obtain ⟨hxsource, hxline⟩ := Prod.mk.inj hline
    -- the text from the second line on starts with a dash
    obtain rfl : first = 1 := by omega
    obtain ⟨n, rfl⟩ := Nat.exists_eq_succ_of_ne_zero hpos.ne'
    have hlines : (Text.lines "\n---\na:b\n---\n").drop (1 + 0) = ["---", "a:b", "---", ""] := by
      decide +kernel
    rw [hxsource, hlines, List.take_succ_cons, ← String.toList_inj, Fence.toList_unlines,
      List.map_cons] at hsource
    have hhead := congrArg List.head? hsource
    cases n <;> simp [Fence.unlines_cons_append] at hhead

end ProposalCheck
