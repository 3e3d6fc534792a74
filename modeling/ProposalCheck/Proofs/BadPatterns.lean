import ProposalCheck.Proofs.Bystanders
import ProposalCheck.Proofs.Discoveries
import ProposalCheck.Proofs.Offences
import ProposalCheck.Proofs.Places

/-!
# Bad patterns

`Linter.run_with_pattern`: what the two rules that are set up with a pattern do to a run. The rule about
prose tells that its pattern is malformed, and the run goes on. It ends a run by a pattern that cannot be
read for another reason, by a match with a group that ends before it starts, and for want of a line
(`Rule.Prose.Ends`). The rule about links reads its pattern when it is asked what it needs and tells
nothing: it ends a run by every pattern that cannot be read and by every match whose first group gives
no number, be it that there is no such group (`Rule.LinkStatus.Misread`); and since it goes by the
numbers, by references that cannot be followed (`Rule.LinkStatus.Ends`). Nothing else of what the other
rules say is changed.
-/

namespace ProposalCheck

open Saying (others)

/-- Whether a text is no pattern because it breaks the rules for patterns. -/
def PatternError.isMalformed : PatternError → Bool
  | malformed _ _ _ => true
  | _ => false

namespace Rule

variable {slug : String} {c : Context} {d : Document}

/-! ### The rule about prose -/

namespace Prose

variable {s : Setup} {x : Crash}

/-- How the rule about prose ends a run over a document: its pattern is unfit, and that is not told as a
mistake in the setup; or there is something to report on a line that is not there. -/
inductive Ends (s : Setup) (d : Document) : Crash → Prop where
  | unfit {x : Crash} (h : Unfit s d x) (htold : ∀ e, x = .pattern e → e.isMalformed = false) :
    Ends s d x
  | line {pattern : Pattern} {p : Markup.Place} {m : Pattern.Match} {e : LineError}
      (hread : Pattern.read s.pattern = .ok pattern) (hp : p ∈ d.body.places)
      (hm : offence? pattern p.construct = some m) (hline : d.nodeText p = .error e) :
    Ends s d (.line e)

theorem ends_of_stop (h : (check s slug c).stop = some (.crash x)) : Ends s c.document x := by
  rw [check_eq] at h
  cases hread : Pattern.read s.pattern with
  | error e =>
    rw [hread] at h
    obtain rfl := eq_pattern_of_stopOf (Option.some.inj h)
    refine .unfit (.unreadable hread) fun e' he => ?_
    obtain rfl := Crash.pattern.inj he
    cases e <;> first | rfl | cases h
  | ok pattern =>
    rw [hread] at h
    obtain ⟨f, hf, h⟩ := Findings.stop_concat h
    obtain ⟨p, hp, rfl⟩ := List.mem_map.1 hf
    replace hp := mem_places_of_mem_reached hp
    obtain ⟨m, hm, ⟨hgarbled, heq⟩ | ⟨e, hline, heq⟩⟩ := crash_of_judge h
    · rw [Stop.crash.inj heq]
      exact .unfit (.garbled hread hp hm hgarbled) fun e he => by cases he
    · rw [Stop.crash.inj heq]
      exact .line hread hp hm hline

/-- A pattern that cannot be read ends the run just if that is not told. -/
theorem ends_iff_unreadable {e : PatternError} (hread : Pattern.read s.pattern = .error e) :
    Ends s d x ↔ e.isMalformed = false ∧ x = .pattern e := by
  constructor
  · rintro (⟨hunfit, htold⟩ | ⟨hread', -, -, -⟩)
    · cases hunfit with
      | unreadable hread' =>
        obtain rfl := Except.error.inj (hread.symm.trans hread')
        exact ⟨htold e rfl, rfl⟩
      | garbled hread' _ _ _ =>
        rw [hread] at hread'
        cases hread'
    · rw [hread] at hread'
      cases hread'
  · rintro ⟨htold, rfl⟩
    refine .unfit (.unreadable hread) fun e' he => ?_
    obtain rfl := Crash.pattern.inj he
    exact htold

/-- If the rule does not end the run, it does not stop anywhere. -/
theorem stop_judge_of_benign {pattern : Pattern} (hread : Pattern.read s.pattern = .ok pattern)
    (h : Stop.Benign (check s slug c).stop) {p : Markup.Place} (hp : p ∈ reached c.document.body) :
    (judge s slug c pattern p).stop = none := by
  rw [check_eq, hread] at h
  have hnone : (Findings.concat ((reached c.document.body).map
      (judge s slug c pattern))).stop = none := by
    refine Option.eq_none_iff_forall_ne_some.2 fun stop hstop => ?_
    obtain ⟨f, hf, hstop'⟩ := Findings.stop_concat hstop
    obtain ⟨q, -, rfl⟩ := List.mem_map.1 hf
    obtain ⟨m, -, ⟨-, rfl⟩ | ⟨e, -, rfl⟩⟩ := crash_of_judge hstop'
    · exact h _ hstop
    · exact h _ hstop
  exact Findings.stop_concat_eq_none.1 hnone _ (List.mem_map_of_mem hp)

theorem not_benign_of_ends {text : String} {origin : Option String} {path : Option Path}
    (hparse : Document.parse text origin path = .ok d) (hends : Ends s d x)
    (hc : c.document = d) : ¬ Stop.Benign (check s slug c).stop := by
  subst hc
  intro h
  have hjudge {pattern : Pattern} (hread : Pattern.read s.pattern = .ok pattern)
      {p : Markup.Place} (hp : p ∈ c.document.body.places) :
      (judge s slug c pattern p).stop = none :=
    stop_judge_of_benign hread h (by rwa [Document.reached_body hparse])
  cases hends with
  | unfit hunfit htold =>
    cases hunfit with
    | @unreadable e hread =>
      rw [check_eq, hread] at h
      have htold := htold e rfl
      cases e <;> first | exact h _ rfl | cases htold
    | garbled hread hp hm hgarbled =>
      have hnone := hjudge hread hp
      rw [judge, hm] at hnone
      dsimp only at hnone
      rw [if_pos hgarbled] at hnone
      cases hnone
  | line hread hp hm hline =>
    have hnone := hjudge hread hp
    rw [judge, hm] at hnone
    dsimp only at hnone
    split at hnone
    · cases hnone
    · rw [report, Document.excerpt, hline] at hnone
      cases hnone

end Prose

/-! ### The rule about links -/

namespace LinkStatus

variable {s : Setup} {x : Crash}

/-- How the rule about links ends a run over a document: its pattern cannot be read, or a link that it is
found in is misread, leads to what cannot be followed or is on a line that is not there. -/
inductive Ends (l : Linter) (s : Setup) (d : Document) : Crash → Prop where
  | unreadable {e : PatternError} (hread : Pattern.read s.pattern = .error e) :
    Ends l s d (.pattern e)
  | misread {pattern : Pattern} {link : Link} {x : Crash}
      (hread : Pattern.read s.pattern = .ok pattern) (hlink : link ∈ links d.body)
      (h : Misread pattern link.target.toList x) : Ends l s d x
  | reference {found : List ProposalLink} {link : ProposalLink} {x : Crash}
      (hfound : proposalLinks s d = .ok found) (hlink : link ∈ found)
      (h : l.load (d.pathReference link.fileName) = .error x) : Ends l s d x
  | line {found : List ProposalLink} {link : ProposalLink} {e : LineError}
      (hfound : proposalLinks s d = .ok found) (hlink : link ∈ found)
      (h : d.nodeText link.place = .error e) : Ends l s d (.line e)

variable {l : Linter}

theorem ends_of_proposalLinks (h : proposalLinks s d = .error x) : Ends l s d x := by
  obtain ⟨e, hread, rfl⟩ | ⟨pattern, hread, link, hlink, h⟩ := exists_of_proposalLinks_error h
  · exact .unreadable hread
  · exact .misread hread hlink h

/-- A pattern that cannot be read ends the run, and nothing else gets to do so. -/
theorem ends_iff_unreadable {e : PatternError} (hread : Pattern.read s.pattern = .error e) :
    Ends l s d x ↔ x = .pattern e := by
  have hlinks : proposalLinks s d = .error (.pattern e) := proposalLinks_of_unreadable hread
  constructor
  · intro h
    cases h with
    | unreadable hread' => rw [Except.error.inj (hread.symm.trans hread')]
    | misread hread' _ _ =>
      rw [hread] at hread'
      cases hread'
    | reference hfound _ _ | line hfound _ _ =>
      rw [hlinks] at hfound
      cases hfound
  · rintro rfl
    exact .unreadable hread

theorem ends_of_rule (h : (linkStatus s).Ends slug l d x) : Ends l s d x := by
  cases hlinks : proposalLinks s d with
  | error y =>
    cases h with
    | discovery h =>
      rw [stop_discover hlinks] at h
      rw [← Stop.crash.inj (Option.some.inj h)]
      exact ends_of_proposalLinks hlinks
    | reference hr _ =>
      simp [linkStatus, discover, hlinks] at hr
    | check hc h =>
      subst hc
      simp only [linkStatus, check, hlinks] at h
      rw [← Stop.crash.inj (Option.some.inj h)]
      exact ends_of_proposalLinks hlinks
  | ok found =>
    cases h with
    | discovery h =>
      simp [linkStatus, discover, hlinks] at h
    | reference hr h =>
      simp only [linkStatus, discover, hlinks, List.mem_map] at hr
      obtain ⟨link, hlink, rfl⟩ := hr
      exact .reference hlinks hlink h
    | check hc h =>
      subst hc
      simp only [linkStatus, check, hlinks] at h
      obtain ⟨lowest, link, hlink, h⟩ := stop_judgeAll h
      rcases stop_judge h with ⟨e, hline, heq⟩ | ⟨r, -, heq⟩
      · rw [Stop.crash.inj heq]
        exact .line hlinks hlink (nodeText_of_snippet hline)
      · cases heq

theorem judge_of_judgeAll {found : List ProposalLink} {lowest : Option Nat}
    (h : (judgeAll s slug c lowest found).stop = none) {link : ProposalLink} (hlink : link ∈ found) :
    ∃ lowest, (judge s slug c lowest link).1.stop = none := by
  induction found generalizing lowest with
  | nil => cases hlink
  | cons first rest ih =>
    obtain ⟨hfirst, hrest⟩ := Findings.stop_append_eq_none.1 h
    rcases List.mem_cons.1 hlink with rfl | hlink
    · exact ⟨lowest, hfirst⟩
    · exact ih hrest hlink

/-- The lines of the links are there if the rule, having asked for what they lead to, does not end the
run. -/
theorem nodeText_of_benign {found : List ProposalLink}
    (hfound : proposalLinks s c.document = .ok found)
    (hdeclared : ∀ link ∈ found, c.cache.get? (c.document.pathReference link.fileName) ≠ none)
    (h : Stop.Benign (check s slug c).stop) {link : ProposalLink} (hlink : link ∈ found)
    {e : LineError} : c.document.nodeText link.place ≠ .error e := by
  intro hline
  have hnone : (judgeAll s slug c none found).stop = none := by
    refine Option.eq_none_iff_forall_ne_some.2 fun stop hstop => ?_
    obtain ⟨lowest, other, hother, hjudge⟩ := stop_judgeAll hstop
    rcases stop_judge hjudge with ⟨e, -, rfl⟩ | ⟨r, hfollow, -⟩
    · simp only [check, hfound] at h
      exact h _ hstop
    · obtain rfl := Context.eq_of_follow_undeclared hfollow
      exact hdeclared other hother (Context.follow_eq_undeclared.1 hfollow)
  obtain ⟨lowest, hjudge⟩ := judge_of_judgeAll hnone hlink
  have hsnippet : snippet c link.toLink = .error e := by
    rw [snippet, line, hline]
    rfl
  rw [judge, hsnippet] at hjudge
  cases hjudge

theorem not_checked_of_ends {level : Option Level} {cache after : Cache FetchError Document}
    {settings : Settings} (hrule : (slug, { rule := linkStatus s, level }) ∈ l.rules)
    (hcache : l.Coherent cache) (hends : Ends l s d x) : ¬ l.Checked d cache after settings := by
  intro h
  have hasked := h.asked _ hrule
  cases hlinks : proposalLinks s d with
  | error y => exact hasked y (stop_discover hlinks)
  | ok found =>
    have hwanted : ∀ link ∈ found, d.pathReference link.fileName ∈ l.wanted d := by
      intro link hlink
      refine Linter.mem_wanted.2 ⟨_, hrule, ?_⟩
      simp only [linkStatus, discover, hlinks]
      exact List.mem_map_of_mem hlink
    cases hends with
    | unreadable hread =>
      rw [proposalLinks_of_unreadable hread] at hlinks
      cases hlinks
    | misread hread hlink hmisread =>
      obtain ⟨pattern, hpattern, hall⟩ := bind_eq_ok.1 hlinks
      obtain rfl := Except.ok.inj (hread.symm.trans (mapError_eq_ok.1 hpattern))
      obtain ⟨results, hresults, -⟩ := bind_eq_ok.1 hall
      obtain ⟨y, -, hy⟩ := exists_mem_of_mapM hresults _ hlink
      rw [toProposal?_eq_error.2 hmisread] at hy
      cases hy
    | reference hfound hlink hload =>
      obtain rfl := Except.ok.inj (hlinks.symm.trans hfound)
      obtain ⟨y, hy⟩ := hcache.loads h.followed _ (hwanted _ hlink)
      rw [hy] at hload
      cases hload
    | line hfound hlink hline =>
      obtain rfl := Except.ok.inj (hlinks.symm.trans hfound)
      have hactive : (slug, { rule := linkStatus s, level }) ∈ l.active d := by
        refine List.mem_filter.2 ⟨Linter.mem_orderedRules.2 hrule, ?_⟩
        simp only [linkStatus, discover, hlinks]
        rfl
      refine nodeText_of_benign hlinks (fun link hlink hnone => ?_) (h.judged _ hactive) hlink hline
      exact ((Linter.get?_eq_none_of_fetchAll h.followed).1 hnone).2 (hwanted link hlink)

end LinkStatus

end Rule

/-! ### Both rules -/

/-- A rule that is set up with a pattern. -/
inductive PatternRule where
  | prose (s : Rule.Prose.Setup)
  | linkStatus (s : Rule.LinkStatus.Setup)

namespace PatternRule

/-- The rule itself. -/
def toRule : PatternRule → Rule
  | prose s => .prose s
  | linkStatus s => .linkStatus s

/-- The pattern of the rule. -/
def pattern : PatternRule → String
  | prose s => s.pattern
  | linkStatus s => s.pattern

/-- Whether the rule tells why its pattern cannot be read, as a mistake in its setup. -/
def tells : PatternRule → PatternError → Bool
  | prose _, e => e.isMalformed
  | linkStatus _, _ => false

/-- How the rule ends a run over a document. -/
def Ends : PatternRule → Linter → Document → Crash → Prop
  | prose s, _ => Rule.Prose.Ends s
  | linkStatus s, l => Rule.LinkStatus.Ends l s

variable {rule : PatternRule} {l : Linter} {slug : String} {d : Document} {x : Crash}

theorem ends_of_rule (h : rule.toRule.Ends slug l d x) : rule.Ends l d x := by
  cases rule with
  | prose s =>
    cases h with
    | discovery h => cases h
    | reference hr _ => cases hr
    | check hc h =>
      subst hc
      exact Rule.Prose.ends_of_stop h
  | linkStatus s => exact Rule.LinkStatus.ends_of_rule h

/-- Nothing ends a run over documents that come to the end of their checks. -/
theorem not_ends_of_checked {level : Option Level} {cache after : Cache FetchError Document}
    {settings : Settings} {source : Source} (hrule : (slug, { rule := rule.toRule, level }) ∈ l.rules)
    (hdocument : l.document? source = some d) (hcache : l.Coherent cache)
    (h : l.Checked d cache after settings) : ¬ rule.Ends l d x := by
  intro hends
  cases rule with
  | prose s =>
    obtain ⟨text, -, hparse⟩ := Linter.document?_eq_some.1 hdocument
    have hactive : (slug, { rule := .prose s, level }) ∈ l.active d :=
      List.mem_filter.2 ⟨Linter.mem_orderedRules.2 hrule, rfl⟩
    exact Rule.Prose.not_benign_of_ends hparse hends rfl (h.judged _ hactive)
  | linkStatus s => exact Rule.LinkStatus.not_checked_of_ends hrule hcache hends h

/-- What is told of a pattern that cannot be read ends no run; any other such pattern ends every run
over a document. -/
theorem ends_iff_of_unreadable {e : PatternError} (hread : Pattern.read rule.pattern = .error e) :
    rule.Ends l d x ↔ rule.tells e = false ∧ x = .pattern e := by
  cases rule with
  | prose s => exact Rule.Prose.ends_iff_unreadable hread
  | linkStatus s => exact (Rule.LinkStatus.ends_iff_unreadable hread).trans (by simp [tells])

/-- A rule that tells what is wrong with its pattern does nothing else. -/
theorem stop_of_tells {e : PatternError} (hread : Pattern.read rule.pattern = .error e)
    (htells : rule.tells e = true) :
    (∀ d, (rule.toRule.discover d).stop = none) ∧
      ∀ slug c, (rule.toRule.check slug c).stop = some (.fault (.misconfigured
        ("invalid pattern \x60" ++ rule.pattern ++ "\x60: " ++ e.message))) := by
  cases rule with
  | prose s =>
    change Pattern.read s.pattern = .error e at hread
    refine ⟨fun _ => rfl, fun slug c => ?_⟩
    change (Rule.Prose.check s slug c).stop = _
    rw [Rule.Prose.check_eq, hread]
    cases e <;> first | rfl | cases htells
  | linkStatus s => cases htells

end PatternRule

namespace Linter

variable {l rest : Linter} {slug : String} {rule : PatternRule} {level : Option Level}

/-- A run beside the one without the rule that has the pattern. -/
theorem beside_pattern (hdistinct : l.Distinct)
    (hrule : l.rule? slug = some { rule := rule.toRule, level })
    (hplain : ∀ s, rule = .linkStatus s → (l.without slug).Plain)
    (hothers : (l.without slug).rules ≠ []) :
    Trace.Beside slug (fun x => ∃ d ∈ l.documents, rule.Ends l d x) (fun _ _ => True)
      (l.without slug).run l.run := by
  have hdiscreet : l.Discreet slug := by
    cases rule with
    | prose s =>
      refine .inr fun e he hslug d => ?_
      rw [eq_of_rule?_eq_some hdistinct hrule he hslug]
      rfl
    | linkStatus s => exact .inl (hplain s rfl)
  refine beside_run hdistinct hdiscreet hothers fun d hd e he hslug x hx => ?_
  rw [eq_of_rule?_eq_some hdistinct hrule he hslug] at hx
  exact ⟨d, hd, PatternRule.ends_of_rule hx⟩

/-- A rule with a pattern can take from the other rules only what they would have said later, and only
by ending the run; where nothing of it ends the run, the others say what they say without it. Under
the rule about links, which has references followed, they have to look up only what they asked for.

A pattern that is malformed is told by the rule about prose, once for each document, and ends no run.
A pattern that cannot be read for another reason ends each run over a document, and so does every one
that cannot be read under the rule about links. -/
theorem run_with_pattern (hdistinct : l.Distinct)
    (hrule : l.rule? slug = some { rule := rule.toRule, level })
    (hrest : l.allow slug = .ok rest) (hplain : ∀ s, rule = .linkStatus s → rest.Plain) :
    (rest.rules ≠ [] →
      others slug l.run.sayings <+: rest.run.sayings ∧
      ((∀ d ∈ l.documents, ∀ x, ¬ rule.Ends l d x) →
        others slug l.run.sayings = rest.run.sayings ∧
          (l.run.result = .ok () ↔ rest.run.result = .ok ())) ∧
      (rest.run.result = .ok () → (∃ d ∈ l.documents, ∃ x, rule.Ends l d x) →
        ∃ d ∈ l.documents, ∃ x, rule.Ends l d x ∧ l.run.result = .error (.crash x))) ∧
    ∀ e, Pattern.read rule.pattern = .error e →
      (∀ d x, rule.Ends l d x ↔ rule.tells e = false ∧ x = .pattern e) ∧
      (rule.tells e = true → l.run.result = .ok () →
        l.run.failures.filter (fun f => f.slug == slug) = l.documents.map fun d =>
          { slug, origin := d.origin, phase := .check
            fault := .misconfigured ("invalid pattern \x60" ++ rule.pattern ++ "\x60: "
              ++ e.message) }) := by
  obtain rfl := allow_eq_ok hrest
  have hmem := (rule?_eq_some hdistinct).1 hrule
  refine ⟨fun hothers => ?_, fun e hread => ⟨fun d x => PatternRule.ends_iff_of_unreadable hread,
    fun htells hrun => ?_⟩⟩
  · have hbeside := beside_pattern hdistinct hrule hplain hothers
    refine ⟨hbeside.sayings_prefix, fun hnone => ?_, fun hrun ⟨d, hd, x, hx⟩ => ?_⟩
    · obtain ⟨hsayings, hresult⟩ := hbeside.sayings_eq fun x ⟨d, hd, hx⟩ => hnone d hd x hx
      have hunit (t : Trace Unit) : (∃ y, t.result = .ok y) ↔ t.result = .ok () :=
        ⟨fun ⟨(), h⟩ => h, fun h => ⟨(), h⟩⟩
      exact ⟨hsayings, by rwa [hunit, hunit] at hresult⟩
    · rcases hbeside.ok_or_crash hrun with ⟨_, hok⟩ | ⟨y, ⟨d', hd', hy⟩, hcrash⟩
      · -- a run that comes to its end has nothing that ends it
        obtain ⟨source, -, hdocument⟩ := List.mem_filterMap.1 hd
        obtain ⟨cache, after, s, hcache, hchecked⟩ := checked_of_run hok hd
        exact absurd hx (PatternRule.not_ends_of_checked hmem hdocument hcache hchecked)
      · exact ⟨d', hd', y, hy, hcrash⟩
  · obtain ⟨hdiscover, hcheck⟩ := PatternRule.stop_of_tells hread htells
    exact failures_of_fault hdistinct hmem hdiscover (hcheck slug) hrun

/-- A text with a header that is there twice, and the rule that says so. -/
def repeating : Linter where
  rules := [("no-dup", { rule := .duplicates, level := none })]
  sources := [.text "---\na: b\na: c\n---\n" (some "a.md")]

/-- The same with one more rule. -/
def repeatingBeside (rule : PatternRule) : Linter :=
  repeating.withRules (("pattern", { rule := rule.toRule, level := none }) :: repeating.rules)

/-- What is wrong with a group that is not closed. -/
def unclosed : PatternError :=
  .malformed "missing ), unterminated subpattern" "(" (some 0)

theorem read_unclosed : Pattern.read "(" = .error unclosed := rfl

theorem repeating_plain : repeating.Plain :=
  .of_shipped (List.forall_mem_singleton.2 ⟨.duplicates, rfl⟩) (exists_defaultLevel _)

theorem repeating_run_result : repeating.run.result = .ok () :=
  run_result_of_completes repeating_plain (List.cons_ne_nil _ _) (List.cons_ne_nil _ _)
    (by decide +kernel)

theorem repeatingBeside_allow (rule : PatternRule) :
    (repeatingBeside rule).allow "pattern" = .ok repeating :=
  rfl

theorem repeatingBeside_distinct (rule : PatternRule) : (repeatingBeside rule).Distinct := by
  show ["pattern", "no-dup"].Nodup
  decide

theorem exists_document (rule : PatternRule) :
    ∃ d, d.origin = some "a.md" ∧ (repeatingBeside rule).documents = [d] := by
  have horigins : repeating.documents.map (·.origin) = [some "a.md"] := by decide +kernel
  obtain ⟨d, hdocuments, horigin⟩ := List.map_eq_singleton_iff.1 horigins
  exact ⟨d, horigin, hdocuments⟩

/-- The rule about prose tells that its pattern is no good, and the run goes on; the rule about links
ends it. -/
theorem run_with_unclosed_pattern :
    (∃ l, l = repeatingBeside (.prose { pattern := "(", message := "" }) ∧
      l.run.result = .ok () ∧ others "pattern" l.run.sayings = repeating.run.sayings ∧
      l.run.failures.filter (fun f => f.slug == "pattern") = [{
        slug := "pattern", origin := some "a.md", phase := .check,
        fault := .misconfigured
          "invalid pattern \x60(\x60: missing ), unterminated subpattern at position 0" }]) ∧
    ∃ l, l = repeatingBeside (.linkStatus { status := "status", flow := [], pattern := "(" }) ∧
      l.run.result = .error (.crash (.pattern unclosed)) := by
  refine ⟨⟨_, rfl, ?_⟩, ⟨_, rfl, ?_⟩⟩
  · obtain ⟨d, horigin, hdocuments⟩ :=
      exists_document (.prose { pattern := "(", message := "" })
    obtain ⟨hbeside, hunreadable⟩ := run_with_pattern
      (repeatingBeside_distinct (.prose { pattern := "(", message := "" })) rfl
      (repeatingBeside_allow _) (fun s h => by cases h)
    obtain ⟨-, hgoes, -⟩ := hbeside (List.cons_ne_nil _ _)
    obtain ⟨hends, hfailures⟩ := hunreadable unclosed read_unclosed
    obtain ⟨hsayings, hresult⟩ := hgoes fun d _ x hx => by cases ((hends d x).1 hx).1
    have hrun := hresult.2 repeating_run_result
    refine ⟨hrun, hsayings, ?_⟩
    rw [hfailures rfl hrun, hdocuments, List.map_singleton, horigin]
    rfl
  · obtain ⟨d, -, hdocuments⟩ := exists_document
      (.linkStatus { status := "status", flow := [], pattern := "(" })
    obtain ⟨hbeside, hunreadable⟩ := run_with_pattern
      (repeatingBeside_distinct (.linkStatus { status := "status", flow := [], pattern := "(" })) rfl
      (repeatingBeside_allow _) (fun _ _ => repeating_plain)
    obtain ⟨-, -, hcrash⟩ := hbeside (List.cons_ne_nil _ _)
    obtain ⟨hends, -⟩ := hunreadable unclosed read_unclosed
    have hd := hdocuments ▸ List.mem_singleton_self d
    obtain ⟨d', -, x, hx, hresult⟩ :=
      hcrash repeating_run_result ⟨d, hd, _, (hends d _).2 ⟨rfl, rfl⟩⟩
    rw [hresult, ((hends d' x).1 hx).2]

/-- A pattern that cannot be read ends a run that comes to its end without the rule about links. -/
theorem run_of_unclosed_pattern :
    ∃ l, l = repeatingBeside (.linkStatus { status := "status", flow := [], pattern := "(" }) ∧
      l.allow "pattern" = .ok repeating ∧ repeating.run.result = .ok () ∧
      Pattern.read "(" = .error unclosed ∧ l.run.result = .error (.crash (.pattern unclosed)) := by
  refine ⟨_, rfl, rfl, repeating_run_result, read_unclosed, ?_⟩
  obtain ⟨d, -, hdocuments⟩ := exists_document
    (.linkStatus { status := "status", flow := [], pattern := "(" })
  have hd := hdocuments ▸ List.mem_singleton_self d
  obtain ⟨source, hsource, hdocument⟩ := List.mem_filterMap.1 hd
  obtain rfl := List.mem_singleton.1 hsource
  obtain ⟨text, htext, hparse⟩ := document?_eq_some.1 hdocument
  obtain rfl := Option.some.inj htext
  have hstop := Rule.LinkStatus.stop_discover (d := d) (Rule.LinkStatus.proposalLinks_of_unreadable
    (s := { status := "status", flow := [], pattern := "(" }) read_unclosed)
  refine run_eq_error (List.cons_ne_nil _ _) rfl hparse ?_
  cases hresult : (discoverAll d (repeatingBeside _).orderedRules).result with
  | ok found =>
    refine absurd ((discoverAll_result.1 hresult).1 _ (mem_orderedRules.2 List.mem_cons_self)) ?_
    exact fun h => h _ hstop
  | error x =>
    obtain ⟨e, he, c, hcrash, rfl⟩ := discoverAll_eq_error hresult
    rcases List.mem_cons.1 (mem_orderedRules.1 he) with rfl | he
    · rw [Stop.crash.inj (Option.some.inj (hstop.symm.trans hcrash))]
    · obtain rfl := List.mem_singleton.1 he
      cases hcrash

end Linter

end ProposalCheck
