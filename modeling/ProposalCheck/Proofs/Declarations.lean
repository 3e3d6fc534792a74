import ProposalCheck.Proofs.Contexts
import ProposalCheck.Proofs.Prose
import ProposalCheck.Proofs.Visits

/-!
# Look-ups and what was asked for

`Linter.lookups_declared`: in every run, what some rule asked for on a document can be looked up in
the contexts of the document, where it leads to another document or to the reason why there is none.
The shipped rules look up only what they themselves asked for, so that no run of them records a
look-up of anything else.

`Linter.lookup_undeclared_iff`: a look-up of what no rule asked for on the document is refused
exactly if no rule asked for it on an earlier document of the run either. What is known belongs to
the run and not to the document, so that a rule that forgot to ask may get an answer all the same
(`Linter.lookup_undeclared_missed`).
-/

namespace ProposalCheck

namespace Findings

variable {x : Stop}

theorem stop_append {a b : Findings} (h : (a ++ b).stop = some x) :
    a.stop = some x ∨ b.stop = some x := by
  change (append a b).stop = some x at h
  unfold append at h
  cases ha : a.stop with
  | none => exact .inr (by simpa [ha] using h)
  | some y => exact .inl (by simpa [ha] using h)

theorem stop_concat {fs : List Findings} (h : (concat fs).stop = some x) :
    ∃ f ∈ fs, f.stop = some x := by
  induction fs with
  | nil => cases h
  | cons f rest ih =>
    rcases stop_append h with h | h
    · exact ⟨f, List.mem_cons_self, h⟩
    · obtain ⟨g, hg, hx⟩ := ih h
      exact ⟨g, List.mem_cons_of_mem _ hg, hx⟩

/-- A computation whose errors are told apart from a stop lets that stop pass only with a result. -/
theorem stop_ofExcept {ε α : Type} {r : Except ε α} {g : ε → Stop} {f : α → Findings}
    (hg : ∀ e, g e ≠ x) (h : (ofExcept (r.mapError g) f).stop = some x) :
    ∃ y, r = .ok y ∧ (f y).stop = some x := by
  cases r with
  | error e => exact absurd (Option.some.inj h) (hg e)
  | ok y => exact ⟨y, rfl, h⟩

end Findings

namespace Stop

theorem ofLookup_eq_undeclared {e : LookupError FetchError} {r : Reference}
    (h : ofLookup e = .fault (.undeclared r)) : e = .undeclared r := by
  cases e with
  | undeclared r' =>
    obtain rfl : r' = r := Fault.undeclared.inj (Stop.fault.inj h)
    rfl
  | failed e => cases h

end Stop

/-! ### Rules that stop for want of a document -/

namespace Cache

/-- The cache without what is known of a reference. -/
def without (cache : Cache FetchError Document) (r : Reference) : Cache FetchError Document :=
  { entries := cache.entries.filter fun e => e.1 != r }

theorem without_empty (r : Reference) : without .empty r = .empty := rfl

end Cache

namespace Rule

/-- A rule looks up a reference in a context: if nothing were known of the reference, the rule would
stop for want of it. -/
def LooksUp (rule : Rule) (slug : String) (c : Context) (r : Reference) : Prop :=
  (rule.check slug { c with cache := c.cache.without r }).stop = some (.fault (.undeclared r))

/-- When the rule stops for want of a reference, it has followed a path that it had asked for. -/
def StopsDeclared (rule : Rule) : Prop :=
  ∀ (slug : String) (c : Context) (r : Reference), (rule.discover c.document).stop = none →
    (rule.check slug c).stop = some (.fault (.undeclared r)) →
    ∃ name, c.atPath name = .error (.undeclared r) ∧
      c.document.pathReference name ∈ (rule.discover c.document).references

theorem StopsDeclared.mem_references {rule : Rule} (hrule : rule.StopsDeclared) {slug : String}
    {c : Context} {r : Reference} (hstop : (rule.discover c.document).stop = none)
    (h : (rule.check slug c).stop = some (.fault (.undeclared r))) :
    r ∈ (rule.discover c.document).references := by
  obtain ⟨name, hfollow, hmem⟩ := hrule slug c r hstop h
  rwa [Context.eq_of_follow_undeclared hfollow]

theorem StopsDeclared.get?_eq_none {rule : Rule} (hrule : rule.StopsDeclared) {slug : String}
    {c : Context} {r : Reference} (hstop : (rule.discover c.document).stop = none)
    (h : (rule.check slug c).stop = some (.fault (.undeclared r))) : c.cache.get? r = none := by
  obtain ⟨name, hfollow, -⟩ := hrule slug c r hstop h
  obtain rfl := Context.eq_of_follow_undeclared hfollow
  exact Context.follow_eq_undeclared.1 hfollow

/-! ### Rules that follow no references -/

theorem duplicates_stopsDeclared : duplicates.StopsDeclared :=
  fun _ _ _ _ h => by cases h

theorem spacing_stopsDeclared : spacing.StopsDeclared :=
  fun _ _ _ _ h => by cases h

theorem required_stopsDeclared (names : List String) : (required names).StopsDeclared := by
  intro slug c r _ h
  simp only [required, Required.check] at h
  split at h
  · cases h
  · obtain ⟨first, -, h⟩ := Findings.stop_ofExcept (fun e he => by cases he) h
    cases h

theorem prose_stopsDeclared (s : Prose.Setup) : (prose s).StopsDeclared := by
  intro slug c r _ h
  simp only [prose, Prose.check_eq] at h
  obtain ⟨pattern, -, h⟩ := Findings.stop_ofExcept (fun e he => by cases e <;> cases he) h
  obtain ⟨f, hf, h⟩ := Findings.stop_concat h
  obtain ⟨p, -, rfl⟩ := List.mem_map.1 hf
  unfold Prose.judge at h
  split at h
  · cases h
  · split at h
    · cases h
    · obtain ⟨snippet, -, h⟩ := Findings.stop_ofExcept (fun e he => by cases he) h
      cases h

/-! ### The status of required proposals -/

namespace RequiredStatus

variable {s : Setup} {slug : String} {c : Context} {f : Field}

theorem stop_judgeAll {judge : Item → Except Stop Verdict} {is : List Item} {x : Stop}
    (h : (judgeAll judge is).2 = some x) : ∃ i ∈ is, judge i = .error x := by
  induction is with
  | nil => cases h
  | cons i rest ih =>
    rw [judgeAll] at h
    cases hi : judge i with
    | error y =>
      obtain rfl : y = x := by simpa [hi] using h
      exact ⟨i, List.mem_cons_self, hi⟩
    | ok v =>
      obtain ⟨j, hj, hx⟩ := ih (by simpa [hi] using h)
      exact ⟨j, List.mem_cons_of_mem _ hj, hx⟩

theorem atPath_of_judge {i : Item} {r : Reference}
    (h : judge s slug c f i = .error (.fault (.undeclared r))) :
    ∃ n, i.number? = .ok (some n) ∧ c.atPath (fileName n) = .error (.undeclared r) := by
  unfold judge at h
  cases hi : i.number? with
  | error e => simp [hi, mapError_error, bind, Except.bind] at h
  | ok o =>
    cases o with
    | none => simp [hi, mapError_ok, bind, Except.bind, pure, Except.pure] at h
    | some n =>
      simp only [hi, mapError_ok, bind, Except.bind] at h
      refine ⟨n, rfl, ?_⟩
      rcases hother : c.atPath (fileName n) with e | other
      · cases e with
        | undeclared r' =>
          simp only [hother] at h
          rw [Stop.ofLookup_eq_undeclared (Except.error.inj h)]
        | failed e =>
          simp only [hother] at h
          cases h
      · simp only [hother] at h
        cases h

end RequiredStatus

theorem requiredStatus_stopsDeclared (s : RequiredStatus.Setup) :
    (requiredStatus s).StopsDeclared := by
  intro slug c r hstop h
  simp only [requiredStatus, RequiredStatus.discover] at hstop ⊢
  simp only [requiredStatus, RequiredStatus.check, Context.preamble] at h
  cases hf : c.document.preamble.byName? s.requires with
  | none => simp [hf, Findings.none] at h
  | some f =>
    simp only [hf] at h
    obtain ⟨i, hi, hjudge⟩ := RequiredStatus.stop_judgeAll h
    obtain ⟨n, hn, hfollow⟩ := RequiredStatus.atPath_of_judge hjudge
    cases hns : RequiredStatus.numbers f.value with
    | error e => simp [hf, hns] at hstop
    | ok ns =>
      simp only [hns]
      exact ⟨_, hfollow, List.mem_map.2 ⟨n, RequiredStatus.mem_numbers hns hi hn, rfl⟩⟩

/-! ### Mentions of proposals -/

theorem Mention.stop_discoverAll {s : Mention.Setup} {d : Document} {value : String}
    {ms : List Pattern.Match} {x : Stop} (h : (Mention.discoverAll s d value ms).stop = some x) :
    ∃ c, x = .crash c := by
  induction ms with
  | nil => cases h
  | cons m rest ih =>
    rw [Mention.discoverAll] at h
    split at h
    · exact ⟨_, (Option.some.inj h).symm⟩
    · exact ih h

theorem Mention.atPath_of_judge {s : Mention.Setup} {slug : String} {c : Context} {f : Field}
    {m : Pattern.Match} {r : Reference}
    (h : (Mention.judge s slug c f m).stop = some (.fault (.undeclared r))) :
    ∃ n, Mention.number f.value m = .ok n ∧ c.atPath (s.fileName n) = .error (.undeclared r) := by
  unfold Mention.judge at h
  obtain ⟨n, hn, h⟩ := Findings.stop_ofExcept (fun e he => by cases he) h
  refine ⟨n, hn, ?_⟩
  rcases hother : c.atPath (s.fileName n) with e | other
  · cases e with
    | undeclared r' =>
      simp only [hother] at h
      rw [Stop.ofLookup_eq_undeclared (Option.some.inj h)]
    | failed e =>
      simp only [hother] at h
      cases h
  · simp only [hother] at h
    split at h <;> cases h

theorem mention_stopsDeclared (s : Mention.Setup) : (mention s).StopsDeclared := by
  intro slug c r hstop h
  simp only [mention, Mention.discover] at hstop ⊢
  simp only [mention, Mention.check, Context.preamble] at h
  cases hf : c.document.preamble.byName? s.field with
  | none => simp [hf, Findings.none] at h
  | some f =>
    simp only [hf] at hstop h ⊢
    obtain ⟨_, hfindings, hjudge⟩ := Findings.stop_concat h
    obtain ⟨m, hm, rfl⟩ := List.mem_map.1 hfindings
    obtain ⟨n, hn, hfollow⟩ := Mention.atPath_of_judge hjudge
    exact ⟨_, hfollow, Mention.mem_discoverAll hstop hm hn⟩

/-! ### The status of linked proposals -/

namespace LinkStatus

variable {s : Setup} {slug : String} {c : Context}

/-- Why the rule stops at a link: its line cannot be shown, or nothing is known of what it leads to. -/
theorem stop_judge {link : ProposalLink} {lowest : Option Nat} {x : Stop}
    (h : (judge s slug c lowest link).1.stop = some x) :
    (∃ e, snippet c link.toLink = .error e ∧ x = .crash (.line e)) ∨
      ∃ r, c.atPath link.fileName = .error (.undeclared r) ∧ x = .fault (.undeclared r) := by
  unfold judge at h
  cases hsnippet : snippet c link.toLink with
  | error e =>
    rw [hsnippet] at h
    exact .inl ⟨e, rfl, (Option.some.inj h).symm⟩
  | ok shown =>
    rw [hsnippet] at h
    rcases hother : c.atPath link.fileName with (r | e) | other
    · rw [hother] at h
      exact .inr ⟨r, rfl, (Option.some.inj h).symm⟩
    · rw [hother] at h
      cases h
    · rw [hother] at h
      dsimp only at h
      split at h <;> cases h

theorem stop_judgeAll {links : List ProposalLink} {lowest : Option Nat} {x : Stop}
    (h : (judgeAll s slug c lowest links).stop = some x) :
    ∃ lowest, ∃ link ∈ links, (judge s slug c lowest link).1.stop = some x := by
  induction links generalizing lowest with
  | nil => cases h
  | cons link rest ih =>
    rcases Findings.stop_append h with h | h
    · exact ⟨lowest, link, List.mem_cons_self, h⟩
    · obtain ⟨lowest, found, hfound, hx⟩ := ih h
      exact ⟨lowest, found, List.mem_cons_of_mem _ hfound, hx⟩

end LinkStatus

theorem linkStatus_stopsDeclared (s : LinkStatus.Setup) : (linkStatus s).StopsDeclared := by
  intro slug c r hstop h
  simp only [linkStatus, LinkStatus.discover] at hstop ⊢
  simp only [linkStatus, LinkStatus.check] at h
  cases hl : LinkStatus.proposalLinks s c.document with
  | error e => simp [hl] at hstop
  | ok links =>
    simp only [hl, mapError_ok, Findings.ofExcept] at h
    obtain ⟨lowest, link, hlink, hjudge⟩ := LinkStatus.stop_judgeAll h
    rcases LinkStatus.stop_judge hjudge with ⟨e, -, heq⟩ | ⟨r', hfollow, heq⟩
    · cases heq
    · cases heq
      exact ⟨_, hfollow, List.mem_map.2 ⟨link, hlink, rfl⟩⟩

end Rule

/-- When a shipped rule stops for want of a reference, it had asked for it. -/
theorem Shipped.stopsDeclared (s : Shipped) : s.toRule.StopsDeclared := by
  cases s with
  | duplicates => exact Rule.duplicates_stopsDeclared
  | spacing => exact Rule.spacing_stopsDeclared
  | required names => exact Rule.required_stopsDeclared names
  | requiredStatus s => exact Rule.requiredStatus_stopsDeclared s
  | mention s => exact Rule.mention_stopsDeclared s
  | prose s => exact Rule.prose_stopsDeclared s
  | linkStatus s => exact Rule.linkStatus_stopsDeclared s

/-- A shipped rule that stops when it is asked which references it needs ends the run. -/
theorem Shipped.discover_stop (s : Shipped) {d : Document} {x : Stop}
    (h : (s.toRule.discover d).stop = some x) : ∃ c, x = .crash c := by
  cases s with
  | duplicates => cases h
  | spacing => cases h
  | required names => cases h
  | prose s => cases h
  | requiredStatus s =>
    simp only [toRule, Rule.requiredStatus, Rule.RequiredStatus.discover] at h
    split at h
    · cases h
    · split at h
      · cases h
      · exact ⟨_, (Option.some.inj h).symm⟩
  | mention s =>
    simp only [toRule, Rule.mention, Rule.Mention.discover] at h
    split at h
    · cases h
    · exact Rule.Mention.stop_discoverAll h
  | linkStatus s =>
    simp only [toRule, Rule.linkStatus, Rule.LinkStatus.discover] at h
    split at h
    · cases h
    · exact ⟨_, (Option.some.inj h).symm⟩

namespace Linter

variable {l : Linter} {before : List Source} {c : Context} {r : Reference}

theorem path_of_document? {s : Source} {d : Document} (h : l.document? s = some d) :
    d.path = s.path := by
  obtain ⟨_, -, hparse⟩ := document?_eq_some.1 h
  exact Document.path_of_parse hparse

/-! ### Look-ups in a run -/

/-- What some rule asked for on a document can be looked up there. -/
theorem Reaches.follow_cases (h : l.Reaches before c.document c.cache) (hr : r ∈ l.wanted c.document) :
    (∃ other, c.follow r = .ok other) ∨ ∃ e, c.follow r = .error (.failed e) :=
  Context.follow_of_isSome fun hnone => (h.get?_eq_none.1 hnone).2 hr

theorem Reaches.follow_eq_undeclared_iff (h : l.Reaches before c.document c.cache) :
    c.follow r = .error (.undeclared r) ↔
      (∀ e ∈ l.rules, r ∉ (e.2.rule.discover c.document).references) ∧ ¬ l.AskedFor before r := by
  rw [Context.follow_eq_undeclared, h.get?_eq_none, mem_wanted, and_comm]
  simp

theorem failureRecord?_fault {slug : String} {origin : Option String} {phase : Phase}
    {stop : Option Stop} {f : RuleFailure} (h : failureRecord? slug origin phase stop = some f) :
    stop = some (.fault f.fault) := by
  rcases stop with _ | fault | crash
  · cases h
  · obtain rfl := Option.some.inj h
    rfl
  · cases h

/-- No record of shipped rules is about a reference that was never asked for. -/
theorem not_undeclared_of_recorded (hrules : ∀ e ∈ l.rules, ∃ s : Shipped, e.2.rule = s.toRule)
    {f : RuleFailure} (hf : l.Recorded f) (r : Reference) : f.fault ≠ .undeclared r := by
  intro hfault
  rcases hf with ⟨d, e, he, hrecord⟩ | ⟨e, c, hasks, hrecord⟩
  · obtain ⟨s, hs⟩ := hrules e he
    have hstop := failureRecord?_fault hrecord
    rw [hs] at hstop
    obtain ⟨x, hx⟩ := s.discover_stop hstop
    cases hx
  · obtain ⟨hactive, before, hreached⟩ := hasks
    obtain ⟨hmem, hstop⟩ := List.mem_filter.1 hactive
    obtain ⟨s, hs⟩ := hrules e (mem_orderedRules.1 hmem)
    have hdeclared : e.2.rule.StopsDeclared := hs ▸ s.stopsDeclared
    have hundeclared := failureRecord?_fault hrecord
    rw [hfault] at hundeclared
    rw [Option.isNone_iff_eq_none] at hstop
    -- the rule asked for the reference on this document, so that something is known of it here
    have hasked := hdeclared.mem_references hstop hundeclared
    have hunknown := hdeclared.get?_eq_none hstop hundeclared
    exact (hreached.get?_eq_none.1 hunknown).2 (mem_wanted.2 ⟨e, mem_orderedRules.1 hmem, hasked⟩)

/-- What some rule asked for on a document can be looked up there, and leads to another document or
to the reason why there is none. Shipped rules look up only what they themselves asked for, so that
no record of a run of them is about anything else. -/
theorem lookups_declared (l : Linter) :
    (∀ (before : List Source) (c : Context), l.Reaches before c.document c.cache →
      (∀ requested : String,
        (∃ e ∈ l.rules,
          c.document.pathReference requested ∈ (e.2.rule.discover c.document).references) →
        (∃ other, c.atPath requested = .ok other) ∨ ∃ e, c.atPath requested = .error (.failed e)) ∧
      ∀ number : Int,
        (∃ e ∈ l.rules,
          c.document.siblingReference number ∈ (e.2.rule.discover c.document).references) →
        (∃ other, c.sibling number = .ok other) ∨ ∃ e, c.sibling number = .error (.failed e)) ∧
    (∀ s : Shipped, s.toRule.LooksUpDeclared ∧
      ∀ (slug : String) (c : Context) (r : Reference), (s.toRule.discover c.document).stop = none →
        s.toRule.LooksUp slug c r → r ∈ (s.toRule.discover c.document).references) ∧
    ((∀ e ∈ l.rules, ∃ s : Shipped, e.2.rule = s.toRule) →
      ∀ {σ : Type} (reporter : Reporter σ) (start : σ),
        ∀ f ∈ (reporter.deliver start l.run).failures, ∀ r, f.fault ≠ .undeclared r) := by
  refine ⟨fun before c h => ⟨fun requested hasked => ?_, fun number hasked => ?_⟩, fun s => ?_, ?_⟩
  · exact h.follow_cases (mem_wanted.2 hasked)
  · exact h.follow_cases (mem_wanted.2 hasked)
  · exact ⟨s.looksUpDeclared, fun slug c r hstop hlooks =>
      s.stopsDeclared.mem_references (c := { c with cache := c.cache.without r }) hstop hlooks⟩
  · intro hrules σ reporter start f hf
    exact not_undeclared_of_recorded hrules (failure_origin (reporter.mem_failures_of_deliver hf))

theorem drafts_run_result : drafts.run.result = .ok () := by
  have hl : drafts.Plain := .of_shipped drafts_rules (exists_defaultLevel _)
  have hchecked := checkSources_eq_flatMap hl coherent_empty fun s hs =>
    (only_run_result.1 (drafts_singles s hs)).2
  exact run_result.2 ⟨List.cons_ne_nil _ _, List.cons_ne_nil _ _, hchecked.1⟩

/-- The first of the drafts, which needs a proposal that is there and one that is missing. -/
def firstDraft : Source :=
  .text "---\nstatus: Final\nrequires: 9, 10\n---\n" (some "EIPS/eip-1.md")

/-- A rule of the drafts. -/
def requiredStatusRule : Shipped :=
  .requiredStatus { requires := "requires", status := "status", flow := Shipped.statusFlow }

/-- Whether a rule stops for want of a reference. -/
def stopsForWantOf (r : Reference) : Option Stop → Bool
  | some (.fault (.undeclared r')) => r' == r
  | _ => false

theorem stop_of_stopsForWantOf {r : Reference} {stop : Option Stop}
    (h : stopsForWantOf r stop = true) : stop = some (.fault (.undeclared r)) := by
  unfold stopsForWantOf at h
  split at h
  · rw [beq_iff_eq.1 h]
  · cases h

theorem drafts_lookups_declared :
    ∃ c : Context, drafts.Reaches [] c.document c.cache ∧
      drafts.document? firstDraft = some c.document ∧
      ((∃ other, c.atPath "eip-10.md" = .ok other) ∨
        ∃ e, c.atPath "eip-10.md" = .error (.failed e)) ∧
      (requiredStatusRule.toRule.LooksUp "requires-status" { c with cache := .empty }
          (.path "EIPS/eip-9.md") ∧
        .path "EIPS/eip-9.md" ∈ (requiredStatusRule.toRule.discover c.document).references) ∧
      ∀ f ∈ (Reporter.discarding.deliver () drafts.run).failures, ∀ r, f.fault ≠ .undeclared r := by
  have hdraft : (drafts.document? firstDraft).any (fun d =>
      (drafts.rules.any fun e =>
        (e.2.rule.discover d).references.contains (d.pathReference "eip-10.md"))
      && (requiredStatusRule.toRule.discover d).stop.isNone
      && stopsForWantOf (.path "EIPS/eip-9.md") (requiredStatusRule.toRule.check "requires-status"
        { document := d, cache := .empty, level := .error, settings := {} }).stop) = true := by
    decide +kernel
  obtain ⟨d, hdocument, hd⟩ := (Option.any_eq_true _ _).1 hdraft
  simp only [Bool.and_eq_true, Option.isNone_iff_eq_none] at hd
  obtain ⟨⟨hasked, hstop⟩, hwants⟩ := hd
  have hsources : drafts.sources = [] ++ firstDraft :: drafts.sources.tail := rfl
  obtain ⟨cache, hreaches⟩ := exists_reaches drafts_run_result hsources hdocument
  obtain ⟨hfollow, hlooks, hrecords⟩ := lookups_declared drafts
  let c : Context := { document := d, cache, level := .error, settings := {} }
  have hlooksUp : requiredStatusRule.toRule.LooksUp "requires-status" { c with cache := .empty }
      (.path "EIPS/eip-9.md") := by
    unfold Rule.LooksUp
    rw [Cache.without_empty]
    exact stop_of_stopsForWantOf hwants
  have hdeclared := (hlooks requiredStatusRule).2 "requires-status" { c with cache := .empty }
    (.path "EIPS/eip-9.md") hstop hlooksUp
  refine ⟨c, hreaches, hdocument, (hfollow [] c hreaches).1 "eip-10.md" ?_, ⟨hlooksUp, hdeclared⟩,
    hrecords drafts_rules Reporter.discarding ()⟩
  simpa using hasked

/-- A look-up of what no rule asked for on the document is refused exactly if no rule asked for it on
an earlier document of the run. -/
theorem lookup_undeclared_iff (l : Linter) (before : List Source) (c : Context)
    (h : l.Reaches before c.document c.cache) :
    (∀ requested : String,
      c.atPath requested = .error (.undeclared (c.document.pathReference requested)) ↔
        (∀ e ∈ l.rules,
          c.document.pathReference requested ∉ (e.2.rule.discover c.document).references) ∧
        ¬ l.AskedFor before (c.document.pathReference requested)) ∧
    ∀ number : Int,
      c.sibling number = .error (.undeclared (c.document.siblingReference number)) ↔
        (∀ e ∈ l.rules,
          c.document.siblingReference number ∉ (e.2.rule.discover c.document).references) ∧
        ¬ l.AskedFor before (c.document.siblingReference number) :=
  ⟨fun _ => h.follow_eq_undeclared_iff, fun _ => h.follow_eq_undeclared_iff⟩

/-- A rule that asks for the companion of a proposal in the directory of the proposal, and looks it
up in another one. -/
def forgetfulRule : Rule where
  description := "Proposals have a companion."
  summary := "Forgetful()"
  discover d := { references := [d.pathReference "x.md"] }
  check _ c :=
    match c.atPath "../A/x.md" with
    | .ok _ => .none
    | .error e => { stop := some (.ofLookup e) }

/-- Two proposals in different directories. The companion of the first one is what the rule looks up
for the second one. -/
def forgetful : Linter where
  rules := [("companion", { rule := forgetfulRule, level := none })]
  reader p :=
    if p.text == "A/x.md" then .ok "---\nstatus: Final\n---\n" else .error (.unreadable "missing")
  sources := [.text "---\nstatus: Draft\n---\n" (some "A/one.md"),
    .text "---\nstatus: Draft\n---\n" (some "B/two.md")]

theorem forgetful_orderly : ∀ e ∈ forgetful.rules, e.2.rule.Orderly := by
  refine List.forall_mem_singleton.2 ⟨?_, ?_⟩
  · intro d x h
    cases h
  intro slug c x h
  simp only [forgetfulRule] at h
  split at h
  · cases h
  · rename_i e _
    obtain rfl := Option.some.inj h
    cases e <;> exact ⟨_, rfl⟩

theorem forgetful_run_result : forgetful.run.result = .ok () := by
  have hl : forgetful.quiet.Plain :=
    ⟨List.forall_mem_singleton.2 (Rule.quiet_looksUpDeclared _), exists_defaultLevel _⟩
  exact (run_quiet_iff forgetful_orderly).1
    (run_result_of_completes hl (List.cons_ne_nil _ _) (List.cons_ne_nil _ _) (by decide +kernel))

theorem forgetful_references (d : Document) :
    ∀ e ∈ forgetful.rules, (e.2.rule.discover d).references = [d.pathReference "x.md"] :=
  List.forall_mem_singleton.2 rfl

theorem forgetful_askedFor {r : Reference} :
    forgetful.AskedFor [forgetful.sources[0]] r ↔ r = .path "A/x.md" := by
  have hparses : (forgetful.document? forgetful.sources[0]).isSome = true := by decide +kernel
  obtain ⟨d, hdocument⟩ := Option.isSome_iff_exists.1 hparses
  have hkey : d.pathReference "x.md" = .path "A/x.md" := by
    rw [Document.pathReference, path_of_document? hdocument]
    decide +kernel
  have hrules : forgetful.rules ≠ [] := List.cons_ne_nil _ _
  simp only [AskedFor, List.mem_singleton, exists_eq_left, hdocument, Option.some.injEq,
    exists_eq_left']
  constructor
  · rintro ⟨e, he, hr⟩
    rwa [forgetful_references _ e he, List.mem_singleton, hkey] at hr
  · rintro rfl
    obtain ⟨e, he⟩ := List.exists_mem_of_ne_nil _ hrules
    exact ⟨e, he, by rw [forgetful_references _ e he, hkey, List.mem_singleton]⟩

/-- The run comes to the second proposal. -/
theorem forgetful_reaches :
    ∃ c : Context, forgetful.Reaches [forgetful.sources[0]] c.document c.cache ∧
      c.document.path = some (Path.ofText "B/two.md") := by
  have hparses : (forgetful.document? forgetful.sources[1]).isSome = true := by decide +kernel
  obtain ⟨d, hdocument⟩ := Option.isSome_iff_exists.1 hparses
  have hsources : forgetful.sources = [forgetful.sources[0]] ++ forgetful.sources[1] :: [] := rfl
  obtain ⟨cache, hreaches⟩ := exists_reaches forgetful_run_result hsources hdocument
  exact ⟨{ document := d, cache, level := .error, settings := {} }, hreaches,
    path_of_document? hdocument⟩

/-- What the rule never asks for is refused for the second proposal. -/
theorem forgetful_lookup_undeclared :
    ∃ c : Context, forgetful.Reaches [forgetful.sources[0]] c.document c.cache ∧
      c.atPath "../A/y.md" = .error (.undeclared (.path "A/y.md")) := by
  obtain ⟨c, hreaches, hpath⟩ := forgetful_reaches
  have hlookup : c.document.pathReference "../A/y.md" = .path "A/y.md" := by
    rw [Document.pathReference, hpath]
    decide +kernel
  refine ⟨c, hreaches, ?_⟩
  rw [← hlookup]
  refine ((lookup_undeclared_iff forgetful _ c hreaches).1 "../A/y.md").2 ⟨fun e he => ?_, ?_⟩
  · rw [forgetful_references _ e he, hlookup, Document.pathReference, hpath]
    decide +kernel
  · rw [forgetful_askedFor, hlookup]
    decide

/-- The rule does not ask for what it looks up for the second proposal, and is not refused. -/
theorem lookup_undeclared_missed :
    ∃ c : Context, forgetful.Reaches [forgetful.sources[0]] c.document c.cache ∧
      (∀ e ∈ forgetful.rules,
        c.document.pathReference "../A/x.md" ∉ (e.2.rule.discover c.document).references) ∧
      ∀ r, c.atPath "../A/x.md" ≠ .error (.undeclared r) := by
  obtain ⟨c, hreaches, hpath⟩ := forgetful_reaches
  have hlookup : c.document.pathReference "../A/x.md" = .path "A/x.md" := by
    rw [Document.pathReference, hpath]
    decide +kernel
  refine ⟨c, hreaches, fun e he => ?_, fun r hr => ?_⟩
  · rw [forgetful_references _ e he, hlookup, Document.pathReference, hpath]
    decide +kernel
  · obtain rfl := Context.eq_of_follow_undeclared hr
    exact (hreaches.follow_eq_undeclared_iff.1 hr).2 (forgetful_askedFor.2 hlookup)

end Linter

end ProposalCheck
