import ProposalCheck.Proofs.Registry
import ProposalCheck.Proofs.Sharing
import ProposalCheck.Report.Delivery

/-!
# Each rule is asked once

`Linter.deliver_visits`: rules that stop with nothing but faults do not end a run, and the run is, one
source after the other, what `Linter.visitEvents` says. On each document every rule is asked once
which references it needs, in ascending order of the slugs and before any of them is followed; when
they have been followed and the modifiers have settled the level, every rule that did not stop is
asked once for its findings, in the same order. Each stop leaves one record, in the order in which
they happen, and what a rule reported before it stopped is kept.

That nothing but the rules could end the run is said by a run with other rules: those of
`Linter.quiet` ask for the same references and do nothing else. Under orderly rules the one run
comes to its end exactly if the other does (`Linter.run_quiet_iff`).
-/

namespace ProposalCheck

theorem Document.origin_of_parse {source : String} {origin : Option String} {path : Option Path}
    {d : Document} (h : Document.parse source origin path = .ok d) : d.origin = origin := by
  obtain ⟨_, -, h⟩ := bind_eq_ok.1 h
  obtain ⟨_, -, h⟩ := bind_eq_ok.1 h
  obtain ⟨_, -, h⟩ := bind_eq_ok.1 h
  rw [← Except.ok.inj h]

theorem Document.path_of_parse {source : String} {origin : Option String} {path : Option Path}
    {d : Document} (h : Document.parse source origin path = .ok d) : d.path = path := by
  obtain ⟨_, -, h⟩ := bind_eq_ok.1 h
  obtain ⟨_, -, h⟩ := bind_eq_ok.1 h
  obtain ⟨_, -, h⟩ := bind_eq_ok.1 h
  rw [← Except.ok.inj h]

/-! ### Reporters that take every message -/

namespace Reporter

variable {σ : Type}

theorem deliverEvents_of_reportAll (r : Reporter σ) {s : σ} {es : List Event}
    (h : (r.reportAll s (es.filterMap Event.message?)).2 = none) :
    r.deliverEvents s es = ((r.reportAll s (es.filterMap Event.message?)).1, es, none) := by
  induction es generalizing s with
  | nil => rfl
  | cons e rest ih =>
    cases he : e.message? with
    | none =>
      rw [List.filterMap_cons_none he] at h ⊢
      simp only [deliverEvents, he, ih h]
    | some m =>
      rw [List.filterMap_cons_some he] at h ⊢
      cases hm : r.report s m with
      | mk s' stop =>
        cases stop with
        | none =>
          simp only [reportAll, hm] at h ⊢
          simp only [deliverEvents, he, hm, ih h]
        | some c => simp [reportAll, hm] at h

theorem deliver_of_reportAll (r : Reporter σ) {s : σ} {α : Type} {t : Trace α} {x : α}
    (ht : t.result = .ok x) (h : (r.reportAll s t.messages).2 = none) :
    r.deliver s t = { state := (r.reportAll s t.messages).1, events := t.events, error := none } := by
  simp only [deliver, deliverEvents_of_reportAll r h, ht]
  rfl

theorem deliver_of_error (r : Reporter σ) {s : σ} {α : Type} {t : Trace α} {e : RunError}
    (ht : t.result = .error e) (h : (r.reportAll s t.messages).2 = none) :
    r.deliver s t
      = { state := (r.reportAll s t.messages).1, events := t.events, error := some e } := by
  simp only [deliver, deliverEvents_of_reportAll r h, ht]
  rfl

theorem reportAll_eq_none {r : Reporter σ} (h : ∀ s m, (r.report s m).2 = none) (s : σ)
    (ms : List Message) : (r.reportAll s ms).2 = none := by
  induction ms generalizing s with
  | nil => rfl
  | cons m rest ih =>
    have hm := h s m
    cases hs : r.report s m with
    | mk s' stop =>
      rw [hs] at hm
      obtain rfl : stop = none := hm
      simpa [reportAll, hs] using ih s'

end Reporter

/-! ### Orderly rules -/

namespace Rule

/-- The rule stops with nothing but faults, and not because of a missing document when it is asked
which references it needs. -/
structure Orderly (r : Rule) : Prop where
  discover : ∀ d x, (r.discover d).stop = some x → ∃ f, x = .fault f ∧ ∀ e, f ≠ .unavailable e
  check : ∀ slug c x, (r.check slug c).stop = some x → ∃ f, x = .fault f

/-- The rule that asks for the same references and does nothing else. -/
def quiet (r : Rule) : Rule :=
  { r with
    discover := fun d => { references := (r.discover d).references }
    check := fun _ _ => .none }

theorem quiet_looksUpDeclared (r : Rule) : r.quiet.LooksUpDeclared :=
  fun _ _ _ _ _ _ _ _ => rfl

end Rule

theorem Stop.benign_of_fault {stop : Option Stop} (h : ∀ x, stop = some x → ∃ f, x = .fault f) :
    Stop.Benign stop := by
  intro c hc
  obtain ⟨f, hf⟩ := h _ hc
  cases hf

theorem failureRecord?_isSome {slug : String} {origin : Option String} {phase : Phase}
    {stop : Option Stop} (h : Stop.Benign stop) :
    (failureRecord? slug origin phase stop).isSome = stop.isSome := by
  rcases stop with _ | f | c
  · rfl
  · rfl
  · exact absurd h (Stop.not_benign_crash c)

/-! ### Visits -/

/-- What became of a source. -/
inductive Visit where
  /-- The text is not a document, as these messages say. -/
  | malformed (source : Source) (messages : List Message)
  /-- The text is a document. Following its references with the events `following` left `after`
  behind, and the modifiers left `settings`. -/
  | parsed (source : Source) (document : Document) (following : List Event)
      (after : Cache FetchError Document) (settings : Settings)

namespace Visit

/-- The source of a visit. -/
def source : Visit → Source
  | malformed source _ => source
  | parsed source _ _ _ _ => source

end Visit

namespace Linter

variable {l : Linter} {d : Document} {cache after : Cache FetchError Document}

/-- What becomes of a document that the rules are asked about. -/
structure Asked (l : Linter) (source : Source) (d : Document) (following : List Event)
    (after : Cache FetchError Document) (s : Settings) : Prop where
  document : l.document? source = some d
  origin : d.origin = source.origin
  /-- Nothing but following references happens while references are followed. -/
  following : ∀ e ∈ following, e.isFollowing
  /-- Whatever was asked for has been followed. -/
  answered : ∀ r ∈ l.wanted d, (after.get? r).isSome
  settled : (modifyAll (modifierContext d after) {} l.modifiers).result = .ok s
  /-- Each rule that stopped has left a record. -/
  discoveryRecorded : ∀ e ∈ l.rules,
    (discoveryFailure? d e).isSome = (e.2.rule.discover d).stop.isSome
  checkRecorded : ∀ e ∈ l.active d,
    (checkFailure? d after s.freeze e).isSome = (findings d after s.freeze e).stop.isSome

/-- A visit is one of this linter. -/
def Fits (l : Linter) : Visit → Prop
  | .malformed source messages => ∃ text e, l.text? source = some text ∧
      Document.parse text source.origin source.path = .error e ∧
      parseMessages text source.origin e = .ok messages
  | .parsed source d following after s => l.Asked source d following after s

/-- The events of a visit. -/
def visitEvents (l : Linter) : Visit → List Event
  | .malformed source messages =>
    source.readEvents ++ .progress source.origin .unparsed ::
      (messages.map .report ++ [.progress source.origin .notParsed])
  | .parsed source d following after s =>
    source.readEvents ++ .progress source.origin .unparsed ::
      l.documentEvents d after s.freeze following

/-- The records of a visit: of the rules that stopped when they were asked which references they
need, and then of those that stopped when they were asked for their findings. -/
def visitFailures (l : Linter) : Visit → List RuleFailure
  | .malformed _ _ => []
  | .parsed _ d _ after s =>
    l.orderedRules.filterMap (discoveryFailure? d)
      ++ (l.active d).filterMap (checkFailure? d after s.freeze)

/-- The messages of a visit, those of rules that stopped among them. -/
def visitMessages (l : Linter) : Visit → List Message
  | .malformed _ messages => messages
  | .parsed _ d _ after s => (l.active d).flatMap fun e => (findings d after s.freeze e).messages

theorem failures_visitEvents {v : Visit} (h : l.Fits v) :
    (l.visitEvents v).filterMap Event.failure? = l.visitFailures v := by
  cases v with
  | malformed source ms =>
    rw [visitEvents, List.filterMap_append, source.failures_readEvents, List.nil_append,
      List.filterMap_cons_none rfl, List.filterMap_append, Event.failures_map_report]
    rfl
  | parsed source d following after s =>
    rw [visitEvents, List.filterMap_append, source.failures_readEvents, List.nil_append,
      List.filterMap_cons_none rfl, failures_documentEvents h.following]
    rfl

theorem messages_visitEvents {v : Visit} (h : l.Fits v) :
    (l.visitEvents v).filterMap Event.message? = l.visitMessages v := by
  cases v with
  | malformed source ms =>
    rw [visitEvents, List.filterMap_append, source.messages_readEvents, List.nil_append,
      List.filterMap_cons_none rfl, List.filterMap_append, Event.messages_map_report]
    exact List.append_nil _
  | parsed source d following after s =>
    rw [visitEvents, List.filterMap_append, source.messages_readEvents, List.nil_append,
      List.filterMap_cons_none rfl, messages_documentEvents h.following]
    rfl

/-! ### Quiet rules -/

/-- The linter with quiet rules. -/
def quiet (l : Linter) : Linter :=
  { l with rules := l.rules.map fun e => (e.1, { e.2 with rule := e.2.rule.quiet }) }

theorem quiet_wanted (l : Linter) (d : Document) : l.quiet.wanted d = l.wanted d := by
  have hordered : l.quiet.orderedRules
      = l.orderedRules.map fun e => (e.1, { e.2 with rule := e.2.rule.quiet }) := by
    refine (List.map_mergeSort ?_).symm
    exact fun _ _ _ _ => rfl
  rw [wanted, hordered, List.flatMap_map]
  rfl

/-- Orderly rules come to their end on a document exactly if quiet ones do. -/
theorem checked_quiet_iff (horderly : ∀ e ∈ l.rules, e.2.rule.Orderly) {s : Settings} :
    l.quiet.Checked d cache after s ↔ l.Checked d cache after s := by
  constructor
  · intro h
    refine ⟨fun e he => ?_, ?_, h.settled, fun e he => ?_⟩
    · refine Stop.benign_of_fault fun x hx => ?_
      obtain ⟨f, hf, -⟩ := (horderly e he).discover d x hx
      exact ⟨f, hf⟩
    · rw [← quiet_wanted]
      exact h.followed
    · exact Stop.benign_of_fault ((horderly e (mem_rules_of_mem_active he)).check _ _)
  · intro h
    refine ⟨fun e he => ?_, ?_, h.settled, fun e he => ?_⟩
    · obtain ⟨x, -, rfl⟩ := List.mem_map.1 he
      exact Stop.benign_none
    · rw [quiet_wanted]
      exact h.followed
    · obtain ⟨x, -, rfl⟩ := List.mem_map.1 (mem_rules_of_mem_active he)
      exact Stop.benign_none

theorem visited_quiet_iff (horderly : ∀ e ∈ l.rules, e.2.rule.Orderly) {source : Source} :
    (∃ es, l.quiet.Visited source cache after es) ↔ ∃ es, l.Visited source cache after es := by
  constructor
  · rintro ⟨_, _ | ⟨hdocument, hchecked⟩⟩
    · exact ⟨_, .malformed ‹_› ‹_› ‹_›⟩
    · exact ⟨_, .parsed hdocument ((checked_quiet_iff horderly).1 hchecked)⟩
  · rintro ⟨_, _ | ⟨hdocument, hchecked⟩⟩
    · exact ⟨_, .malformed ‹_› ‹_› ‹_›⟩
    · exact ⟨_, .parsed hdocument ((checked_quiet_iff horderly).2 hchecked)⟩

theorem checkSources_quiet_iff (horderly : ∀ e ∈ l.rules, e.2.rule.Orderly)
    {sources : List Source} :
    (l.quiet.checkSources cache sources).result = .ok ()
      ↔ (l.checkSources cache sources).result = .ok () := by
  -- rules that ask for the same references leave the same cache behind
  induction sources generalizing cache with
  | nil => exact Iff.rfl
  | cons source rest ih =>
    rw [checkSources_cons_result, checkSources_cons_result]
    refine exists_congr fun after => ?_
    rw [exists_and_right, exists_and_right, visited_quiet_iff horderly, ih]

/-- A run of orderly rules comes to its end exactly if one of quiet rules does. -/
theorem run_quiet_iff (horderly : ∀ e ∈ l.rules, e.2.rule.Orderly) :
    l.quiet.run.result = .ok () ↔ l.run.result = .ok () := by
  have hrules : l.quiet.rules ≠ [] ↔ l.rules ≠ [] := not_congr List.map_eq_nil_iff
  rw [run_result, run_result, hrules, checkSources_quiet_iff horderly]
  rfl

/-! ### The visits of a run -/

theorem Checked.answers {s : Settings} {source : Source} (hdocument : l.document? source = some d)
    (h : l.Checked d cache after s) :
    l.Asked source d (l.fetchAll (l.wanted d) cache).events after s where
  document := hdocument
  origin := by
    obtain ⟨text, -, hparse⟩ := document?_eq_some.1 hdocument
    exact Document.origin_of_parse hparse
  following := (fetchAll_events h.followed).1
  answered r hr := by
    rw [Option.isSome_iff_ne_none]
    exact fun hnone => ((get?_eq_none_of_fetchAll h.followed).1 hnone).2 hr
  settled := h.settled
  discoveryRecorded e he := failureRecord?_isSome (h.asked e he)
  checkRecorded e he := failureRecord?_isSome (h.judged e he)

theorem Visited.visit {source : Source} {es : List Event} (h : l.Visited source cache after es) :
    ∃ v : Visit, v.source = source ∧ l.Fits v ∧ l.visitEvents v = es := by
  cases h with
  | malformed htext hparse hmessages =>
    exact ⟨.malformed source _, rfl, ⟨_, _, htext, hparse, hmessages⟩, rfl⟩
  | parsed hdocument hchecked =>
    exact ⟨.parsed source _ _ after _, rfl, hchecked.answers hdocument, rfl⟩

theorem checkSources_visits {sources : List Source}
    (h : (l.checkSources cache sources).result = .ok ()) :
    ∃ visits : List Visit, visits.map Visit.source = sources ∧ (∀ v ∈ visits, l.Fits v) ∧
      (l.checkSources cache sources).events = visits.flatMap l.visitEvents := by
  induction sources generalizing cache with
  | nil => exact ⟨[], rfl, by simp, rfl⟩
  | cons source rest ih =>
    obtain ⟨after, es, hvisited, hrest⟩ := checkSources_cons_result.1 h
    obtain ⟨v, hsource, hfits, hes⟩ := hvisited.visit
    obtain ⟨visits, hsources, hall, hevents⟩ := ih hrest
    refine ⟨v :: visits, ?_, ?_, ?_⟩
    · rw [List.map_cons, hsource, hsources]
    · exact List.forall_mem_cons.2 ⟨hfits, hall⟩
    · rw [checkSources_cons_events hvisited, hevents, List.flatMap_cons, hes]

/-- Rules that stop with nothing but faults do not end a run, and every run is one visit of each
source after the other. -/
theorem deliver_visits {σ : Type} (r : Reporter σ) (start : σ) (l : Linter)
    (hdistinct : l.Distinct) (horderly : ∀ e ∈ l.rules, e.2.rule.Orderly)
    (hquiet : l.quiet.run.result = .ok ())
    (hreporter : (r.reportAll start l.run.messages).2 = none) :
    (r.deliver start l.run).error = none ∧
      l.orderedRules.Perm l.rules ∧ (l.orderedRules.Pairwise fun a b => a.1 < b.1) ∧
      ∃ visits : List Visit, visits.map Visit.source = l.sources ∧ (∀ v ∈ visits, l.Fits v) ∧
        (r.deliver start l.run).events
          = .started l.sources.length l.rules.length :: visits.flatMap l.visitEvents ∧
        (r.deliver start l.run).failures = visits.flatMap l.visitFailures ∧
        (r.deliver start l.run).state
          = (r.reportAll start (visits.flatMap l.visitMessages)).1 := by
  have hrun : l.run.result = .ok () := (run_quiet_iff horderly).1 hquiet
  obtain ⟨-, -, hsources⟩ := run_result.1 hrun
  obtain ⟨visits, hvisits, hfits, hevents⟩ := checkSources_visits hsources
  have hall : l.run.events
      = .started l.sources.length l.rules.length :: visits.flatMap l.visitEvents := by
    rw [run_events hrun, hevents]
  have hfailures : l.run.events.filterMap Event.failure? = visits.flatMap l.visitFailures := by
    rw [hall, List.filterMap_cons_none rfl, List.filterMap_flatMap]
    exact List.flatMap_congr fun v hv => failures_visitEvents (hfits v hv)
  have hmessages : l.run.messages = visits.flatMap l.visitMessages := by
    rw [Trace.messages, hall, List.filterMap_cons_none rfl, List.filterMap_flatMap]
    exact List.flatMap_congr fun v hv => messages_visitEvents (hfits v hv)
  rw [r.deliver_of_reportAll hrun hreporter]
  exact ⟨rfl, orderedRules_perm l, orderedRules_ascending hdistinct, visits, hvisits, hfits, hall,
    hfailures, by rw [hmessages]⟩

/-- A rule that stops when it is asked about a document that has an origin. -/
def shyRule : Rule where
  description := "Proposals have no origin."
  summary := "Shy()"
  discover d :=
    { references := [d.siblingReference 9]
      stop := if d.origin.isSome then some (.fault (.failed "too far from home")) else none }
  check _ _ := .none

/-- A rule that stops when it has reported a message. -/
def weakRule : Rule where
  description := "Proposals are read to their end."
  summary := "Weak()"
  discover d := { references := [d.siblingReference 9, d.pathReference "eip-3.md"] }
  check slug c := { messages := [c.level.message slug], stop := some (.fault (.failed "tired")) }

/-- Rules that stop, and sources with and without an origin. -/
def stumbling : Linter where
  rules := [("weak", { rule := weakRule, level := none }),
    ("shy", { rule := shyRule, level := some .warning })]
  reader p := if p.text == "eip-3.md" then .ok "---\n---\n" else .error (.unreadable "missing")
  sources := [.text "---\nstatus: Stagnant\n---\n" (some "eip-1.md"), .text "---\n" none,
    .text "---\n---\n" none, .file (Path.ofText "eip-3.md")]

theorem stumbling_orderly : ∀ e ∈ stumbling.rules, e.2.rule.Orderly := by
  have hshy : shyRule.Orderly := by
    refine ⟨fun d x hx => ?_, fun _ _ x hx => ?_⟩
    · by_cases horigin : d.origin.isSome
      · obtain rfl : _ = x := by simpa [shyRule, horigin] using hx
        exact ⟨_, rfl, fun e h => by cases h⟩
      · simp [shyRule, horigin] at hx
    · cases hx
  have hweak : weakRule.Orderly := by
    refine ⟨fun d x hx => ?_, fun _ _ x hx => ?_⟩
    · cases hx
    · exact ⟨_, (Option.some.inj hx).symm⟩
  exact List.forall_mem_cons.2 ⟨hweak, List.forall_mem_cons.2 ⟨hshy, by simp⟩⟩

theorem stumbling_quiet_run_result : stumbling.quiet.run.result = .ok () := by
  have hl : stumbling.quiet.Plain := by
    refine ⟨fun e he => ?_, fun m hm => ?_⟩
    · obtain ⟨x, -, rfl⟩ := List.mem_map.1 he
      exact x.2.rule.quiet_looksUpDeclared
    · exact exists_defaultLevel _ m hm
  exact run_result_of_completes hl (List.cons_ne_nil _ _) (List.cons_ne_nil _ _)
    (by decide +kernel)

theorem deliver_stumbling :
    (Reporter.discarding.deliver () stumbling.run).error = none ∧
      stumbling.orderedRules.Perm stumbling.rules ∧
      (stumbling.orderedRules.Pairwise fun a b => a.1 < b.1) ∧
      ∃ visits : List Visit, visits.map Visit.source = stumbling.sources ∧
        (∀ v ∈ visits, stumbling.Fits v) ∧
        (Reporter.discarding.deliver () stumbling.run).events
          = .started 4 2 :: visits.flatMap stumbling.visitEvents ∧
        (Reporter.discarding.deliver () stumbling.run).failures
          = visits.flatMap stumbling.visitFailures ∧
        (Reporter.discarding.deliver () stumbling.run).state
          = (Reporter.discarding.reportAll () (visits.flatMap stumbling.visitMessages)).1 :=
  deliver_visits Reporter.discarding () stumbling (by unfold Distinct; decide) stumbling_orderly
    stumbling_quiet_run_result (Reporter.reportAll_eq_none (fun _ _ => rfl) _ _)

end Linter

end ProposalCheck
