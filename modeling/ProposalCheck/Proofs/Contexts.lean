import ProposalCheck.Proofs.Reads
import ProposalCheck.Report.Delivery

/-!
# The contexts of a run

A rule sees what references have led to through its context, and a run may end before all its sources
are checked. `Linter.Knows` is what a run knows behind those of its sources that it has checked to
their end, `Linter.Reaches` says that it comes to look at a document with what is known then, and
`Linter.Asks` that it asks a rule for its findings there. Nothing is said about how the run goes on
from there; a run that comes to its end looks at each of its documents (`Linter.exists_reaches`).

What is known is settled by what was asked for: a reference is unknown in a context that a run
reaches exactly if no rule asked for it, neither on the document itself nor on one before it
(`Linter.Reaches.get?_eq_none`). `Linter.failure_origin` says where the records of a run come from,
whether it comes to its end or not: from rules that were asked which references they need, or from
rules in the contexts of `Linter.Asks`.
-/

namespace ProposalCheck

namespace Trace

variable {α β : Type}

theorem mem_events_bind {t : Trace α} {f : α → Trace β} {e : Event} :
    e ∈ (t >>= f).events ↔ e ∈ t.events ∨ ∃ x, t.result = .ok x ∧ e ∈ (f x).events := by
  cases h : t.result with
  | ok x => simp [bind_of_ok h]
  | error err => simp [bind_of_error h]

theorem mem_failures {t : Trace α} {f : RuleFailure} : f ∈ t.failures ↔ .failure f ∈ t.events := by
  rw [failures, List.mem_filterMap]
  constructor
  · rintro ⟨e, he, hf⟩
    cases e with
    | failure f' =>
      obtain rfl := Option.some.inj hf
      exact he
    | _ => cases hf
  · exact fun h => ⟨_, h, rfl⟩

end Trace

/-! ### Following a reference -/

namespace Context

variable {c : Context} {r : Reference}

theorem follow_eq_undeclared : c.follow r = .error (.undeclared r) ↔ c.cache.get? r = none := by
  unfold follow Cache.lookup
  rcases c.cache.get? r with _ | _ | _ <;> simp [Except.map]

/-- A reference that has a result leads to a document, or to the reason why there is none. -/
theorem follow_of_isSome (h : c.cache.get? r ≠ none) :
    (∃ other, c.follow r = .ok other) ∨ ∃ e, c.follow r = .error (.failed e) := by
  unfold follow Cache.lookup
  rcases hr : c.cache.get? r with _ | e | d
  · exact absurd hr h
  · exact .inr ⟨e, rfl⟩
  · exact .inl ⟨_, rfl⟩

theorem eq_of_follow_undeclared {r' : Reference} (h : c.follow r = .error (.undeclared r')) :
    r' = r := by
  unfold follow Cache.lookup at h
  rcases hr : c.cache.get? r with _ | e | d <;> rw [hr] at h
  · cases h
    rfl
  · cases h
  · cases h

end Context

namespace Linter

variable {l : Linter} {before : List Source} {known cache : Cache FetchError Document}
  {d : Document} {r : Reference}

/-! ### What a run knows -/

/-- What a run knows when it has checked some sources to their end, one after the other. -/
inductive Knows (l : Linter) : List Source → Cache FetchError Document → Prop
  | nothing : l.Knows [] .empty
  | more {before : List Source} {s : Source} {known after : Cache FetchError Document}
      (hbefore : l.Knows before known) (hsource : (l.checkSource known s).result = .ok after) :
      l.Knows (before ++ [s]) after

/-- The run comes to look at a document: the sources `before` have been checked, the next source is
the document, and following what the rules ask for on it has left `cache` behind. -/
structure Reaches (l : Linter) (before : List Source) (d : Document)
    (cache : Cache FetchError Document) : Prop where
  queued : ∃ s rest, l.sources = before ++ s :: rest ∧ l.document? s = some d
  followed : ∃ known, l.Knows before known ∧ (l.fetchAll (l.wanted d) known).result = .ok cache

/-- The run asks a rule for its findings in a context. -/
structure Asks (l : Linter) (e : String × Registration) (c : Context) : Prop where
  active : e ∈ l.active c.document
  reached : ∃ before, l.Reaches before c.document c.cache

theorem askedFor_append {s : Source} :
    l.AskedFor (before ++ [s]) r
      ↔ l.AskedFor before r ∨ ∃ d, l.document? s = some d ∧ r ∈ l.wanted d := by
  simp only [AskedFor, mem_wanted, List.mem_append, List.mem_singleton, or_and_right, exists_or,
    exists_eq_left]

/-- What is unknown behind some sources is what no rule asked for on any of their documents. -/
theorem Knows.get?_eq_none (h : l.Knows before known) :
    known.get? r = none ↔ ¬ l.AskedFor before r := by
  induction h with
  | nothing => simp [AskedFor]
  | more _ hsource ih =>
    rw [askedFor_append, not_or, ← ih]
    have hvisited := visited_checkSource hsource
    generalize (l.checkSource _ _).events = es at hvisited
    cases hvisited with
    | malformed htext hparse _ => simp [document?, htext, hparse, Except.toOption]
    | parsed hdocument hchecked =>
      rw [get?_eq_none_of_fetchAll hchecked.followed]
      simp [hdocument]

/-- What is unknown in a context of a run is what no rule asked for, neither on its document nor on
any before it. -/
theorem Reaches.get?_eq_none (h : l.Reaches before d cache) :
    cache.get? r = none ↔ ¬ l.AskedFor before r ∧ r ∉ l.wanted d := by
  obtain ⟨known, hknown, hfetch⟩ := h.followed
  rw [get?_eq_none_of_fetchAll hfetch, hknown.get?_eq_none]

theorem exists_knows {mid rest : List Source} {s : Source}
    (h : (l.checkSources known (mid ++ s :: rest)).result = .ok ()) (hknown : l.Knows before known) :
    ∃ cache after, l.Knows (before ++ mid) cache ∧ (l.checkSource cache s).result = .ok after := by
  induction mid generalizing before known with
  | nil =>
    obtain ⟨after, hafter, -⟩ := Trace.result_bind_eq_ok.1 h
    exact ⟨known, after, by simpa using hknown, hafter⟩
  | cons t mid ih =>
    obtain ⟨next, hnext, hrest⟩ := Trace.result_bind_eq_ok.1 h
    simpa using ih hrest (.more hknown hnext)

/-- A run that comes to its end looks at each of its documents. -/
theorem exists_reaches {rest : List Source} {s : Source} (hrun : l.run.result = .ok ())
    (hsources : l.sources = before ++ s :: rest) (hdocument : l.document? s = some d) :
    ∃ cache, l.Reaches before d cache := by
  obtain ⟨-, -, hchecked⟩ := run_result.1 hrun
  rw [hsources] at hchecked
  obtain ⟨known, after, hknown, hsource⟩ := exists_knows hchecked .nothing
  have hvisited := visited_checkSource hsource
  generalize (l.checkSource known s).events = es at hvisited
  cases hvisited with
  | malformed htext hparse _ => simp [document?, htext, hparse, Except.toOption] at hdocument
  | parsed hparsed hchecked =>
    obtain rfl := Option.some.inj (hparsed.symm.trans hdocument)
    exact ⟨after, ⟨s, rest, hsources, hdocument⟩, known, hknown, hchecked.followed⟩

/-! ### Where records come from -/

/-- A record of a run that asks rules on documents. -/
def Recorded (l : Linter) (f : RuleFailure) : Prop :=
  (∃ d, ∃ e ∈ l.rules, discoveryFailure? d e = some f) ∨
    ∃ e c, l.Asks e c ∧ failureRecord? e.1 c.origin .check (e.2.rule.check e.1 c).stop = some f

theorem failure_of_handle {slug : String} {origin : Option String} {phase : Phase}
    {stop : Option Stop} {f : RuleFailure}
    (h : .failure f ∈ (handle slug origin phase stop).events) :
    failureRecord? slug origin phase stop = some f := by
  rw [handle_events, List.mem_map] at h
  obtain ⟨f', hf', hff'⟩ := h
  obtain rfl := Event.failure.inj hff'
  simpa using hf'

theorem failure_of_discoverAll {rules : List (String × Registration)} {f : RuleFailure}
    (h : .failure f ∈ (discoverAll d rules).events) : ∃ e ∈ rules, discoveryFailure? d e = some f := by
  induction rules with
  | nil => cases h
  | cons e rest ih =>
    obtain ⟨slug, g⟩ := e
    simp only [discoverAll, Trace.events_emit_bind, List.mem_cons, reduceCtorEq, false_or,
      Trace.mem_events_bind, Trace.events_pure, List.not_mem_nil, and_false, exists_false,
      or_false] at h
    rcases h with h | ⟨_, -, h⟩
    · exact ⟨(slug, g), List.mem_cons_self, failure_of_handle h⟩
    · obtain ⟨e, he, hf⟩ := ih h
      exact ⟨e, List.mem_cons_of_mem _ he, hf⟩

theorem not_failure_of_fetchAll {references : List Reference} {f : RuleFailure} :
    .failure f ∉ (l.fetchAll references known).events := by
  have hstore : .failure f ∉
      (storeAll known ((pending references known).map fun r => (r, l.load r))).events := by
    intro h
    obtain ⟨_, _, hunresolved⟩ := storeAll_events _ _ _ h
    cases hunresolved
  by_cases hp : pending references known = []
  · simp [fetchAll_of_nothing_pending hp]
  · cases hcrash : l.firstCrash? ((pending references known).map fun r => (r, l.load r)) <;>
      unfold pending at hp hcrash hstore <;> simp [fetchAll, hp, hcrash, Trace.crash, Trace.fail, hstore]

theorem not_failure_of_modifyAll {c : Context} {s : Settings} {ms : List Modifier} {f : RuleFailure} :
    .failure f ∉ (modifyAll c s ms).events := by
  induction ms generalizing s with
  | nil => simp [modifyAll]
  | cons m rest ih =>
    rw [modifyAll, Trace.events_emit_bind, List.mem_cons, not_or]
    refine ⟨by simp, ?_⟩
    cases hm : m.change c s with
    | ok s' => exact ih
    | error e => cases e <;> simp [Trace.crash, Trace.fail]

theorem failure_of_checkAll {s : Settings} {rules : List (String × Registration)} {f : RuleFailure}
    (h : .failure f ∈ (checkAll d cache s rules).events) :
    ∃ e ∈ rules, checkFailure? d cache s e = some f := by
  induction rules with
  | nil => cases h
  | cons e rest ih =>
    obtain ⟨slug, g⟩ := e
    simp only [checkAll, Trace.events_emit_bind, Trace.events_emitAll_bind, List.mem_cons,
      List.mem_append, List.mem_map, reduceCtorEq, and_false, exists_false, false_or,
      Trace.mem_events_bind] at h
    rcases h with h | ⟨_, -, h⟩
    · exact ⟨(slug, g), List.mem_cons_self, failure_of_handle h⟩
    · obtain ⟨e, he, hf⟩ := ih h
      exact ⟨e, List.mem_cons_of_mem _ he, hf⟩

theorem recorded_of_checkDocument {s : Source} {rest : List Source} {f : RuleFailure}
    (hsources : l.sources = before ++ s :: rest) (hknown : l.Knows before known)
    (hdocument : l.document? s = some d) (h : .failure f ∈ (l.checkDocument d known).events) :
    l.Recorded f := by
  simp only [checkDocument, Trace.events_emit_bind, List.mem_cons, reduceCtorEq, false_or,
    Trace.mem_events_bind, Trace.events_pure, List.not_mem_nil, and_false, exists_false,
    or_false] at h
  rcases h with h | ⟨_, hasked, h | ⟨after, hfollowed, h | ⟨settled, -, h⟩⟩⟩
  · obtain ⟨e, he, hf⟩ := failure_of_discoverAll h
    exact .inl ⟨d, e, mem_orderedRules.1 he, hf⟩
  · exact absurd h not_failure_of_fetchAll
  · exact absurd h not_failure_of_modifyAll
  · obtain ⟨-, rfl⟩ := discoverAll_result.1 hasked
    have hreached : l.Reaches before d after :=
      ⟨⟨s, rest, hsources, hdocument⟩, known, hknown, hfollowed⟩
    obtain ⟨e, he, hf⟩ := failure_of_checkAll h
    have hactive : e ∈ l.active d := he
    exact .inr ⟨e, { document := d, cache := after, level := _, settings := _ },
      ⟨hactive, before, hreached⟩, hf⟩

theorem recorded_of_checkSource {s : Source} {rest : List Source} {f : RuleFailure}
    (hsources : l.sources = before ++ s :: rest) (hknown : l.Knows before known)
    (h : .failure f ∈ (l.checkSource known s).events) : l.Recorded f := by
  rw [checkSource, Trace.mem_events_bind, sourceText_events] at h
  rcases h with h | ⟨text, htext, h⟩
  · cases s <;> simp [Source.readEvents] at h
  · rw [checkText, Trace.events_emit_bind] at h
    cases hparse : Document.parse text s.origin s.path with
    | ok d =>
      have hdocument : l.document? s = some d :=
        document?_eq_some.2 ⟨text, sourceText_result.1 htext, hparse⟩
      refine recorded_of_checkDocument hsources hknown hdocument ?_
      simpa [hparse] using h
    | error e =>
      cases hmessages : parseMessages text s.origin e <;>
        simp [hparse, hmessages, Trace.crash, Trace.fail] at h

theorem recorded_of_checkSources {rest : List Source} {f : RuleFailure}
    (hsources : l.sources = before ++ rest) (hknown : l.Knows before known)
    (h : .failure f ∈ (l.checkSources known rest).events) : l.Recorded f := by
  -- what the run knows grows with the sources that it has checked
  induction rest generalizing before known with
  | nil => cases h
  | cons s rest ih =>
    rw [checkSources, Trace.mem_events_bind] at h
    rcases h with h | ⟨after, hafter, h⟩
    · exact recorded_of_checkSource hsources hknown h
    · exact ih (by simp [hsources]) (.more hknown hafter) h

/-- Each record of a run comes from a rule that was asked which references it needs, or from a rule
that was asked for its findings in a context of the run. -/
theorem failure_origin {f : RuleFailure} (h : f ∈ l.run.failures) : l.Recorded f := by
  rw [Trace.mem_failures] at h
  unfold run at h
  by_cases hrules : l.rules.isEmpty
  · simp [hrules, Trace.fail, Trace.mem_events_bind] at h
  · by_cases hsources : l.sources.isEmpty
    · simp [hrules, hsources, Trace.fail, Trace.mem_events_bind] at h
    · have hchecked : .failure f ∈ (l.checkSources .empty l.sources).events := by
        simpa [hrules, hsources] using h
      exact recorded_of_checkSources (List.nil_append _).symm .nothing hchecked

end Linter

/-! ### Reporters -/

namespace Reporter

variable {σ : Type}

/-- A run under a reporter is a part of the run. -/
theorem mem_deliverEvents (r : Reporter σ) {s : σ} {es : List Event} {e : Event}
    (h : e ∈ (r.deliverEvents s es).2.1) : e ∈ es := by
  induction es generalizing s with
  | nil => exact h
  | cons e' rest ih =>
    rw [deliverEvents] at h
    split at h
    rename_i s' stop _
    cases stop with
    | some c =>
      obtain rfl := List.mem_singleton.1 h
      exact List.mem_cons_self
    | none =>
      rcases List.mem_cons.1 h with rfl | h
      · exact List.mem_cons_self
      · exact List.mem_cons_of_mem _ (ih h)

theorem mem_failures_of_deliver (r : Reporter σ) {s : σ} {α : Type} {t : Trace α} {f : RuleFailure}
    (h : f ∈ (r.deliver s t).failures) : f ∈ t.failures := by
  rw [Delivery.failures, List.mem_filterMap] at h
  obtain ⟨e, he, hf⟩ := h
  exact List.mem_filterMap.2 ⟨e, r.mem_deliverEvents he, hf⟩

end Reporter

end ProposalCheck
