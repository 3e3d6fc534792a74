import ProposalCheck.Proofs.Lookups
import ProposalCheck.Proofs.Stages

/-!
# Sharing what has been followed is not visible

All documents of a run share one cache. `Linter.run_messages_eq_flatMap_singles`: for rules that look
up only what they asked for, and for modifiers that set the level by a field, a run over several
sources reports what the runs over each source alone report, one after the other.

The argument is an invariant of the cache and a description of a document's check that does not
mention the cache. `Coherent` says that every result in the cache is what following its reference
anew would give; following references keeps it, because what a reference leads to does not depend on
who asks. `ownFindings` are the findings of a rule that is given its own references and nothing
else. Behind a coherent cache every rule finds just these (`Checked.findings_eq_own`), and whether
the check comes to its end can be said without the cache as well (`Clean`).
-/

namespace ProposalCheck

namespace Linter

variable {l : Linter} {d : Document} {cache after : Cache FetchError Document} {s : Settings}

/-! ### Coherent caches -/

/-- Every result is the one that following its reference anew would give. -/
def Coherent (l : Linter) (cache : Cache FetchError Document) : Prop :=
  ∀ r x, cache.get? r = some x → l.load r = .ok x

theorem coherent_empty : l.Coherent .empty := fun r x h => by simp at h

theorem toOption_eq_some {ε α : Type} {e : Except ε α} {x : α} : e.toOption = some x ↔ e = .ok x := by
  cases e <;> simp [Except.toOption]

theorem Coherent.fetchAll (hcache : l.Coherent cache) {references : List Reference}
    (h : (l.fetchAll references cache).result = .ok after) : l.Coherent after := by
  intro r x hx
  rw [get?_fetchAll h, Option.or_eq_some_iff] at hx
  rcases hx with hx | ⟨-, hx⟩
  · exact hcache r x hx
  · split at hx
    · exact toOption_eq_some.1 hx
    · cases hx

/-- Behind a coherent cache, what was asked for leads to what following it anew gives. -/
theorem Coherent.get?_fetchAll (hcache : l.Coherent cache) {references : List Reference}
    (h : (l.fetchAll references cache).result = .ok after) {r : Reference} (hr : r ∈ references) :
    after.get? r = (l.load r).toOption := by
  rw [Linter.get?_fetchAll h, if_pos hr]
  cases hx : cache.get? r with
  | none => rfl
  | some x => rw [hcache r x hx]; rfl

theorem Coherent.loads (hcache : l.Coherent cache) {references : List Reference}
    (h : (l.fetchAll references cache).result = .ok after) :
    ∀ r ∈ references, ∃ x, l.load r = .ok x := by
  intro r hr
  cases hx : cache.get? r with
  | none => exact loads_of_fetchAll h r (mem_pending.2 ⟨hr, hx⟩)
  | some x => exact ⟨x, hcache r x hx⟩

/-! ### Findings without the cache -/

/-- What some references lead to, and nothing else. -/
def ownCache (l : Linter) (references : List Reference) : Cache FetchError Document :=
  { entries := references.filterMap fun r => (l.load r).toOption.map (r, ·) }

theorem get?_ownCache (l : Linter) (references : List Reference) (r : Reference) :
    (l.ownCache references).get? r = if r ∈ references then (l.load r).toOption else none := by
  unfold ownCache Cache.get?
  induction references with
  | nil => rfl
  | cons t rest ih =>
    cases hx : (l.load t).toOption with
    | none =>
      by_cases hr : r = t
      · subst hr
        simp [hx] at ih ⊢
        exact ih
      · simpa [hx, hr] using ih
    | some x =>
      by_cases hr : r = t
      · subst hr
        simp [hx]
      · have ht : ¬ t = r := fun h => hr h.symm
        simpa [hx, hr, ht] using ih

/-- What a rule finds that is given its own references and nothing else. -/
def ownFindings (l : Linter) (d : Document) (s : Settings) (e : String × Registration) : Findings :=
  findings d (l.ownCache (e.2.rule.discover d).references) s e

theorem findings_eq_own (hcache : l.Coherent cache)
    (h : (l.fetchAll (l.wanted d) cache).result = .ok after) {e : String × Registration}
    (he : e ∈ l.active d) (hrule : e.2.rule.LooksUpDeclared) (s : Settings) :
    findings d after s e = l.ownFindings d s e := by
  obtain ⟨hmem, hstop⟩ := List.mem_filter.1 he
  refine hrule _ _ _ _ _ _ (Option.isNone_iff_eq_none.1 hstop) fun r hr => ?_
  have hwanted : r ∈ l.wanted d := mem_wanted.2 ⟨e, mem_orderedRules.1 hmem, hr⟩
  rw [hcache.get?_fetchAll h hwanted, get?_ownCache, if_pos hr]

/-- Modifiers that set the level by a field do not look at what references lead to. -/
theorem modifyAll_congr (d : Document) (one two : Cache FetchError Document) {ms : List Modifier}
    (hms : ∀ m ∈ ms, ∃ x, m = .defaultLevel x) (s : Settings) :
    modifyAll (modifierContext d one) s ms = modifyAll (modifierContext d two) s ms := by
  induction ms generalizing s with
  | nil => rfl
  | cons m rest ih =>
    obtain ⟨⟨x, rfl⟩, hrest⟩ := List.forall_mem_cons.1 hms
    have hchange : (Modifier.defaultLevel x).change (modifierContext d one) s
        = (Modifier.defaultLevel x).change (modifierContext d two) s := rfl
    rw [modifyAll, modifyAll, hchange]
    cases (Modifier.defaultLevel x).change (modifierContext d two) s with
    | ok s' => simp only [ih hrest]
    | error e => cases e <;> rfl

/-! ### Clean documents -/

/-- The check of a document comes to its end, with the settings `s` after the modifiers. This is
said without the cache. -/
structure Clean (l : Linter) (d : Document) (s : Settings) : Prop where
  asked : ∀ e ∈ l.rules, Stop.Benign (e.2.rule.discover d).stop
  loads : ∀ r ∈ l.wanted d, ∃ x, l.load r = .ok x
  settled : (modifyAll (modifierContext d .empty) {} l.modifiers).result = .ok s
  judged : ∀ e ∈ l.active d, Stop.Benign (l.ownFindings d s.freeze e).stop

/-- The rules look up only what they asked for, and the modifiers set the level by a field. -/
structure Plain (l : Linter) : Prop where
  rules : ∀ e ∈ l.rules, e.2.rule.LooksUpDeclared
  modifiers : ∀ m ∈ l.modifiers, ∃ x, m = .defaultLevel x

theorem exists_defaultLevel (ms : List DefaultLevel) :
    ∀ m ∈ ms.map Modifier.defaultLevel, ∃ x, m = .defaultLevel x := by
  intro m hm
  obtain ⟨x, -, rfl⟩ := List.mem_map.1 hm
  exact ⟨x, rfl⟩

theorem Plain.of_shipped (hrules : ∀ e ∈ l.rules, ∃ s : Shipped, e.2.rule = s.toRule)
    (hmodifiers : ∀ m ∈ l.modifiers, ∃ x, m = .defaultLevel x) : l.Plain := by
  refine ⟨fun e he => ?_, hmodifiers⟩
  obtain ⟨s, hs⟩ := hrules e he
  rw [hs]
  exact s.looksUpDeclared

theorem mem_rules_of_mem_active {e : String × Registration} (h : e ∈ l.active d) : e ∈ l.rules :=
  mem_orderedRules.1 (List.mem_filter.1 h).1

theorem Checked.findings_eq_own (hl : l.Plain) (hcache : l.Coherent cache)
    (h : l.Checked d cache after s) {e : String × Registration} (he : e ∈ l.active d)
    (s' : Settings) : findings d after s' e = l.ownFindings d s' e :=
  Linter.findings_eq_own hcache h.followed he (hl.rules e (mem_rules_of_mem_active he)) s'

theorem Checked.clean (hl : l.Plain) (hcache : l.Coherent cache) (h : l.Checked d cache after s) :
    l.Clean d s where
  asked := h.asked
  loads := hcache.loads h.followed
  settled := by
    rw [modifyAll_congr d .empty after hl.modifiers]
    exact h.settled
  judged e he := by
    rw [← h.findings_eq_own hl hcache he]
    exact h.judged e he

theorem Clean.checked (hl : l.Plain) (hcache : l.Coherent cache) (h : l.Clean d s) :
    ∃ after, l.Checked d cache after s := by
  have hloads : ∀ r ∈ pending (l.wanted d) cache, ∃ x, l.load r = .ok x :=
    fun r hr => h.loads r (mem_pending.1 hr).1
  obtain ⟨after, hafter, -⟩ := fetchAll_spec hloads
  refine ⟨after, h.asked, hafter, ?_, fun e he => ?_⟩
  · rw [modifyAll_congr d after .empty hl.modifiers]
    exact h.settled
  · rw [Linter.findings_eq_own hcache hafter he (hl.rules e (mem_rules_of_mem_active he))]
    exact h.judged e he

theorem Checked.messages (hl : l.Plain) (hcache : l.Coherent cache) (h : l.Checked d cache after s) :
    (l.checkDocument d cache).messages
      = (l.active d).flatMap fun e => (l.ownFindings d s.freeze e).messages := by
  rw [Trace.messages, h.events, messages_documentEvents (fetchAll_events h.followed).1]
  exact List.flatMap_congr fun e he => by rw [h.findings_eq_own hl hcache he]

theorem Checked.failures (hl : l.Plain) (hcache : l.Coherent cache) (h : l.Checked d cache after s) :
    (l.checkDocument d cache).failures
      = l.orderedRules.filterMap (discoveryFailure? d) ++ (l.active d).filterMap fun e =>
          failureRecord? e.1 d.origin .check (l.ownFindings d s.freeze e).stop := by
  rw [Trace.failures, h.events, failures_documentEvents (fetchAll_events h.followed).1]
  congr 1
  exact List.filterMap_congr fun e he => by rw [checkFailure?, h.findings_eq_own hl hcache he]

/-! ### Sources -/

/-- A source that is checked to its end behind one coherent cache is so behind each of them, with
the same messages and failures, and leaves a coherent cache. -/
theorem Visited.transfer (hl : l.Plain) {other : Cache FetchError Document}
    (hcache : l.Coherent cache) (hother : l.Coherent other) {source : Source} {es : List Event}
    (h : l.Visited source cache after es) :
    ∃ after' es', l.Visited source other after' es' ∧ l.Coherent after' ∧
      es'.filterMap Event.message? = es.filterMap Event.message? ∧
      es'.filterMap Event.failure? = es.filterMap Event.failure? := by
  cases h with
  | malformed htext hparse hmessages =>
    exact ⟨other, _, .malformed htext hparse hmessages, hother, rfl, rfl⟩
  | @parsed d _ settings hdocument hchecked =>
    obtain ⟨after', hchecked'⟩ := (hchecked.clean hl hcache).checked hl hother
    have hmessages := (hchecked'.messages hl hother).trans (hchecked.messages hl hcache).symm
    have hfailures := (hchecked'.failures hl hother).trans (hchecked.failures hl hcache).symm
    rw [Trace.messages, Trace.messages, hchecked'.events, hchecked.events] at hmessages
    rw [Trace.failures, Trace.failures, hchecked'.events, hchecked.events] at hfailures
    refine ⟨after', _, .parsed hdocument hchecked', hother.fetchAll hchecked'.followed, ?_, ?_⟩
    · simp only [List.filterMap_append, List.filterMap_cons, hmessages]
    · simp only [List.filterMap_append, List.filterMap_cons, hfailures]

theorem checkSources_eq_flatMap (hl : l.Plain) {sources : List Source}
    (hcache : l.Coherent cache)
    (h : ∀ s ∈ sources, (∃ after, (l.checkSource .empty s).result = .ok after)) :
    (l.checkSources cache sources).result = .ok () ∧
      (l.checkSources cache sources).messages
        = sources.flatMap (fun s => (l.checkSource .empty s).messages) ∧
      (l.checkSources cache sources).failures
        = sources.flatMap (fun s => (l.checkSource .empty s).failures) := by
  -- all that is known of the cache behind a source is that it is coherent, and no more is needed
  induction sources generalizing cache with
  | nil => exact ⟨rfl, rfl, rfl⟩
  | cons s rest ih =>
    obtain ⟨⟨fresh, hfresh⟩, hrest⟩ := List.forall_mem_cons.1 h
    obtain ⟨after, es, hvisited, hafter, hmessages, hfailures⟩ :=
      (visited_checkSource hfresh).transfer hl coherent_empty hcache
    obtain ⟨hresult, hm, hf⟩ := ih hafter hrest
    refine ⟨checkSources_cons_result.2 ⟨after, es, hvisited, hresult⟩, ?_, ?_⟩
    · rw [Trace.messages, checkSources_cons_events hvisited, List.filterMap_append, hmessages,
        List.flatMap_cons]
      exact congrArg _ hm
    · rw [Trace.failures, checkSources_cons_events hvisited, List.filterMap_append, hfailures,
        List.flatMap_cons]
      exact congrArg _ hf

/-! ### Runs -/

/-- The linter with one source only. -/
def only (l : Linter) (s : Source) : Linter :=
  { l with sources := [s] }

theorem only_checkSources (l : Linter) (s : Source) :
    (l.only s).checkSources .empty [s] = (do let _ ← l.checkSource .empty s; pure ()) := rfl

theorem only_run_result {s : Source} :
    (l.only s).run.result = .ok () ↔
      l.rules ≠ [] ∧ ∃ after, (l.checkSource .empty s).result = .ok after := by
  rw [run_result]
  show l.rules ≠ [] ∧ [s] ≠ [] ∧ ((l.only s).checkSources .empty [s]).result = .ok () ↔ _
  rw [only_checkSources, Trace.result_bind_eq_ok]
  simp

theorem only_run_events {s : Source} (h : (l.only s).run.result = .ok ()) :
    (l.only s).run.events = .started 1 l.rules.length :: (l.checkSource .empty s).events := by
  obtain ⟨-, after, hafter⟩ := only_run_result.1 h
  rw [run_events h]
  show _ :: ((l.only s).checkSources .empty [s]).events = _
  rw [only_checkSources, Trace.events_bind hafter, Trace.events_pure, List.append_nil]
  rfl

/-! ### Deciding whether a run over one source comes to its end -/

/-- Whether a stop leaves the run going. -/
def isBenign : Option Stop → Bool
  | some (.crash _) => false
  | _ => true

theorem isBenign_iff {stop : Option Stop} : isBenign stop = true ↔ Stop.Benign stop := by
  rcases stop with _ | f | c <;> simp [isBenign]

/-- Whether a document is clean. -/
def isClean (l : Linter) (d : Document) : Bool :=
  l.rules.all (fun e => isBenign (e.2.rule.discover d).stop &&
    (e.2.rule.discover d).references.all fun r => (l.load r).toOption.isSome) &&
  match (modifyAll (modifierContext d .empty) {} l.modifiers).result with
  | .error _ => false
  | .ok s => l.rules.all fun e =>
      !(e.2.rule.discover d).stop.isNone || isBenign (l.ownFindings d s.freeze e).stop

/-- Whether the check of a source comes to its end. -/
def completes (l : Linter) (s : Source) : Bool :=
  match l.text? s with
  | none => false
  | some text =>
    match Document.parse text s.origin s.path with
    | .ok d => l.isClean d
    | .error e => (parseMessages text s.origin e).toOption.isSome

theorem clean_of_isClean (h : l.isClean d = true) : ∃ s, l.Clean d s := by
  simp only [isClean, Bool.and_eq_true, List.all_eq_true] at h
  obtain ⟨hask, hjudge⟩ := h
  cases hs : (modifyAll (modifierContext d .empty) {} l.modifiers).result with
  | error e => simp [hs] at hjudge
  | ok s =>
    simp only [hs, List.all_eq_true, Bool.or_eq_true, Bool.not_eq_true'] at hjudge
    refine ⟨s, fun e he => isBenign_iff.1 (hask e he).1, fun r hr => ?_, hs, fun e he => ?_⟩
    · obtain ⟨e, he, hre⟩ := mem_wanted.1 hr
      obtain ⟨x, hx⟩ := Option.isSome_iff_exists.1 ((hask e he).2 r hre)
      exact ⟨x, toOption_eq_some.1 hx⟩
    · obtain ⟨hmem, hstop⟩ := List.mem_filter.1 he
      rcases hjudge e (mem_orderedRules.1 hmem) with hno | hyes
      · rw [hstop] at hno
        cases hno
      · exact isBenign_iff.1 hyes

theorem only_run_result_of_completes (hl : l.Plain) (hrules : l.rules ≠ []) {s : Source}
    (h : l.completes s = true) : (l.only s).run.result = .ok () := by
  rw [only_run_result]
  refine ⟨hrules, ?_⟩
  unfold completes at h
  cases htext : l.text? s with
  | none => simp [htext] at h
  | some text =>
    simp only [htext] at h
    cases hparse : Document.parse text s.origin s.path with
    | ok d =>
      simp only [hparse] at h
      obtain ⟨settings, hclean⟩ := clean_of_isClean h
      obtain ⟨after, hchecked⟩ := hclean.checked hl coherent_empty
      have hvisited := Visited.parsed (document?_eq_some.2 ⟨text, htext, hparse⟩) hchecked
      exact ⟨after, by rw [hvisited.checkSource_eq]⟩
    | error e =>
      simp only [hparse] at h
      obtain ⟨ms, hms⟩ := Option.isSome_iff_exists.1 h
      have hvisited : l.Visited s .empty .empty _ :=
        .malformed htext hparse (toOption_eq_some.1 hms)
      exact ⟨.empty, by rw [hvisited.checkSource_eq]⟩

theorem run_result_of_completes (hl : l.Plain) (hrules : l.rules ≠ []) (hsources : l.sources ≠ [])
    (h : ∀ s ∈ l.sources, l.completes s = true) : l.run.result = .ok () := by
  refine run_result.2 ⟨hrules, hsources, ?_⟩
  refine (checkSources_eq_flatMap hl coherent_empty fun s hs => ?_).1
  exact (only_run_result.1 (only_run_result_of_completes hl hrules (h s hs))).2

/-- A run over several sources reports what the runs over each source alone report, and so it is
with the rules that stopped; if all of those come to their end, it does too. -/
theorem run_messages_eq_flatMap_singles (l : Linter) (hsources : l.sources ≠ [])
    (hrules : ∀ e ∈ l.rules, ∃ s : Shipped, e.2.rule = s.toRule)
    (hmodifiers : ∀ m ∈ l.modifiers, ∃ x, m = .defaultLevel x)
    (hsingles : ∀ s ∈ l.sources, (l.only s).run.result = .ok ()) :
    l.run.result = .ok () ∧
      l.run.messages = l.sources.flatMap (fun s => (l.only s).run.messages) ∧
      l.run.failures = l.sources.flatMap (fun s => (l.only s).run.failures) := by
  have hl : l.Plain := .of_shipped hrules hmodifiers
  obtain ⟨first, hfirst⟩ := List.exists_mem_of_ne_nil _ hsources
  have hnonempty : l.rules ≠ [] := (only_run_result.1 (hsingles first hfirst)).1
  obtain ⟨hresult, hmessages, hfailures⟩ := checkSources_eq_flatMap hl coherent_empty
    fun s hs => (only_run_result.1 (hsingles s hs)).2
  have hrun : l.run.result = .ok () := run_result.2 ⟨hnonempty, hsources, hresult⟩
  refine ⟨hrun, ?_, ?_⟩
  · rw [Trace.messages, run_events hrun]
    refine hmessages.trans (List.flatMap_congr fun s hs => ?_)
    rw [Trace.messages, Trace.messages, only_run_events (hsingles s hs)]
    rfl
  · rw [Trace.failures, run_events hrun]
    refine hfailures.trans (List.flatMap_congr fun s hs => ?_)
    rw [Trace.failures, Trace.failures, only_run_events (hsingles s hs)]
    rfl

/-- Drafts that need the same proposals, one of which is nowhere to be found. The directory of the
drafts is spelled in two ways, and one of the drafts is no document. -/
def drafts : Linter where
  rules := [
    ("requires-status", .requiredStatus
      { requires := "requires", status := "status", flow := Shipped.statusFlow }, none),
    ("refs-title", .mention { field := "title" }, some .warning),
    ("no-dup", .duplicates, none)].map fun (slug, (s : Shipped), level) =>
      (slug, { rule := s.toRule, level })
  reader p :=
    if p.text == "EIPS/eip-9.md" then .ok "---\nstatus: Draft\n---\n"
    else if p.text == "EIPS/eip-3.md" then .ok "---\ntitle: EIP-9 again\nrequires: 10\n---\n"
    else .error (.unreadable "missing")
  sources := [
    .text "---\nstatus: Final\nrequires: 9, 10\n---\n" (some "EIPS/eip-1.md"),
    .text "---\nstatus: Withdrawn\nrequires: 10, 9\n---\n" (some "EIPS/old/../eip-2.md"),
    .file (Path.ofText "EIPS/eip-3.md"),
    .text "title: no fences" none]

theorem drafts_rules : ∀ e ∈ drafts.rules, ∃ s : Shipped, e.2.rule = s.toRule := by
  intro e he
  obtain ⟨⟨slug, s, level⟩, -, rfl⟩ := List.mem_map.1 he
  exact ⟨s, rfl⟩

theorem drafts_singles : ∀ s ∈ drafts.sources, (drafts.only s).run.result = .ok () := by
  have hl : drafts.Plain := .of_shipped drafts_rules (exists_defaultLevel _)
  have hcompletes : ∀ s ∈ drafts.sources, drafts.completes s = true := by decide +kernel
  exact fun s hs => only_run_result_of_completes hl (List.cons_ne_nil _ _) (hcompletes s hs)

theorem drafts_messages_eq_flatMap :
    drafts.run.result = .ok () ∧
      drafts.run.messages = drafts.sources.flatMap (fun s => (drafts.only s).run.messages) ∧
      drafts.run.failures = drafts.sources.flatMap (fun s => (drafts.only s).run.failures) :=
  run_messages_eq_flatMap_singles drafts (List.cons_ne_nil _ _) drafts_rules (exists_defaultLevel _)
    drafts_singles

end Linter

end ProposalCheck
