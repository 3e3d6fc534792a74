import Mathlib.Data.List.Basic
import ProposalCheck.Lint.Linter

/-!
# The stages of a run that comes to its end

What each stage of a run does, as one equivalence for "it comes to its end with this result" and one
equation for the events on the way. `Linter.checkDocument_result` and `Linter.Checked.events` put the
stages of one document together: the rules are asked what they need, the references that have not
been followed are followed, the modifiers settle the level, and the rules that did not stop are asked
for their findings. A rule that stops with a fault leaves the run going (`Stop.Benign`), and what it
leaves behind is the record `failureRecord?`.

Everything that is said of whole runs is derived from these lemmas; none of it opens a stage again.
-/

namespace ProposalCheck

namespace Event

/-! ### Views of reports -/

theorem messages_map_report (ms : List Message) : (ms.map report).filterMap message? = ms := by
  simp [message?, Function.comp_def]

theorem reads_map_report (ms : List Message) : (ms.map report).filterMap path? = [] := by
  simp [path?]

theorem failures_map_report (ms : List Message) : (ms.map report).filterMap failure? = [] := by
  simp [failure?]

end Event

namespace Trace

variable {α β : Type}

/-! ### Joining stretches -/

theorem result_bind_eq_ok {t : Trace α} {f : α → Trace β} {y : β} :
    (t >>= f).result = .ok y ↔ ∃ x, t.result = .ok x ∧ (f x).result = .ok y := by
  cases h : t.result with
  | ok x => simp [bind_of_ok h]
  | error e => simp [bind_of_error h]

theorem events_bind {t : Trace α} {x : α} (h : t.result = .ok x) (f : α → Trace β) :
    (t >>= f).events = t.events ++ (f x).events := by
  rw [bind_of_ok h]

@[simp] theorem result_fail (e : RunError) : (fail e : Trace α).result = .error e := rfl

@[simp] theorem result_crash (c : Crash) : (crash c : Trace α).result = .error (.crash c) := rfl

@[simp] theorem result_fail_bind (e : RunError) (f : α → Trace β) :
    (fail e >>= f).result = .error e := rfl

@[simp] theorem result_emit_bind (e : Event) (f : Unit → Trace β) :
    (emit e >>= f).result = (f ()).result := rfl

@[simp] theorem events_emit_bind (e : Event) (f : Unit → Trace β) :
    (emit e >>= f).events = e :: (f ()).events := rfl

@[simp] theorem result_emitAll_bind (es : List Event) (f : Unit → Trace β) :
    (emitAll es >>= f).result = (f ()).result := rfl

@[simp] theorem events_emitAll_bind (es : List Event) (f : Unit → Trace β) :
    (emitAll es >>= f).events = es ++ (f ()).events := rfl

@[simp] theorem pure_bind (x : α) (f : α → Trace β) : (Pure.pure x >>= f) = f x := by
  rw [bind_of_ok (result_pure x)]
  simp

end Trace

/-! ### Rules that stop -/

/-- A stop that leaves the run going, if there was one at all. -/
def Stop.Benign (stop : Option Stop) : Prop := ∀ c, stop ≠ some (.crash c)

@[simp] theorem Stop.benign_none : Stop.Benign none := fun _ => by simp

@[simp] theorem Stop.benign_fault (f : Fault) : Stop.Benign (some (.fault f)) := fun _ => by simp

@[simp] theorem Stop.not_benign_crash (c : Crash) : ¬ Stop.Benign (some (.crash c)) :=
  fun h => h c rfl

/-- The record that a rule leaves when it stops with a fault. -/
def failureRecord? (slug : String) (origin : Option String) (phase : Phase) :
    Option Stop → Option RuleFailure
  | some (.fault fault) => some { slug, origin, phase, fault }
  | _ => none

namespace Linter

variable {l : Linter} {d : Document} {cache after : Cache FetchError Document}

theorem handle_result {slug : String} {origin : Option String} {phase : Phase} {stop : Option Stop}
    {b : Bool} :
    (handle slug origin phase stop).result = .ok b ↔ Stop.Benign stop ∧ b = stop.isNone := by
  rcases stop with _ | f | c
  · simp [handle, eq_comm]
  · simp [handle, eq_comm]
  · simp [handle]

theorem handle_events (slug : String) (origin : Option String) (phase : Phase) (stop : Option Stop) :
    (handle slug origin phase stop).events
      = (failureRecord? slug origin phase stop).toList.map .failure := by
  rcases stop with _ | f | c <;> rfl

/-! ### Discovery -/

/-- The record of a rule that stopped when it was asked what it needs. -/
def discoveryFailure? (d : Document) (e : String × Registration) : Option RuleFailure :=
  failureRecord? e.1 d.origin .discovery (e.2.rule.discover d).stop

/-- The events while a rule is asked what it needs. -/
def discoveryEvents (d : Document) (e : String × Registration) : List Event :=
  .discover e.1 :: (discoveryFailure? d e).toList.map .failure

theorem discoverAll_result {rules : List (String × Registration)}
    {x : List Reference × List (String × Registration)} :
    (discoverAll d rules).result = .ok x ↔
      (∀ e ∈ rules, Stop.Benign (e.2.rule.discover d).stop) ∧
        x = (rules.flatMap fun e => (e.2.rule.discover d).references,
          rules.filter fun e => (e.2.rule.discover d).stop.isNone) := by
  induction rules generalizing x with
  | nil => simp [discoverAll, eq_comm]
  | cons e rest ih =>
    obtain ⟨slug, g⟩ := e
    simp only [discoverAll, Trace.result_emit_bind, Trace.result_bind_eq_ok, handle_result, ih,
      Trace.result_pure, List.forall_mem_cons, List.flatMap_cons, List.filter_cons]
    constructor
    · rintro ⟨b, ⟨hb, rfl⟩, _, ⟨hrest, rfl⟩, hx⟩
      exact ⟨⟨hb, hrest⟩, by simpa using (Except.ok.inj hx).symm⟩
    · rintro ⟨⟨hb, hrest⟩, rfl⟩
      exact ⟨_, ⟨hb, rfl⟩, _, ⟨hrest, rfl⟩, rfl⟩

theorem discoverAll_events {rules : List (String × Registration)}
    (h : ∀ e ∈ rules, Stop.Benign (e.2.rule.discover d).stop) :
    (discoverAll d rules).events = rules.flatMap (discoveryEvents d) := by
  induction rules with
  | nil => rfl
  | cons e rest ih =>
    obtain ⟨slug, g⟩ := e
    obtain ⟨hb, hrest⟩ := List.forall_mem_cons.1 h
    rw [discoverAll, Trace.events_emit_bind, Trace.events_bind (handle_result.2 ⟨hb, rfl⟩),
      Trace.events_bind (discoverAll_result.2 ⟨hrest, rfl⟩), handle_events, ih hrest]
    simp [discoveryEvents, discoveryFailure?]

/-- The references that the rules of a linter ask for on a document. -/
def wanted (l : Linter) (d : Document) : List Reference :=
  l.orderedRules.flatMap fun e => (e.2.rule.discover d).references

/-- The rules that did not stop when they were asked what they need. -/
def active (l : Linter) (d : Document) : List (String × Registration) :=
  l.orderedRules.filter fun e => (e.2.rule.discover d).stop.isNone

theorem mem_orderedRules {e : String × Registration} : e ∈ l.orderedRules ↔ e ∈ l.rules :=
  (List.mergeSort_perm _ _).mem_iff

theorem mem_wanted {r : Reference} :
    r ∈ l.wanted d ↔ ∃ e ∈ l.rules, r ∈ (e.2.rule.discover d).references := by
  simp [wanted, mem_orderedRules]

/-! ### Following references -/

/-- The references that are followed when a document asks for some and others have been followed. -/
def pending (references : List Reference) (cache : Cache FetchError Document) : List Reference :=
  Reference.sorted (references.eraseDups.filter fun r => !cache.contains r)

theorem mem_pending {references : List Reference} {r : Reference} :
    r ∈ pending references cache ↔ r ∈ references ∧ cache.get? r = none := by
  unfold pending Reference.sorted
  rw [(List.mergeSort_perm _ _).mem_iff, List.mem_filter, List.mem_eraseDups]
  simp [Cache.contains]

theorem firstCrash?_eq_none
    {loaded : List (Reference × Except Crash (Except FetchError Document))} :
    l.firstCrash? loaded = none ↔ ∀ e ∈ loaded, ∃ x, e.2 = .ok x := by
  have hmem : ∀ e, (e ∈ loaded ∧ l.isEarly e.1 = true ∨ e ∈ loaded ∧ l.isEarly e.1 = false)
      ↔ e ∈ loaded := fun e => by cases l.isEarly e.1 <;> simp
  simp only [firstCrash?, List.partition_eq_filter_filter, List.findSome?_eq_none_iff,
    List.mem_append, List.mem_filter, Function.comp_apply, Bool.not_eq_true', hmem]
  refine forall₂_congr fun e _ => ?_
  cases e.2 <;> simp

/-- What is known of a reference after some have been followed: what was known before, or else what
following it gives. -/
theorem storeAll_spec (references : List Reference) (cache : Cache FetchError Document) :
    ∃ after, (storeAll cache (references.map fun r => (r, l.load r))).result = .ok after ∧
      ∀ r, after.get? r
        = (cache.get? r).or (if r ∈ references then (l.load r).toOption else none) := by
  induction references generalizing cache with
  | nil => exact ⟨cache, rfl, fun r => by simp⟩
  | cons s rest ih =>
    cases hs : l.load s with
    | error c =>
      obtain ⟨after, hafter, hget⟩ := ih cache
      refine ⟨after, by simpa [storeAll, hs] using hafter, fun r => ?_⟩
      rw [hget]
      by_cases hr : r = s
      · subst hr
        simp [hs, Except.toOption]
      · simp [hr]
    | ok x =>
      obtain ⟨after, hafter, hget⟩ := ih (cache.store s x)
      refine ⟨after, ?_, fun r => ?_⟩
      · cases x <;> simpa [storeAll, hs] using hafter
      · rw [hget, Cache.get?_store]
        by_cases hr : r = s
        · subst hr
          cases h : cache.get? r <;> simp [hs, Except.toOption]
        · simp [hr]

theorem storeAll_events (loaded : List (Reference × Except Crash (Except FetchError Document)))
    (cache : Cache FetchError Document) :
    ∀ e ∈ (storeAll cache loaded).events, ∃ r x, e = .unresolved r x := by
  induction loaded generalizing cache with
  | nil => simp [storeAll]
  | cons p rest ih =>
    obtain ⟨r, c | x | x⟩ := p
    · simpa [storeAll] using ih cache
    · simpa [storeAll] using ih (cache.store r (.error x))
    · simpa [storeAll] using ih (cache.store r (.ok x))

theorem fetchAll_of_nothing_pending {references : List Reference}
    (h : pending references cache = []) : l.fetchAll references cache = pure cache := by
  unfold pending at h
  simp [fetchAll, h]

theorem fetchAll_of_loads {references : List Reference} (h : pending references cache ≠ [])
    (hloads : ∀ r ∈ pending references cache, ∃ x, l.load r = .ok x) :
    l.fetchAll references cache = (do
      Trace.emit (.fetching (pending references cache).length)
      Trace.emitAll (((pending references cache).flatMap l.pathsOf).map .read)
      storeAll cache ((pending references cache).map fun r => (r, l.load r))) := by
  have hcrash : l.firstCrash? ((pending references cache).map fun r => (r, l.load r)) = none := by
    rw [firstCrash?_eq_none]
    simpa using hloads
  unfold pending at h hcrash ⊢
  simp [fetchAll, h, hcrash]

theorem loads_of_fetchAll {references : List Reference}
    (h : (l.fetchAll references cache).result = .ok after) :
    ∀ r ∈ pending references cache, ∃ x, l.load r = .ok x := by
  intro r hr
  have hne : pending references cache ≠ [] := List.ne_nil_of_mem hr
  cases hcrash : l.firstCrash? ((pending references cache).map fun r => (r, l.load r)) with
  | none => exact firstCrash?_eq_none.1 hcrash _ (List.mem_map_of_mem hr)
  | some c =>
    unfold pending at hne hcrash
    simp [fetchAll, hne, hcrash] at h

/-- References can be followed if each of them that has not been followed leads somewhere, be it to
a reason why there is no document. -/
theorem fetchAll_spec {references : List Reference}
    (hloads : ∀ r ∈ pending references cache, ∃ x, l.load r = .ok x) :
    ∃ after, (l.fetchAll references cache).result = .ok after ∧
      ∀ r, after.get? r
        = (cache.get? r).or (if r ∈ references then (l.load r).toOption else none) := by
  -- only references without a result are followed, so the others keep theirs
  have hkeep : ∀ r, (cache.get? r).or
        (if r ∈ pending references cache then (l.load r).toOption else none)
      = (cache.get? r).or (if r ∈ references then (l.load r).toOption else none) := by
    intro r
    cases hr : cache.get? r <;> simp [mem_pending, hr]
  by_cases hp : pending references cache = []
  · refine ⟨cache, by rw [fetchAll_of_nothing_pending hp]; rfl, fun r => ?_⟩
    rw [← hkeep, hp]
    simp
  · obtain ⟨after, hafter, hget⟩ := storeAll_spec (l := l) (pending references cache) cache
    refine ⟨after, ?_, fun r => by rw [hget, hkeep]⟩
    rw [fetchAll_of_loads hp hloads]
    simpa using hafter

theorem get?_fetchAll {references : List Reference}
    (h : (l.fetchAll references cache).result = .ok after) (r : Reference) :
    after.get? r = (cache.get? r).or (if r ∈ references then (l.load r).toOption else none) := by
  obtain ⟨after', hafter', hget⟩ := fetchAll_spec (loads_of_fetchAll h)
  obtain rfl : after' = after := Except.ok.inj (hafter'.symm.trans h)
  exact hget r

/-- A reference is known after some have been followed if it was known before or is one of them. -/
theorem get?_eq_none_of_fetchAll {references : List Reference}
    (h : (l.fetchAll references cache).result = .ok after) {r : Reference} :
    after.get? r = none ↔ cache.get? r = none ∧ r ∉ references := by
  rw [get?_fetchAll h]
  cases hx : cache.get? r with
  | some x => simp
  | none =>
    by_cases hr : r ∈ references
    · obtain ⟨x, hx⟩ := loads_of_fetchAll h r (mem_pending.2 ⟨hr, hx⟩)
      simp [hr, hx, Except.toOption]
    · simp [hr]

end Linter

/-- Whether an event belongs to following the references of a document. -/
def Event.isFollowing : Event → Bool
  | .fetching _ => true
  | .read _ => true
  | .unresolved _ _ => true
  | _ => false

namespace Linter

variable {l : Linter} {d : Document} {cache after : Cache FetchError Document}

/-- Whether or not references can be followed, nothing else happens on the way. -/
theorem isFollowing_of_mem_fetchAll {references : List Reference} {e : Event}
    (he : e ∈ (l.fetchAll references cache).events) : e.isFollowing := by
  rw [fetchAll] at he
  split at he
  · cases he
  · simp only [Trace.events_emit_bind, Trace.events_emitAll_bind, List.mem_cons, List.mem_append,
      List.mem_map] at he
    rcases he with rfl | ⟨p, -, rfl⟩ | he
    · rfl
    · rfl
    · split at he
      · cases he
      · obtain ⟨r, x, rfl⟩ := storeAll_events _ _ e he
        rfl

theorem fetchAll_events {references : List Reference}
    (h : (l.fetchAll references cache).result = .ok after) :
    (∀ e ∈ (l.fetchAll references cache).events, e.isFollowing) ∧
      (l.fetchAll references cache).reads = (pending references cache).flatMap l.pathsOf := by
  refine ⟨fun e he => isFollowing_of_mem_fetchAll he, ?_⟩
  by_cases hp : pending references cache = []
  · rw [fetchAll_of_nothing_pending hp, hp]
    rfl
  · have hnone : (storeAll cache ((pending references cache).map fun r =>
        (r, l.load r))).events.filterMap Event.path? = [] := by
      rw [List.filterMap_eq_nil_iff]
      intro e he
      obtain ⟨r, x, rfl⟩ := storeAll_events _ _ e he
      rfl
    rw [fetchAll_of_loads hp (loads_of_fetchAll h)]
    simp only [Trace.reads, Trace.events_emit_bind, Trace.events_emitAll_bind,
      List.filterMap_cons, List.filterMap_append, List.filterMap_map, hnone]
    simp [Event.path?, Function.comp_def]

/-! ### Modifiers -/

theorem modifyAll_events {c : Context} {s settled : Settings} {ms : List Modifier}
    (h : (modifyAll c s ms).result = .ok settled) :
    (modifyAll c s ms).events = ms.map fun m => .modify m.summary := by
  induction ms generalizing s with
  | nil => rfl
  | cons m rest ih =>
    rw [modifyAll, Trace.result_emit_bind] at h
    rw [modifyAll, Trace.events_emit_bind]
    cases hm : m.change c s with
    | ok s' =>
      simp only [hm] at h ⊢
      rw [ih h, List.map_cons]
    | error e =>
      rw [hm] at h
      cases e <;> cases h

/-- Whether or not the modifiers come to their end, nothing else happens on the way. -/
theorem exists_of_mem_modifyAll {c : Context} {s : Settings} {ms : List Modifier} {e : Event}
    (he : e ∈ (modifyAll c s ms).events) : ∃ summary, e = .modify summary := by
  induction ms generalizing s with
  | nil => cases he
  | cons m rest ih =>
    rw [modifyAll, Trace.events_emit_bind] at he
    rcases List.mem_cons.1 he with rfl | he
    · exact ⟨m.summary, rfl⟩
    · cases hm : m.change c s with
      | ok s' =>
        rw [hm] at he
        exact ih he
      | error x =>
        rw [hm] at he
        cases x <;> cases he

/-! ### Checks -/

/-- What a rule finds on a document under frozen settings. -/
def findings (d : Document) (cache : Cache FetchError Document) (s : Settings)
    (e : String × Registration) : Findings :=
  e.2.rule.check e.1 { document := d, cache, level := e.2.level.getD s.defaultLevel, settings := s }

/-- The record of a rule that stopped when it was asked for its findings. -/
def checkFailure? (d : Document) (cache : Cache FetchError Document) (s : Settings)
    (e : String × Registration) : Option RuleFailure :=
  failureRecord? e.1 d.origin .check (findings d cache s e).stop

/-- The events while a rule is asked for its findings. -/
def checkEvents (d : Document) (cache : Cache FetchError Document) (s : Settings)
    (e : String × Registration) : List Event :=
  .check e.1 :: ((findings d cache s e).messages.map .report ++
    (checkFailure? d cache s e).toList.map .failure)

theorem checkAll_result {s : Settings} {rules : List (String × Registration)} :
    (checkAll d cache s rules).result = .ok () ↔
      ∀ e ∈ rules, Stop.Benign (findings d cache s e).stop := by
  induction rules with
  | nil => simp [checkAll]
  | cons e rest ih =>
    obtain ⟨slug, g⟩ := e
    simp only [checkAll, Trace.result_emit_bind, Trace.result_emitAll_bind, Trace.result_bind_eq_ok,
      handle_result, ih, List.forall_mem_cons, findings]
    exact ⟨fun ⟨_, ⟨hb, _⟩, hrest⟩ => ⟨hb, hrest⟩, fun ⟨hb, hrest⟩ => ⟨_, ⟨hb, rfl⟩, hrest⟩⟩

theorem checkAll_events {s : Settings} {rules : List (String × Registration)}
    (h : ∀ e ∈ rules, Stop.Benign (findings d cache s e).stop) :
    (checkAll d cache s rules).events = rules.flatMap (checkEvents d cache s) := by
  induction rules with
  | nil => rfl
  | cons e rest ih =>
    obtain ⟨slug, g⟩ := e
    obtain ⟨hb, hrest⟩ := List.forall_mem_cons.1 h
    simp only [findings] at hb
    rw [checkAll, Trace.events_emit_bind, Trace.events_emitAll_bind,
      Trace.events_bind (handle_result.2 ⟨hb, rfl⟩), handle_events, ih hrest]
    simp [checkEvents, checkFailure?, findings]

/-! ### One document -/

/-- A document as the modifiers see it. -/
def modifierContext (d : Document) (cache : Cache FetchError Document) : Context :=
  { document := d, cache, level := ({} : Settings).defaultLevel, settings := {} }

/-- The check of a document comes to its end: with `cache` before it and `after` behind it, and with
the settings `s` after the modifiers. -/
structure Checked (l : Linter) (d : Document) (cache after : Cache FetchError Document)
    (s : Settings) : Prop where
  asked : ∀ e ∈ l.rules, Stop.Benign (e.2.rule.discover d).stop
  followed : (l.fetchAll (l.wanted d) cache).result = .ok after
  settled : (modifyAll (modifierContext d after) {} l.modifiers).result = .ok s
  judged : ∀ e ∈ l.active d, Stop.Benign (findings d after s.freeze e).stop

/-- The events of the check of a document, where `following` are those of following its references
and `s` its frozen settings. -/
def documentEvents (l : Linter) (d : Document) (after : Cache FetchError Document) (s : Settings)
    (following : List Event) : List Event :=
  .progress d.origin .parsed :: .progress d.origin .discovering ::
    (l.orderedRules.flatMap (discoveryEvents d) ++ .progress d.origin .fetching ::
      (following ++ (l.modifiers.map (fun m => .modify m.summary) ++
        .progress d.origin .modified :: .progress d.origin .checking ::
          ((l.active d).flatMap (checkEvents d after s) ++ [.progress d.origin .done]))))

theorem checkDocument_result :
    (l.checkDocument d cache).result = .ok after ↔ ∃ s, l.Checked d cache after s := by
  have hasked : (∀ e ∈ l.orderedRules, Stop.Benign (e.2.rule.discover d).stop)
      ↔ ∀ e ∈ l.rules, Stop.Benign (e.2.rule.discover d).stop :=
    forall_congr' fun e => by rw [mem_orderedRules]
  simp only [checkDocument, Trace.result_emit_bind, Trace.result_bind_eq_ok, discoverAll_result,
    hasked, Trace.result_pure]
  constructor
  · rintro ⟨_, ⟨hask, rfl⟩, c, hc, s, hs, _, hjudge, hafter⟩
    obtain rfl := Except.ok.inj hafter
    exact ⟨s, hask, hc, hs, checkAll_result.1 hjudge⟩
  · rintro ⟨s, hask, hc, hs, hjudge⟩
    exact ⟨_, ⟨hask, rfl⟩, after, hc, s, hs, (), checkAll_result.2 hjudge, rfl⟩

theorem Checked.events {s : Settings} (h : l.Checked d cache after s) :
    (l.checkDocument d cache).events
      = l.documentEvents d after s.freeze (l.fetchAll (l.wanted d) cache).events := by
  have hask : ∀ e ∈ l.orderedRules, Stop.Benign (e.2.rule.discover d).stop :=
    fun e he => h.asked e (mem_orderedRules.1 he)
  have hfollow := h.followed
  have hsettle := h.settled
  have hjudge := h.judged
  unfold wanted at hfollow
  unfold modifierContext at hsettle
  unfold active at hjudge
  simp only [checkDocument, Trace.events_emit_bind,
    Trace.events_bind (discoverAll_result.2 ⟨hask, rfl⟩), discoverAll_events hask,
    Trace.events_bind hfollow, Trace.events_bind hsettle, modifyAll_events hsettle]
  rw [Trace.events_bind (checkAll_result.2 hjudge), checkAll_events hjudge]
  rfl

/-! ### What is seen of a document -/

theorem filterMap_following {β : Type} {view : Event → Option β} {following : List Event}
    (h : ∀ e ∈ following, e.isFollowing)
    (hview : ∀ e : Event, e.isFollowing → view e = none) : following.filterMap view = [] := by
  rw [List.filterMap_eq_nil_iff]
  exact fun e he => hview e (h e he)

theorem filterMap_documentEvents {β : Type} (view : Event → Option β)
    (hprogress : ∀ origin state, view (.progress origin state) = none)
    (hmodify : ∀ summary, view (.modify summary) = none) (s : Settings) (following : List Event) :
    (l.documentEvents d after s following).filterMap view
      = (l.orderedRules.flatMap fun e => (discoveryEvents d e).filterMap view)
        ++ (following.filterMap view
          ++ (l.active d).flatMap fun e => (checkEvents d after s e).filterMap view) := by
  have hmodifiers : (l.modifiers.map fun m => Event.modify m.summary).filterMap view = [] := by
    simp [hmodify]
  simp [documentEvents, hprogress, hmodifiers, List.filterMap_flatMap]

theorem messages_documentEvents {s : Settings} {following : List Event}
    (h : ∀ e ∈ following, e.isFollowing) :
    (l.documentEvents d after s following).filterMap Event.message?
      = (l.active d).flatMap fun e => (findings d after s e).messages := by
  have hdiscover : ∀ e, (discoveryEvents d e).filterMap Event.message? = [] := fun e => by
    cases he : discoveryFailure? d e <;> simp [discoveryEvents, he, Event.message?]
  have hfollow : following.filterMap Event.message? = [] :=
    filterMap_following h fun e he => by cases e <;> first | rfl | cases he
  have hcheck : ∀ e, (checkEvents d after s e).filterMap Event.message?
      = (findings d after s e).messages := fun e => by
    cases he : checkFailure? d after s e <;>
      simp [checkEvents, he, List.filterMap_cons, Event.message?, Function.comp_def]
  rw [filterMap_documentEvents _ (fun _ _ => rfl) (fun _ => rfl), hfollow,
    List.flatMap_eq_nil_iff.2 fun e _ => hdiscover e]
  simp only [hcheck, List.nil_append]

theorem failures_documentEvents {s : Settings} {following : List Event}
    (h : ∀ e ∈ following, e.isFollowing) :
    (l.documentEvents d after s following).filterMap Event.failure?
      = l.orderedRules.filterMap (discoveryFailure? d)
        ++ (l.active d).filterMap (checkFailure? d after s) := by
  have hdiscover : ∀ e, (discoveryEvents d e).filterMap Event.failure?
      = (discoveryFailure? d e).toList := fun e => by
    cases he : discoveryFailure? d e <;>
      simp [discoveryEvents, he, List.filterMap_cons, Event.failure?]
  have hfollow : following.filterMap Event.failure? = [] :=
    filterMap_following h fun e he => by cases e <;> first | rfl | cases he
  have hcheck : ∀ e, (checkEvents d after s e).filterMap Event.failure?
      = (checkFailure? d after s e).toList := fun e => by
    cases he : checkFailure? d after s e <;>
      simp only [checkEvents, he, List.filterMap_cons, List.filterMap_append,
        Event.failures_map_report] <;> rfl
  rw [filterMap_documentEvents _ (fun _ _ => rfl) (fun _ => rfl), hfollow]
  simp only [hdiscover, hcheck, List.nil_append, List.filterMap_eq_flatMap_toList]

theorem reads_documentEvents (s : Settings) (following : List Event) :
    (l.documentEvents d after s following).filterMap Event.path?
      = following.filterMap Event.path? := by
  have hdiscover : ∀ e, (discoveryEvents d e).filterMap Event.path? = [] := fun e => by
    cases he : discoveryFailure? d e <;> simp [discoveryEvents, he, Event.path?]
  have hcheck : ∀ e, (checkEvents d after s e).filterMap Event.path? = [] := fun e => by
    cases he : checkFailure? d after s e <;>
      simp only [checkEvents, he, List.filterMap_cons, List.filterMap_append,
        Event.reads_map_report] <;> rfl
  rw [filterMap_documentEvents _ (fun _ _ => rfl) (fun _ => rfl),
    List.flatMap_eq_nil_iff.2 fun e _ => hdiscover e, List.flatMap_eq_nil_iff.2 fun e _ => hcheck e]
  simp

/-! ### One source -/

end Linter

namespace Source

/-- The events while the text of a source is read. -/
def readEvents : Source → List Event
  | .text _ _ => []
  | .file p => [.read p]

@[simp] theorem messages_readEvents (s : Source) : s.readEvents.filterMap Event.message? = [] := by
  cases s <;> rfl

@[simp] theorem failures_readEvents (s : Source) : s.readEvents.filterMap Event.failure? = [] := by
  cases s <;> rfl

end Source

namespace Linter

variable {l : Linter} {d : Document} {cache after : Cache FetchError Document}

/-- The text of a source, if there is one. -/
def text? (l : Linter) : Source → Option String
  | .text text _ => some text
  | .file p => (l.reader p).toOption

/-- The document of a source, if its text is one. -/
def document? (l : Linter) (s : Source) : Option Document :=
  (l.text? s).bind fun text => (Document.parse text s.origin s.path).toOption

theorem document?_eq_some {s : Source} :
    l.document? s = some d ↔
      ∃ text, l.text? s = some text ∧ Document.parse text s.origin s.path = .ok d := by
  rw [document?, Option.bind_eq_some_iff]
  refine exists_congr fun text => and_congr_right fun _ => ?_
  cases Document.parse text s.origin s.path <;> simp [Except.toOption]

theorem sourceText_result {s : Source} {text : String} :
    (l.sourceText s).result = .ok text ↔ l.text? s = some text := by
  cases s with
  | text t origin => simp [sourceText, text?]
  | file p =>
    simp only [sourceText, text?, Trace.result_emit_bind]
    cases h : l.reader p with
    | ok t => simp [Except.toOption]
    | error e => cases e <;> simp [Except.toOption]

theorem sourceText_events (s : Source) : (l.sourceText s).events = s.readEvents := by
  cases s with
  | text t origin => rfl
  | file p =>
    simp only [sourceText, Trace.events_emit_bind, Source.readEvents]
    cases h : l.reader p with
    | ok t => rfl
    | error e => cases e <;> rfl

/-- The check of a source comes to its end, with these events on the way. The text of the source is
a document or it is not; a text that is none leaves everything as it was. -/
inductive Visited (l : Linter) (s : Source) (cache : Cache FetchError Document) :
    Cache FetchError Document → List Event → Prop
  | malformed {text : String} {e : DocumentError} {ms : List Message}
      (htext : l.text? s = some text)
      (hparse : Document.parse text s.origin s.path = .error e)
      (hmessages : parseMessages text s.origin e = .ok ms) :
      Visited l s cache cache (s.readEvents ++ .progress s.origin .unparsed ::
        (ms.map .report ++ [.progress s.origin .notParsed]))
  | parsed {d : Document} {after : Cache FetchError Document} {settings : Settings}
      (hdocument : l.document? s = some d)
      (hchecked : l.Checked d cache after settings) :
      Visited l s cache after (s.readEvents ++ .progress s.origin .unparsed ::
        l.documentEvents d after settings.freeze (l.fetchAll (l.wanted d) cache).events)

theorem visited_checkSource {s : Source} (h : (l.checkSource cache s).result = .ok after) :
    l.Visited s cache after (l.checkSource cache s).events := by
  obtain ⟨text, htext, hcheck⟩ := Trace.result_bind_eq_ok.1 h
  have hevents : (l.checkSource cache s).events
      = s.readEvents ++ (l.checkText text s.origin s.path cache).events := by
    rw [checkSource, Trace.events_bind htext, sourceText_events]
  rw [sourceText_result] at htext
  rw [hevents, checkText, Trace.events_emit_bind]
  rw [checkText, Trace.result_emit_bind] at hcheck
  cases hparse : Document.parse text s.origin s.path with
  | ok d =>
    simp only [hparse] at hcheck ⊢
    obtain ⟨settings, hchecked⟩ := checkDocument_result.1 hcheck
    rw [hchecked.events]
    exact .parsed (document?_eq_some.2 ⟨text, htext, hparse⟩) hchecked
  | error e =>
    simp only [hparse] at hcheck ⊢
    cases hmessages : parseMessages text s.origin e with
    | error c => simp [hmessages] at hcheck
    | ok ms =>
      simp only [hmessages, Trace.result_emitAll_bind, Trace.result_emit_bind, Trace.result_pure,
        Except.ok.injEq] at hcheck
      subst hcheck
      exact .malformed htext hparse hmessages

theorem Visited.checkSource_eq {s : Source} {es : List Event} (h : l.Visited s cache after es) :
    l.checkSource cache s = { events := es, result := .ok after } := by
  cases h with
  | malformed htext hparse hmessages =>
    rw [checkSource, Trace.bind_of_ok (sourceText_result.2 htext), sourceText_events, checkText]
    simp [hparse, hmessages]
  | parsed hdocument hchecked =>
    obtain ⟨text, htext, hparse⟩ := document?_eq_some.1 hdocument
    rw [checkSource, Trace.bind_of_ok (sourceText_result.2 htext), sourceText_events, checkText]
    simp [hparse, checkDocument_result.2 ⟨_, hchecked⟩, hchecked.events]

theorem checkSources_cons_result {s : Source} {rest : List Source} :
    (l.checkSources cache (s :: rest)).result = .ok () ↔
      ∃ after es, l.Visited s cache after es ∧ (l.checkSources after rest).result = .ok () := by
  rw [checkSources, Trace.result_bind_eq_ok]
  constructor
  · rintro ⟨after, hs, hrest⟩
    exact ⟨after, _, visited_checkSource hs, hrest⟩
  · rintro ⟨after, es, hs, hrest⟩
    exact ⟨after, by rw [hs.checkSource_eq], hrest⟩

theorem checkSources_cons_events {s : Source} {rest : List Source} {es : List Event}
    (h : l.Visited s cache after es) :
    (l.checkSources cache (s :: rest)).events = es ++ (l.checkSources after rest).events := by
  rw [checkSources, h.checkSource_eq]
  exact Trace.events_bind rfl _

/-! ### The run -/

theorem run_result :
    l.run.result = .ok () ↔
      l.rules ≠ [] ∧ l.sources ≠ [] ∧ (l.checkSources .empty l.sources).result = .ok () := by
  cases hr : l.rules <;> cases hs : l.sources <;> simp [run, hr, hs]

theorem run_events (h : l.run.result = .ok ()) :
    l.run.events = .started l.sources.length l.rules.length ::
      (l.checkSources .empty l.sources).events := by
  obtain ⟨hr, hs, -⟩ := run_result.1 h
  simp [run, hr, hs]

end Linter

end ProposalCheck
