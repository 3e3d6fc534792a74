import ProposalCheck.Proofs.Malformed
import ProposalCheck.Proofs.Visits

/-!
# The level of findings

`Linter.run_levels`: while a run comes from one check of a rule to the next, the level of each is
settled by the rule and the document alone. A rule that is denied reports errors, one that is warned
about reports warnings, and one that is just enabled reports at the level of the last modifier that
applies to the preamble, or else of errors (`Preamble.levelUnder`). All rules see the same settings,
which are frozen by then, and nothing of them stays for the next document.

A modifier that fails on a document ends the run. No rule has been asked for its findings on that
document, and what was reported of the sources before it stays reported.

Both come from where in a run rules are asked: behind the checks of the sources in front and behind
events that are neither checks nor reports (`Event.isSilent`), rule after rule
(`Linter.AsksBehind`).
-/

namespace ProposalCheck

/-! ### Which modifiers apply -/

namespace DefaultLevel

/-- The last field of a modifier's name has its value, but for blanks around it. -/
def Applies (m : DefaultLevel) (p : Preamble) : Prop :=
  ∃ earlier f later, p.fields = earlier ++ f :: later ∧ f.name = m.field ∧
    (∀ g ∈ later, g.name ≠ m.field) ∧ Text.trim f.value = m.value

theorem applies_iff {m : DefaultLevel} {p : Preamble} : m.applies p = true ↔ m.Applies p := by
  have hfield : m.applies p = true
      ↔ ∃ f, p.byName? m.field = some f ∧ Text.trim f.value = m.value := by
    rw [applies]
    cases p.byName? m.field <;> simp
  rw [hfield]
  constructor
  · rintro ⟨f, hf, hvalue⟩
    obtain ⟨earlier, later, hfields, hname, hlater⟩ := Preamble.byName?_eq_some.1 hf
    exact ⟨earlier, f, later, hfields, hname, hlater, hvalue⟩
  · rintro ⟨earlier, f, later, hfields, hname, hlater, hvalue⟩
    exact ⟨f, Preamble.byName?_eq_some.2 ⟨earlier, later, hfields, hname, hlater⟩, hvalue⟩

instance (m : DefaultLevel) (p : Preamble) : Decidable (m.Applies p) :=
  decidable_of_iff _ applies_iff

end DefaultLevel

/-- The level that modifiers give to a document: that of the last one that applies. -/
def Preamble.levelUnder (p : Preamble) (ms : List DefaultLevel) (otherwise : Level) : Level :=
  ((ms.filter (·.Applies p)).getLast?.map (·.level)).getD otherwise

theorem Preamble.levelUnder_cons (p : Preamble) (m : DefaultLevel) (ms : List DefaultLevel)
    (otherwise : Level) :
    p.levelUnder (m :: ms) otherwise
      = p.levelUnder ms (if m.Applies p then m.level else otherwise) := by
  unfold levelUnder
  by_cases hm : m.Applies p
  · simp only [hm, decide_true, List.filter_cons_of_pos, if_true, List.getLast?_cons,
      Option.map_some, Option.getD_some]
    cases (ms.filter (·.Applies p)).getLast? <;> rfl
  · simp only [hm, decide_false, Bool.false_eq_true, not_false_eq_true, List.filter_cons_of_neg,
      if_false]

/-! ### Settings -/

theorem Modifier.change_defaultLevel (m : DefaultLevel) (c : Context) (level : Level) :
    (Modifier.defaultLevel m).change c { defaultLevel := level }
      = .ok { defaultLevel := if m.Applies c.preamble then m.level else level } := by
  rw [change, DefaultLevel.change]
  by_cases hm : m.Applies c.preamble
  · rw [if_pos (DefaultLevel.applies_iff.2 hm), if_pos hm]
    rfl
  · rw [if_neg (fun h => hm (DefaultLevel.applies_iff.1 h)), if_neg hm]
    rfl

theorem Linter.modifyAll_defaultLevels (c : Context) (ms : List DefaultLevel) (level : Level) :
    (modifyAll c { defaultLevel := level } (ms.map .defaultLevel)).result
      = .ok { defaultLevel := c.preamble.levelUnder ms level } := by
  induction ms generalizing level with
  | nil => rfl
  | cons m rest ih =>
    rw [List.map_cons, modifyAll, Trace.result_emit_bind, Modifier.change_defaultLevel,
      Preamble.levelUnder_cons]
    exact ih _

/-! ### Stretches without checks -/

/-- Neither is a rule asked for its findings, nor does a message come. -/
def Event.isSilent : Event → Bool
  | .check _ => false
  | .report _ => false
  | _ => true

namespace Trace

variable {α β : Type}

/-- In the stretch no rule is asked for its findings, and no message comes. -/
def Silent (t : Trace α) : Prop :=
  ∀ e ∈ t.events, e.isSilent

theorem silent_of_nil {t : Trace α} (h : t.events = []) : t.Silent := by
  intro e he
  rw [h] at he
  cases he

theorem silent_emit {e : Event} (h : e.isSilent) : (emit e).Silent :=
  List.forall_mem_singleton.2 h

/-- The events of two stretches are those of the first, and of the second if it was reached. -/
theorem exists_events_bind (t : Trace α) (f : α → Trace β) :
    ∃ es, (t >>= f).events = t.events ++ es ∧
      (es = [] ∨ ∃ x, t.result = .ok x ∧ es = (f x).events) := by
  cases h : t.result with
  | ok x => exact ⟨(f x).events, by rw [bind_of_ok h], .inr ⟨x, rfl, rfl⟩⟩
  | error e => exact ⟨[], by simp [bind_of_error h], .inl rfl⟩

theorem Silent.bind {t : Trace α} {f : α → Trace β} (h : t.Silent) (hf : ∀ x, (f x).Silent) :
    (t >>= f).Silent := by
  intro e he
  rcases mem_events_bind.1 he with he | ⟨x, -, he⟩
  · exact h e he
  · exact hf x e he

end Trace

namespace Event

theorem message?_of_silent {e : Event} (h : e.isSilent) : e.message? = none := by
  cases e <;> first | rfl | cases h

theorem messages_of_silent {es : List Event} (h : ∀ e ∈ es, e.isSilent) :
    es.filterMap message? = [] :=
  List.filterMap_eq_nil_iff.2 fun e he => message?_of_silent (h e he)

theorem not_mem_of_silent {es : List Event} {slug : String} (h : ∀ e ∈ es, e.isSilent) :
    .check slug ∉ es := by
  intro he
  cases h _ he

theorem nil_ne_split {front after : List Event} {e : Event} : [] ≠ front ++ e :: after := by
  simp

/-- A check among the events of two stretches is in the one or in the other. -/
theorem split_append {one two front after : List Event} {slug : String}
    (h : one ++ two = front ++ .check slug :: after) :
    (∃ mid, one = front ++ .check slug :: mid ∧ after = mid ++ two) ∨
      ∃ mid, front = one ++ mid ∧ two = mid ++ .check slug :: after := by
  rcases List.append_eq_append_iff.1 h with ⟨mid, hfront, htwo⟩ | ⟨mid, hone, hcheck⟩
  · exact .inr ⟨mid, hfront, htwo⟩
  · cases mid with
    | nil => exact .inr ⟨[], by simpa using hone.symm, hcheck.symm⟩
    | cons e mid =>
      obtain ⟨rfl, hafter⟩ := List.cons.inj hcheck
      exact .inl ⟨mid, hone, hafter⟩

theorem split_of_not_mem {one two front after : List Event} {slug : String}
    (hone : .check slug ∉ one) (h : one ++ two = front ++ .check slug :: after) :
    ∃ mid, front = one ++ mid ∧ two = mid ++ .check slug :: after := by
  rcases split_append h with ⟨mid, rfl, -⟩ | hsplit
  · exact absurd (List.mem_append_right _ List.mem_cons_self) hone
  · exact hsplit

end Event

namespace Linter

open Trace

variable {l : Linter} {before : List Source} {known cache : Cache FetchError Document}
  {d : Document} {s : Source}

theorem handle_silent (slug : String) (origin : Option String) (phase : Phase)
    (stop : Option Stop) : (handle slug origin phase stop).Silent := by
  intro e he
  rw [handle_events, List.mem_map] at he
  obtain ⟨f, -, rfl⟩ := he
  rfl

theorem discoverAll_silent (d : Document) (rules : List (String × Registration)) :
    (discoverAll d rules).Silent := by
  induction rules with
  | nil => exact silent_of_nil rfl
  | cons e rest ih =>
    rw [discoverAll]
    refine (silent_emit rfl).bind fun _ => (handle_silent _ _ _ _).bind fun _ => ?_
    exact ih.bind fun _ => silent_of_nil rfl

theorem fetchAll_silent (l : Linter) (references : List Reference)
    (cache : Cache FetchError Document) : (l.fetchAll references cache).Silent := by
  intro e he
  have hfollowing := isFollowing_of_mem_fetchAll he
  cases e <;> first | rfl | cases hfollowing

theorem modifyAll_silent (c : Context) (settings : Settings) (ms : List Modifier) :
    (modifyAll c settings ms).Silent := by
  intro e he
  obtain ⟨summary, rfl⟩ := exists_of_mem_modifyAll he
  rfl

/-! ### Checks on one document -/

/-- What happens on a document when its references have been followed. -/
def settle (l : Linter) (d : Document) (cache : Cache FetchError Document) :
    Trace (Cache FetchError Document) := do
  let settings ← modifyAll (modifierContext d cache) {} l.modifiers
  emit (.progress d.origin .modified)
  emit (.progress d.origin .checking)
  checkAll d cache settings.freeze (l.active d)
  emit (.progress d.origin .done)
  return cache

/-- The rules have said which references they need, and those have been followed. -/
structure Prepared (l : Linter) (d : Document) (known cache : Cache FetchError Document) :
    Prop where
  asked : ∀ e ∈ l.rules, Stop.Benign (e.2.rule.discover d).stop
  followed : (l.fetchAll (l.wanted d) known).result = .ok cache

theorem Prepared.checkDocument (h : l.Prepared d known cache) :
    (l.checkDocument d known).result = (l.settle d cache).result ∧
      ∃ lead, (∀ e ∈ lead, e.isSilent) ∧
        (l.checkDocument d known).events = lead ++ (l.settle d cache).events := by
  have hasked : ∀ e ∈ l.orderedRules, Stop.Benign (e.2.rule.discover d).stop :=
    fun e he => h.asked e (mem_orderedRules.1 he)
  have hdiscovered := discoverAll_result.2 ⟨hasked, rfl⟩
  have hfollowed := h.followed
  unfold wanted at hfollowed
  constructor
  · simp only [Linter.checkDocument, result_emit_bind, bind_of_ok hdiscovered, bind_of_ok hfollowed]
    rfl
  · refine ⟨.progress d.origin .parsed :: .progress d.origin .discovering ::
      ((discoverAll d l.orderedRules).events ++ .progress d.origin .fetching ::
        (l.fetchAll (l.wanted d) known).events), ?_, ?_⟩
    · simp only [List.forall_mem_cons, List.forall_mem_append]
      exact ⟨rfl, rfl, discoverAll_silent _ _, rfl, fetchAll_silent _ _ _⟩
    · simp only [Linter.checkDocument, events_emit_bind, bind_of_ok hdiscovered,
        bind_of_ok hfollowed, List.cons_append, List.append_assoc]
      rfl

/-- A rule is asked for its findings in a context when, behind some events, the rules in front of it
have been asked under the same settings. Its messages are reported at once. -/
structure Turn (l : Linter) (e : String × Registration) (c : Context) (front after : List Event) :
    Prop where
  level : c.level = e.2.level.getD c.settings.defaultLevel
  turn : ∃ lead earlier later, (∀ x ∈ lead, x.isSilent) ∧
    l.active c.document = earlier ++ e :: later ∧
    front = lead ++ earlier.flatMap (checkEvents c.document c.cache c.settings)
  reported : (e.2.rule.check e.1 c).messages.map .report <+: after

theorem Turn.append {e : String × Registration} {c : Context} {front after : List Event}
    (h : l.Turn e c front after) (es : List Event) : l.Turn e c front (after ++ es) :=
  ⟨h.level, h.turn, h.reported.trans (List.prefix_append _ _)⟩

theorem Turn.behind {e : String × Registration} {c : Context} {front after : List Event}
    (h : l.Turn e c front after) {es : List Event} (hes : ∀ x ∈ es, x.isSilent) :
    l.Turn e c (es ++ front) after := by
  obtain ⟨lead, earlier, later, hlead, hactive, rfl⟩ := h.turn
  refine ⟨h.level, ⟨es ++ lead, earlier, later, ?_, hactive, ?_⟩, h.reported⟩
  · exact List.forall_mem_append.2 ⟨hes, hlead⟩
  · rw [List.append_assoc]

theorem exists_of_checkAll {settings : Settings} {rules : List (String × Registration)}
    {slug : String} {front after : List Event}
    (h : (checkAll d cache settings rules).events = front ++ .check slug :: after) :
    ∃ earlier g later, rules = earlier ++ (slug, g) :: later ∧
      front = earlier.flatMap (checkEvents d cache settings) ∧
      (findings d cache settings (slug, g)).messages.map .report <+: after := by
  induction rules generalizing front with
  | nil => exact absurd h Event.nil_ne_split
  | cons e rest ih =>
    obtain ⟨name, g⟩ := e
    rw [checkAll, events_emit_bind, events_emitAll_bind] at h
    obtain ⟨es, hevents, hes⟩ := exists_events_bind
      (handle name d.origin .check (findings d cache settings (name, g)).stop)
      fun _ => checkAll d cache settings rest
    change .check name :: ((findings d cache settings (name, g)).messages.map .report ++
      (handle name d.origin .check (findings d cache settings (name, g)).stop >>=
        fun _ => checkAll d cache settings rest).events) = _ at h
    rw [hevents, handle_events] at h
    cases front with
    | nil =>
      obtain ⟨hcheck, rfl⟩ := List.cons.inj h
      obtain rfl := Event.check.inj hcheck
      exact ⟨[], g, rest, rfl, rfl, List.prefix_append _ _⟩
    | cons x front =>
      obtain ⟨rfl, htail⟩ := List.cons.inj h
      have hquiet : .check slug ∉ (findings d cache settings (name, g)).messages.map Event.report ++
          (checkFailure? d cache settings (name, g)).toList.map .failure := by simp
      rw [← List.append_assoc] at htail
      obtain ⟨mid, rfl, hmid⟩ := Event.split_of_not_mem hquiet htail
      rcases hes with rfl | ⟨_, -, rfl⟩
      · exact absurd hmid Event.nil_ne_split
      · obtain ⟨earlier, g', later, rfl, rfl, hreported⟩ := ih hmid
        refine ⟨(name, g) :: earlier, g', later, rfl, ?_, hreported⟩
        rw [List.flatMap_cons, checkEvents, checkFailure?, List.cons_append]

theorem exists_of_settle {slug : String} {front after : List Event}
    (h : (l.settle d cache).events = front ++ .check slug :: after) :
    ∃ g c s, c.document = d ∧ c.cache = cache ∧ c.settings = s.freeze ∧
      (modifyAll (modifierContext d cache) {} l.modifiers).result = .ok s ∧
      l.Turn (slug, g) c front after := by
  obtain ⟨es, hevents, hes⟩ := exists_events_bind
    (modifyAll (modifierContext d cache) {} l.modifiers) fun settings => do
      emit (.progress d.origin .modified)
      emit (.progress d.origin .checking)
      checkAll d cache settings.freeze (l.active d)
      emit (.progress d.origin .done)
      return cache
  rw [settle, hevents] at h
  have hsilent := modifyAll_silent (modifierContext d cache) {} l.modifiers
  obtain ⟨mid, rfl, hmid⟩ := Event.split_of_not_mem (Event.not_mem_of_silent hsilent) h
  rcases hes with rfl | ⟨s, hs, rfl⟩
  · exact absurd hmid Event.nil_ne_split
  · obtain ⟨tail, htail, hdone⟩ := exists_events_bind (checkAll d cache s.freeze (l.active d))
      fun _ => (do emit (.progress d.origin .done); return cache : Trace _)
    have hquiet : .check slug ∉ tail := by
      rcases hdone with rfl | ⟨_, -, rfl⟩
      · exact List.not_mem_nil
      · simp
    rw [events_emit_bind, events_emit_bind, htail] at hmid
    have hstates : ∀ e ∈ [Event.progress d.origin .modified, Event.progress d.origin .checking],
        e.isSilent := List.forall_mem_cons.2 ⟨rfl, List.forall_mem_singleton.2 rfl⟩
    obtain ⟨mid', rfl, hmid'⟩ := Event.split_of_not_mem (Event.not_mem_of_silent hstates) hmid
    rcases Event.split_append hmid' with ⟨rest, hchecks, rfl⟩ | ⟨rest, -, htail'⟩
    · obtain ⟨earlier, g, later, hactive, rfl, hreported⟩ := exists_of_checkAll hchecks
      have hturn : l.Turn (slug, g)
          { document := d, cache, level := g.level.getD s.defaultLevel, settings := s.freeze }
          (earlier.flatMap (checkEvents d cache s.freeze)) rest :=
        ⟨rfl, ⟨[], earlier, later, by simp, hactive, rfl⟩, hreported⟩
      exact ⟨g, _, s, rfl, rfl, rfl, hs, ((hturn.append tail).behind hstates).behind hsilent⟩
    · exact absurd (htail' ▸ List.mem_append_right _ List.mem_cons_self) hquiet

/-! ### Checks in a run -/

theorem exists_of_checkDocument {slug : String} {front after : List Event}
    (h : (l.checkDocument d known).events = front ++ .check slug :: after) :
    ∃ g c s, c.document = d ∧ c.settings = s.freeze ∧ l.Prepared d known c.cache ∧
      (modifyAll (modifierContext d c.cache) {} l.modifiers).result = .ok s ∧
      l.Turn (slug, g) c front after := by
  have hmem : .check slug ∈ (l.checkDocument d known).events :=
    h ▸ List.mem_append_right _ List.mem_cons_self
  have hprepared : ∃ cache, l.Prepared d known cache := by
    simp only [checkDocument, events_emit_bind, List.mem_cons, reduceCtorEq, false_or,
      mem_events_bind] at hmem
    rcases hmem with hmem | ⟨x, hx, hmem | ⟨cache, hcache, -⟩⟩
    · exact absurd hmem (Event.not_mem_of_silent (discoverAll_silent _ _))
    · exact absurd hmem (Event.not_mem_of_silent (fetchAll_silent _ _ _))
    · obtain ⟨hasked, rfl⟩ := discoverAll_result.1 hx
      exact ⟨cache, fun e he => hasked e (mem_orderedRules.2 he), hcache⟩
  obtain ⟨cache, hprepared⟩ := hprepared
  obtain ⟨-, lead, hlead, hevents⟩ := hprepared.checkDocument
  rw [hevents] at h
  obtain ⟨mid, rfl, hmid⟩ := Event.split_of_not_mem (Event.not_mem_of_silent hlead) h
  obtain ⟨g, c, s, rfl, rfl, hsettings, hs, hturn⟩ := exists_of_settle hmid
  exact ⟨g, c, s, rfl, hsettings, hprepared, hs, hturn.behind hlead⟩

/-- The check of a document is the check of its source, but for the reading. -/
theorem checkSource_of_document (h : l.document? s = some d) :
    l.checkSource known s
      = { events := s.readEvents ++ [.progress s.origin .unparsed] ++
            (l.checkDocument d known).events
          result := (l.checkDocument d known).result } := by
  obtain ⟨text, htext, hparse⟩ := document?_eq_some.1 h
  rw [checkSource, bind_of_ok (sourceText_result.2 htext), sourceText_events, checkText, hparse,
    List.append_assoc]
  rfl

/-- A text that is no document has messages, but no rule sees it. -/
theorem not_mem_of_no_document {slug : String} (h : l.document? s = none) :
    .check slug ∉ (l.checkSource known s).events := by
  rw [checkSource, mem_events_bind, sourceText_events]
  rintro (hmem | ⟨text, htext, hmem⟩)
  · cases s <;> simp [Source.readEvents] at hmem
  · rw [document?, sourceText_result.1 htext] at h
    rw [checkText, events_emit_bind] at hmem
    cases hparse : Document.parse text s.origin s.path with
    | ok d => simp [hparse, Except.toOption] at h
    | error e =>
      cases hmessages : parseMessages text s.origin e <;>
        simp [hparse, hmessages, crash, fail] at hmem

theorem readEvents_silent (s : Source) :
    ∀ e ∈ s.readEvents ++ [.progress s.origin .unparsed], e.isSilent := by
  cases s <;> simp [Source.readEvents, Event.isSilent]

theorem exists_of_checkSource {slug : String} {front after : List Event}
    (h : (l.checkSource known s).events = front ++ .check slug :: after) :
    ∃ g c settings, l.document? s = some c.document ∧ c.settings = settings.freeze ∧
      l.Prepared c.document known c.cache ∧
      (modifyAll (modifierContext c.document c.cache) {} l.modifiers).result = .ok settings ∧
      l.Turn (slug, g) c front after := by
  cases hdocument : l.document? s with
  | none =>
    have hmem : .check slug ∈ (l.checkSource known s).events :=
      h ▸ List.mem_append_right _ List.mem_cons_self
    exact absurd hmem (not_mem_of_no_document hdocument)
  | some d =>
    rw [checkSource_of_document hdocument] at h
    have hread := readEvents_silent s
    obtain ⟨mid, rfl, hmid⟩ := Event.split_of_not_mem (Event.not_mem_of_silent hread) h
    obtain ⟨g, c, settings, rfl, hsettings, hprepared, hs, hturn⟩ := exists_of_checkDocument hmid
    exact ⟨g, c, settings, rfl, hsettings, hprepared, hs, hturn.behind hread⟩

theorem exists_of_checkSources {rest : List Source} {slug : String} {front after : List Event}
    (hsources : l.sources = before ++ rest) (hknown : l.Knows before known)
    (h : (l.checkSources known rest).events = front ++ .check slug :: after) :
    ∃ checked g c settings mid, l.Reaches checked c.document c.cache ∧
      c.settings = settings.freeze ∧
      (modifyAll (modifierContext c.document c.cache) {} l.modifiers).result = .ok settings ∧
      (l.checkSources .empty before).events ++ front
        = (l.checkSources .empty checked).events ++ mid ∧
      l.Turn (slug, g) c mid after := by
  induction rest generalizing before known front with
  | nil => exact absurd h Event.nil_ne_split
  | cons s rest ih =>
    obtain ⟨es, hevents, hes⟩ := exists_events_bind (l.checkSource known s) fun after =>
      l.checkSources after rest
    rw [checkSources, hevents] at h
    rcases Event.split_append h with ⟨mid, hhere, rfl⟩ | ⟨mid, rfl, hthere⟩
    · obtain ⟨g, c, settings, hdocument, hsettings, hprepared, hs, hturn⟩ :=
        exists_of_checkSource hhere
      have hreached : l.Reaches before c.document c.cache :=
        ⟨⟨s, rest, hsources, hdocument⟩, known, hknown, hprepared.followed⟩
      exact ⟨before, g, c, settings, front, hreached, hsettings, hs, rfl, hturn.append es⟩
    · rcases hes with rfl | ⟨next, hnext, rfl⟩
      · exact absurd hthere Event.nil_ne_split
      · obtain ⟨checked, g, c, settings, mid', hreached, hsettings, hs, hfront, hturn⟩ :=
          ih (by simp [hsources]) (.more hknown hnext) hthere
        refine ⟨checked, g, c, settings, mid', hreached, hsettings, hs, ?_, hturn⟩
        have hone : (l.checkSources next []).events = [] := rfl
        rw [← hfront, hknown.checkSources_append, checkSources, events_bind hnext, hone,
          List.append_nil, List.append_assoc]

/-- Where rules are asked in a run, and what they see there. -/
theorem exists_of_run {slug : String} {front after : List Event}
    (h : l.run.events = front ++ .check slug :: after) :
    ∃ checked g c settings mid, l.Reaches checked c.document c.cache ∧
      c.settings = settings.freeze ∧
      (modifyAll (modifierContext c.document c.cache) {} l.modifiers).result = .ok settings ∧
      front = .started l.sources.length l.rules.length ::
        ((l.checkSources .empty checked).events ++ mid) ∧
      l.Turn (slug, g) c mid after := by
  have hstarted : l.rules ≠ [] ∧ l.sources ≠ [] := by
    by_contra hnot
    have hnone : l.run.events = [] := by
      rw [not_and_or, not_not, not_not] at hnot
      rcases hnot with hrules | hsources
      · simp [run, hrules, fail, bind_of_error]
      · by_cases hrules : l.rules = [] <;> simp [run, hrules, hsources, fail, bind_of_error]
    rw [hnone] at h
    exact absurd h Event.nil_ne_split
  rw [run_eq hstarted.1 hstarted.2] at h
  cases front with
  | nil => cases (List.cons.inj h).1
  | cons e front =>
    obtain ⟨rfl, htail⟩ := List.cons.inj h
    obtain ⟨checked, g, c, settings, mid, hreached, hsettings, hs, hfront, hturn⟩ :=
      exists_of_checkSources (List.nil_append _).symm .nothing htail
    refine ⟨checked, g, c, settings, mid, hreached, hsettings, hs, ?_, hturn⟩
    rw [← hfront]
    rfl

/-! ### Modifiers that fail -/

/-- The run applies a modifier to a document: it has come to the document, no rule has ended it
there, and `s` is what the modifiers in front of this one have left. -/
structure Modifies (l : Linter) (checked : List Source) (d : Document)
    (cache : Cache FetchError Document) (m : Modifier) (s : Settings) : Prop where
  rules : l.rules ≠ []
  reached : l.Reaches checked d cache
  asked : ∀ e ∈ l.rules, Stop.Benign (e.2.rule.discover d).stop
  applied : ∃ done rest, l.modifiers = done ++ m :: rest ∧
    (modifyAll (modifierContext d cache) {} done).result = .ok s

theorem modifyAll_append {c : Context} {settings between : Settings} {done : List Modifier}
    (h : (modifyAll c settings done).result = .ok between) (rest : List Modifier) :
    (modifyAll c settings (done ++ rest)).result = (modifyAll c between rest).result := by
  induction done generalizing settings with
  | nil =>
    obtain rfl := Except.ok.inj h
    rfl
  | cons m done ih =>
    rw [modifyAll, result_emit_bind] at h
    rw [List.cons_append, modifyAll, result_emit_bind]
    cases hm : m.change c settings with
    | ok next =>
      rw [hm] at h
      exact ih h
    | error e =>
      rw [hm] at h
      cases e <;> cases h

/-- A modifier that fails ends the run before the next check or message. -/
theorem Modifies.run {checked : List Source} {m : Modifier} {settings : Settings} {reason : String}
    (h : l.Modifies checked d cache m settings)
    (hfails : m.change (modifierContext d cache) settings = .error (.failed reason)) :
    l.run.result = .error (.modifier m.summary reason d.origin) ∧
      ∃ lead, (∀ e ∈ lead, e.isSilent) ∧
        l.run.events = .started l.sources.length l.rules.length ::
          ((l.checkSources .empty checked).events ++ lead) := by
  obtain ⟨s, rest, hsources, hdocument⟩ := h.reached.queued
  obtain ⟨known, hknown, hfollowed⟩ := h.reached.followed
  obtain ⟨done, others, hmodifiers, hdone⟩ := h.applied
  have hmodified : (modifyAll (modifierContext d cache) {} l.modifiers).result
      = .error (.modifier m.summary reason d.origin) := by
    rw [hmodifiers, modifyAll_append hdone, modifyAll, result_emit_bind, hfails]
    rfl
  have hsettled : l.settle d cache
      = { events := (modifyAll (modifierContext d cache) {} l.modifiers).events
          result := .error (.modifier m.summary reason d.origin) } := bind_of_error hmodified _
  have hprepared : l.Prepared d known cache := ⟨h.asked, hfollowed⟩
  obtain ⟨hresult, lead, hlead, hevents⟩ := hprepared.checkDocument
  have hchecked : l.checkSources known (s :: rest)
      = { events := s.readEvents ++ [.progress s.origin .unparsed] ++
            (lead ++ (modifyAll (modifierContext d cache) {} l.modifiers).events)
          result := .error (.modifier m.summary reason d.origin) } := by
    rw [checkSources, checkSource_of_document hdocument, hresult, hevents, hsettled]
    rfl
  have hsome : l.sources ≠ [] := by simp [hsources]
  rw [run_eq h.rules hsome, hsources, hknown.checkSources_append, hchecked]
  refine ⟨rfl, _, ?_, rfl⟩
  exact List.forall_mem_append.2 ⟨readEvents_silent s,
    List.forall_mem_append.2 ⟨hlead, modifyAll_silent _ _ _⟩⟩

/-- The level of each check is settled by the rule and the document: the rule has its own level or
takes that of the last `DefaultLevel` that applies. A modifier of any kind that fails on a document
ends the run before a rule is asked for its findings there, and the messages of the sources before it
have been reported. -/
theorem run_levels (l : Linter) :
    (∀ ms : List DefaultLevel, l.modifiers = ms.map .defaultLevel →
      ∀ front slug after, l.run.events = front ++ .check slug :: after →
        ∃ checked g c mid, l.Reaches checked c.document c.cache ∧
          front = .started l.sources.length l.rules.length ::
            ((l.checkSources .empty checked).events ++ mid) ∧
          l.Turn (slug, g) c mid after ∧
          c.settings = { defaultLevel := c.preamble.levelUnder ms .error, frozen := true } ∧
          (g.level = some .error → c.level = .error) ∧
          (g.level = some .warning → c.level = .warning) ∧
          (g.level = none → c.level = c.preamble.levelUnder ms .error)) ∧
    ∀ checked d cache m settings reason, l.Modifies checked d cache m settings →
      m.change (modifierContext d cache) settings = .error (.failed reason) →
      l.run.result = .error (.modifier m.summary reason d.origin) ∧
      (∃ lead, (∀ e ∈ lead, e.isSilent) ∧ l.run.events =
        .started l.sources.length l.rules.length ::
          ((l.checkSources .empty checked).events ++ lead)) ∧
      ∀ (σ : Type) (r : Reporter σ) (start : σ),
        (r.reportAll start (l.checkSources .empty checked).messages).2 = none →
        r.deliver start l.run
          = { state := (r.reportAll start (l.checkSources .empty checked).messages).1
              events := l.run.events
              error := some (.modifier m.summary reason d.origin) } := by
  constructor
  · intro ms hms front slug after h
    obtain ⟨checked, g, c, settings, mid, hreached, hsettings, hs, hfront, hturn⟩ := exists_of_run h
    rw [hms] at hs
    have hsettled : settings = { defaultLevel := c.preamble.levelUnder ms .error } :=
      Except.ok.inj (hs.symm.trans (modifyAll_defaultLevels _ ms .error))
    rw [hsettled] at hsettings
    have hlevel := hturn.level
    rw [hsettings] at hlevel
    refine ⟨checked, g, c, mid, hreached, hfront, hturn, hsettings, ?_, ?_, ?_⟩ <;> intro hg <;>
      rw [hlevel, hg] <;> rfl
  · intro checked d cache m settings reason h hfails
    obtain ⟨hresult, lead, hlead, hevents⟩ := h.run hfails
    refine ⟨hresult, ⟨lead, hlead, hevents⟩, fun σ r start hreporter => ?_⟩
    have hmessages : l.run.messages = (l.checkSources .empty checked).messages := by
      rw [messages, hevents, List.filterMap_cons_none rfl, List.filterMap_append,
        Event.messages_of_silent hlead, List.append_nil]
      rfl
    rw [← hmessages] at hreporter ⊢
    exact r.deliver_of_error hresult hreporter

/-- A rule that reports the level at which it reports. -/
def levelRule : Rule where
  description := "Findings have a level."
  summary := "Level()"
  discover _ := {}
  check slug c := .report (c.level.message slug)

/-- Proposals that nobody works on only give warnings, and drafts give help. -/
def gradedModifiers : List DefaultLevel :=
  DefaultLevel.standard ++ [{ field := "status", value := "Draft", level := .help }]

/-- A linter for two documents of which the first one has two statuses. -/
def graded : Linter where
  rules := [("level", { rule := levelRule, level := none })]
  modifiers := gradedModifiers.map .defaultLevel
  sources := [.text "---\nstatus: Draft\nstatus: Stagnant \n---\n" (some "a.md"),
    .text "---\nstatus: Final\n---\n" (some "b.md")]

example : graded.run.messages.map (·.level) = [.warning, .error] := by decide +kernel

/-- A modifier that fails on the second document. -/
def impatience : Modifier :=
  .custom "Impatience()" fun c s =>
    if c.origin = some "b.md" then .error (.failed "too late") else .ok s

/-- The linter with a modifier that fails behind those that settle the level. -/
def impatient : Linter :=
  graded.modify impatience

theorem graded_levels :
    (∃ front after g c mid, graded.run.events = front ++ .check "level" :: after ∧
      graded.Turn ("level", g) c mid after ∧
      c.level = c.preamble.levelUnder gradedModifiers .error) ∧
    (Reporter.discarding.deliver () impatient.run).error
      = some (.modifier "Impatience()" "too late" (some "b.md")) := by
  constructor
  · have hasked : graded.run.events.any
        (fun e => match e with | .check slug => slug == "level" | _ => false) = true := by
      decide +kernel
    obtain ⟨e, he, hslug⟩ := List.any_eq_true.1 hasked
    cases e with
    | check slug =>
      obtain rfl : slug = "level" := by simpa using hslug
      obtain ⟨front, after, hevents⟩ := List.append_of_mem he
      obtain ⟨-, g, c, mid, -, -, hturn, -, -, -, hlevel⟩ :=
        (run_levels graded).1 gradedModifiers rfl front "level" after hevents
      have hnone : g.level = none := by
        obtain ⟨_, earlier, later, -, hactive, -⟩ := hturn.turn
        have hmem : ("level", g) ∈ graded.active c.document :=
          hactive ▸ List.mem_append_right _ List.mem_cons_self
        obtain ⟨-, rfl⟩ := Prod.mk.inj (List.mem_singleton.1 (mem_rules_of_mem_active hmem))
        rfl
      exact ⟨front, after, g, c, mid, hevents, hturn, hlevel hnone⟩
    | _ => cases hslug
  · have hfirst : (impatient.checkSource .empty impatient.sources[0]).result.toOption.isSome
        = true := by decide +kernel
    have hsecond : (impatient.document? impatient.sources[1]).isSome = true := by decide +kernel
    cases hknown : (impatient.checkSource .empty impatient.sources[0]).result with
    | error e =>
      rw [hknown] at hfirst
      cases hfirst
    | ok known =>
      obtain ⟨d, hdocument⟩ := Option.isSome_iff_exists.1 hsecond
      obtain ⟨_, -, hparse⟩ := document?_eq_some.1 hdocument
      have horigin : d.origin = some "b.md" := Document.origin_of_parse hparse
      have hpending : pending (impatient.wanted d) known = [] := by
        refine List.eq_nil_iff_forall_not_mem.2 fun r hr => ?_
        obtain ⟨e, he, hasked⟩ := mem_wanted.1 (mem_pending.1 hr).1
        obtain rfl := List.mem_singleton.1 he
        exact List.not_mem_nil hasked
      have hfollowed : (impatient.fetchAll (impatient.wanted d) known).result = .ok known := by
        rw [fetchAll_of_nothing_pending hpending]
        rfl
      have hreached : impatient.Reaches [impatient.sources[0]] d known :=
        ⟨⟨_, [], rfl, hdocument⟩, known, .more .nothing hknown, hfollowed⟩
      have hmodifies : impatient.Modifies [impatient.sources[0]] d known impatience
          { defaultLevel := d.preamble.levelUnder gradedModifiers .error } :=
        ⟨List.cons_ne_nil _ _, hreached, by simp [impatient, graded, modify, levelRule],
          gradedModifiers.map .defaultLevel, [], rfl, modifyAll_defaultLevels _ _ .error⟩
      have hfails : impatience.change (modifierContext d known)
          { defaultLevel := d.preamble.levelUnder gradedModifiers .error }
          = .error (.failed "too late") := if_pos horigin
      rw [← horigin]
      obtain ⟨-, -, hdelivered⟩ := (run_levels impatient).2 _ d known _ _ _ hmodifies hfails
      have htaken := Reporter.reportAll_eq_none (r := Reporter.discarding) (fun _ _ => rfl) ()
      rw [hdelivered Unit Reporter.discarding () (htaken _)]
      rfl

end Linter

end ProposalCheck
