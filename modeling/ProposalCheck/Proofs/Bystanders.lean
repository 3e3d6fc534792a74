import ProposalCheck.Proofs.Levels
import ProposalCheck.Proofs.Sessions

/-!
# What one rule does to the others

`Linter.beside_run`: a rule can take from the others only what they would have said later, by ending
the run. Whatever is said up to there is said without the rule as well, and if the rule ends no run,
everything is.

What is said (`Saying`) are the messages, each under the slug of the rule that is asked for its findings
when it comes, and the records of rules that stopped. `Trace.Beside` compares a stretch of a run
without the rule to the same stretch with it. It is kept when stretches are joined, so that it is
enough to look at the steps. The rules that are left share the cache with the one that was taken
out. They see the same there if it asks for no references, or else if they look up only what they
asked for themselves (`Linter.Plain`).
-/

namespace ProposalCheck

/-- What is said in a run: a message, under the slug of the rule that has it to say if a rule has, or
the record of a rule that stopped. -/
inductive Saying where
  | message (slug : Option String) (m : Message)
  | failure (f : RuleFailure)

namespace Saying

/-- The rule whose saying it is. -/
def slug? : Saying → Option String
  | message slug _ => slug
  | failure f => some f.slug

/-- The message of a saying. -/
def message? : Saying → Option Message
  | message _ m => some m
  | failure _ => none

/-- The record of a saying. -/
def failure? : Saying → Option RuleFailure
  | message _ _ => none
  | failure f => some f

/-- What a rule says. -/
def own (slug : String) (ss : List Saying) : List Saying :=
  ss.filter fun s => s.slug? == some slug

/-- What is said by others than a rule. -/
def others (slug : String) (ss : List Saying) : List Saying :=
  ss.filter fun s => s.slug? != some slug

@[simp] theorem others_nil (slug : String) : others slug [] = [] := rfl

@[simp] theorem others_append (slug : String) (ss ts : List Saying) :
    others slug (ss ++ ts) = others slug ss ++ others slug ts :=
  List.filter_append ss ts

theorem others_of_forall_eq {slug : String} {ss : List Saying}
    (h : ∀ s ∈ ss, s.slug? = some slug) : others slug ss = [] :=
  List.filter_eq_nil_iff.2 fun s hs => by simp [h s hs]

theorem others_of_forall_ne {slug : String} {ss : List Saying}
    (h : ∀ s ∈ ss, s.slug? ≠ some slug) : others slug ss = ss :=
  List.filter_eq_self.2 fun s hs => by simp [h s hs]

theorem others_messages_self (slug : String) (ms : List Message) :
    others slug (ms.map (.message (some slug))) = [] :=
  others_of_forall_eq (List.forall_mem_map.2 fun _ _ => rfl)

theorem others_messages_of_ne {slug : String} {speaker : Option String} (h : speaker ≠ some slug)
    (ms : List Message) : others slug (ms.map (.message speaker)) = ms.map (.message speaker) :=
  others_of_forall_ne (List.forall_mem_map.2 fun _ _ => h)

end Saying

open Saying (others)

namespace Event

/-- The rule that has the word after an event. -/
def speaker (before : Option String) : Event → Option String
  | check slug => some slug
  | progress _ _ => none
  | _ => before

/-- What is said with an event. -/
def saying? (speaker : Option String) : Event → Option Saying
  | report m => some (.message speaker m)
  | failure f => some (.failure f)
  | _ => none

/-- What is said with some events, when a rule has the word before them. -/
def sayings (before : Option String) : List Event → List Saying
  | [] => []
  | e :: es => (e.saying? before).toList ++ sayings (e.speaker before) es

theorem sayings_append (before : Option String) (es fs : List Event) :
    sayings before (es ++ fs) = sayings before es ++ sayings (es.foldl speaker before) fs := by
  induction es generalizing before with
  | nil => rfl
  | cons e rest ih => rw [List.cons_append, sayings, ih, sayings, List.append_assoc]; rfl

/-- Nothing is said with the event. -/
def isMute : Event → Bool
  | report _ => false
  | failure _ => false
  | _ => true

theorem sayings_of_mute {es : List Event} (h : ∀ e ∈ es, e.isMute) (before : Option String) :
    sayings before es = [] := by
  induction es generalizing before with
  | nil => rfl
  | cons e rest ih =>
    obtain ⟨he, hrest⟩ := List.forall_mem_cons.1 h
    have hsaying : e.saying? before = none := by
      cases e <;> first | rfl | cases he
    rw [sayings, hsaying, ih hrest]
    rfl

theorem sayings_reports (before : Option String) (ms : List Message) :
    sayings before (ms.map report) = ms.map (.message before) := by
  induction ms with
  | nil => rfl
  | cons m rest ih => exact congrArg (Saying.message before m :: ·) ih

theorem sayings_failures (before : Option String) (fs : List RuleFailure) :
    sayings before (fs.map failure) = fs.map .failure := by
  induction fs with
  | nil => rfl
  | cons f rest ih => exact congrArg (Saying.failure f :: ·) ih

theorem message?_sayings (before : Option String) (es : List Event) :
    (sayings before es).filterMap Saying.message? = es.filterMap message? := by
  induction es generalizing before with
  | nil => rfl
  | cons e rest ih =>
    rw [sayings, List.filterMap_append, ih]
    cases e <;> rfl

theorem failure?_sayings (before : Option String) (es : List Event) :
    (sayings before es).filterMap Saying.failure? = es.filterMap failure? := by
  induction es generalizing before with
  | nil => rfl
  | cons e rest ih =>
    rw [sayings, List.filterMap_append, ih]
    cases e <;> rfl

/-- Others than the rule say the same with the events `es` and with the events `fs`, of which only the
latter are from a run with the rule. No rule has to have the word before them. -/
def Alike (slug : String) (es fs : List Event) : Prop :=
  ∀ before before', others slug (sayings before' fs) = sayings before es

theorem Alike.append {slug : String} {es es' fs fs' : List Event} (h : Alike slug es fs)
    (h' : Alike slug es' fs') : Alike slug (es ++ es') (fs ++ fs') := by
  intro before before'
  rw [sayings_append, sayings_append, Saying.others_append, h before before', h' _ _]

theorem alike_of_mute {slug : String} {es fs : List Event} (hes : ∀ e ∈ es, e.isMute)
    (hfs : ∀ e ∈ fs, e.isMute) : Alike slug es fs := by
  intro before before'
  rw [sayings_of_mute hes, sayings_of_mute hfs, Saying.others_nil]

end Event

namespace Trace

/-- What is said in a run. -/
def sayings {α : Type} (t : Trace α) : List Saying :=
  Event.sayings none t.events

theorem message?_sayings {α : Type} (t : Trace α) :
    t.sayings.filterMap Saying.message? = t.messages :=
  Event.message?_sayings none t.events

theorem failure?_sayings {α : Type} (t : Trace α) :
    t.sayings.filterMap Saying.failure? = t.failures :=
  Event.failure?_sayings none t.events

/-! ### Stretches with a rule and without it -/

/-- A stretch without a rule, beside the same one with it. Either others say the same in both, and both
go on or both end; or a crash that is up to the rule ends the one in which it is, and what others have
said until then they say in the other one too. -/
inductive Beside {α β : Type} (slug : String) (own : Crash → Prop) (R : α → β → Prop) (t : Trace α)
    (u : Trace β) : Prop where
  | going {x : α} {y : β} (hsaid : Event.Alike slug t.events u.events) (ht : t.result = .ok x)
      (hu : u.result = .ok y) (h : R x y)
  | ended {e e' : RunError} (hsaid : Event.Alike slug t.events u.events) (ht : t.result = .error e)
      (hu : u.result = .error e')
  | crashed {c : Crash}
      (hsaid : ∀ before before',
        others slug (Event.sayings before' u.events) <+: Event.sayings before t.events)
      (hc : own c) (hu : u.result = .error (.crash c))

variable {α β γ δ : Type} {slug : String} {own : Crash → Prop} {R : α → β → Prop}
  {S : γ → δ → Prop} {t : Trace α} {u : Trace β}

theorem Beside.pure {x : α} {y : β} (h : R x y) : Beside slug own R (Pure.pure x) (Pure.pure y) :=
  .going (fun _ _ => rfl) rfl rfl h

theorem Beside.refl (t : Trace α) (hsaid : Event.Alike slug t.events t.events) :
    Beside slug own Eq t t := by
  cases ht : t.result with
  | ok x => exact .going hsaid ht ht rfl
  | error e => exact .ended hsaid ht ht

theorem Beside.emit {e f : Event} (he : e.isMute) (hf : f.isMute) :
    Beside slug own Eq (emit e) (emit f) :=
  .going (Event.alike_of_mute (List.forall_mem_singleton.2 he) (List.forall_mem_singleton.2 hf))
    rfl rfl rfl

theorem Beside.fail (e e' : RunError) : Beside slug own R (fail e) (fail e') :=
  .ended (fun _ _ => rfl) rfl rfl

/-- Stretches that are beside each other can be joined. -/
theorem Beside.bind {f : α → Trace γ} {g : β → Trace δ} (htu : Beside slug own R t u)
    (hfg : ∀ x y, t.result = .ok x → u.result = .ok y → R x y → Beside slug own S (f x) (g y)) :
    Beside slug own S (t >>= f) (u >>= g) := by
  cases htu with
  | @going x y hsaid ht hu hR =>
    rw [bind_of_ok ht, bind_of_ok hu]
    cases hfg x y ht hu hR with
    | going hnext hf hg hS => exact .going (hsaid.append hnext) hf hg hS
    | ended hnext hf hg => exact .ended (hsaid.append hnext) hf hg
    | crashed hnext hc hg =>
      refine .crashed (fun before before' => ?_) hc hg
      rw [Event.sayings_append, Event.sayings_append, Saying.others_append, hsaid before before']
      exact (List.prefix_append_right_inj _).2 (hnext _ _)
  | ended hsaid ht hu =>
    rw [bind_of_error ht, bind_of_error hu]
    exact .ended hsaid rfl rfl
  | crashed hsaid hc hu =>
    rw [bind_of_error hu]
    refine .crashed (fun before before' => (hsaid before before').trans ?_) hc rfl
    obtain ⟨es, hes, -⟩ := exists_events_bind t f
    rw [hes, Event.sayings_append]
    exact List.prefix_append _ _

theorem Beside.sayings_prefix (h : Beside slug own R t u) : others slug u.sayings <+: t.sayings := by
  cases h with
  | going hsaid _ _ _ => exact (hsaid none none) ▸ List.prefix_rfl
  | ended hsaid _ _ => exact (hsaid none none) ▸ List.prefix_rfl
  | crashed hsaid _ _ => exact hsaid none none

/-- Without a crash of the rule, others say all that they say without it. -/
theorem Beside.sayings_eq (h : Beside slug own R t u) (hown : ∀ c, ¬ own c) :
    others slug u.sayings = t.sayings ∧
      ((∃ y, u.result = .ok y) ↔ ∃ x, t.result = .ok x) := by
  cases h with
  | going hsaid ht hu _ => exact ⟨hsaid none none, by rw [ht, hu]; simp⟩
  | ended hsaid ht hu => exact ⟨hsaid none none, by rw [ht, hu]; simp⟩
  | crashed _ hc _ => exact absurd hc (hown _)

/-- What comes to its end without the rule comes to its end with it, or else the rule ends it. -/
theorem Beside.ok_or_crash {x : α} (h : Beside slug own R t u) (ht : t.result = .ok x) :
    (∃ y, u.result = .ok y) ∨ ∃ c, own c ∧ u.result = .error (.crash c) := by
  cases h with
  | going _ _ hu _ => exact .inl ⟨_, hu⟩
  | ended _ ht' _ =>
    rw [ht] at ht'
    cases ht'
  | crashed _ hc hu => exact .inr ⟨_, hc, hu⟩

/-- A stretch in which only the rule says something. -/
def Apart (slug : String) (w : Trace γ) : Prop :=
  ∀ before, others slug (Event.sayings before w.events) = []

/-- What the rule alone does may be put before one of the stretches. -/
theorem Beside.behind {w : Trace γ} {z : γ} {g : γ → Trace β} (hw : w.Apart slug)
    (hz : w.result = .ok z) (h : Beside slug own R t (g z)) :
    Beside slug own R t (w >>= g) := by
  have hdrop (es : List Event) (before : Option String) :
      others slug (Event.sayings before (w.events ++ es))
        = others slug (Event.sayings (w.events.foldl Event.speaker before) es) := by
    rw [Event.sayings_append, Saying.others_append, hw before, List.nil_append]
  rw [bind_of_ok hz]
  cases h with
  | going hsaid ht hu hR =>
    exact .going (fun before before' => by rw [hdrop, hsaid before]) ht hu hR
  | ended hsaid ht hu =>
    exact .ended (fun before before' => by rw [hdrop, hsaid before]) ht hu
  | crashed hsaid hc hu =>
    exact .crashed (fun before before' => by rw [hdrop]; exact hsaid _ _) hc hu

/-- What the rule alone does may end the run. -/
theorem Beside.of_crash {w : Trace γ} {c : Crash} {g : γ → Trace β} (hw : w.Apart slug)
    (hend : w.result = .error (.crash c)) (hc : own c) : Beside slug own R t (w >>= g) := by
  rw [bind_of_error hend]
  exact .crashed (fun before before' => by rw [hw before']; exact List.nil_prefix) hc rfl

theorem bind_pure_eq (t : Trace α) : t >>= Pure.pure = t := by
  cases h : t.result with
  | ok x =>
    rw [bind_of_ok h, events_pure, result_pure, List.append_nil, ← h]
  | error e => rw [bind_of_error h, ← h]

/-- An event and more of them. -/
theorem emit_bind_emitAll_bind (e : Event) (es : List Event) (t : Trace α) :
    (do emit e; emitAll es; t) = (do emitAll (e :: es); t) :=
  rfl

end Trace

/-! ### A rule in a run -/

/-- How a rule ends a run over a document: when it is asked what it needs or for its findings, or since
a reference that it asks for cannot be followed. -/
inductive Rule.Ends (rule : Rule) (slug : String) (l : Linter) (d : Document) : Crash → Prop where
  | discovery {x : Crash} (h : (rule.discover d).stop = some (.crash x)) : Ends rule slug l d x
  | reference {r : Reference} {x : Crash} (hr : r ∈ (rule.discover d).references)
      (h : l.load r = .error x) : Ends rule slug l d x
  | check {c : Context} {x : Crash} (hc : c.document = d)
      (h : (rule.check slug c).stop = some (.crash x)) : Ends rule slug l d x

namespace Linter

open Trace

variable {l : Linter} {slug : String} {d : Document} {own : Crash → Prop}
  {cache other after later : Cache FetchError Document}

/-- The linter without a rule. -/
def without (l : Linter) (slug : String) : Linter :=
  l.withRules (l.rules.filter fun e => e.1 != slug)

theorem allow_eq_ok {rest : Linter} (h : l.allow slug = .ok rest) : rest = l.without slug := by
  unfold allow at h
  split at h
  · exact (Except.ok.inj h).symm
  · cases h

/-- The documents among the sources of a linter. -/
def documents (l : Linter) : List Document :=
  l.sources.filterMap l.document?

/-! ### The rules that are left -/

theorem mem_without_rules {e : String × Registration} :
    e ∈ (l.without slug).rules ↔ e ∈ l.rules ∧ e.1 ≠ slug := by
  simp [without, withRules]

theorem without_distinct (h : l.Distinct) : (l.without slug).Distinct :=
  h.sublist (List.filter_sublist.map _)

theorem orderedRules_without (h : l.Distinct) :
    (l.without slug).orderedRules = l.orderedRules.filter fun e => e.1 != slug := by
  refine orderedRules_eq (without_distinct h) ((orderedRules_ascending h).filter _) fun s g => ?_
  rw [rule?_eq_some (without_distinct h), mem_without_rules, List.mem_filter, mem_orderedRules,
    bne_iff_ne]

theorem wanted_without (h : l.Distinct) :
    (l.without slug).wanted d
      = (l.orderedRules.filter fun e => e.1 != slug).flatMap
          fun e => (e.2.rule.discover d).references := by
  rw [wanted, orderedRules_without h]

theorem active_without (h : l.Distinct) :
    (l.without slug).active d = (l.active d).filter fun e => e.1 != slug := by
  rw [active, orderedRules_without h, active, List.filter_filter, List.filter_filter]
  exact List.filter_congr fun e _ => Bool.and_comm _ _

theorem mem_wanted_cases (slug : String) {r : Reference} (hr : r ∈ l.wanted d) :
    r ∈ (l.without slug).wanted d ∨
      ∃ e ∈ l.rules, e.1 = slug ∧ r ∈ (e.2.rule.discover d).references := by
  obtain ⟨e, he, hre⟩ := mem_wanted.1 hr
  by_cases hslug : e.1 = slug
  · exact .inr ⟨e, he, hslug, hre⟩
  · exact .inl (mem_wanted.2 ⟨e, mem_without_rules.2 ⟨he, hslug⟩, hre⟩)

theorem mem_wanted_of_without {r : Reference} (hr : r ∈ (l.without slug).wanted d) :
    r ∈ l.wanted d := by
  obtain ⟨e, he, hre⟩ := mem_wanted.1 hr
  exact mem_wanted.2 ⟨e, (mem_without_rules.1 he).1, hre⟩

/-! ### Asking the rules -/

theorem sayings_handle (s : String) (origin : Option String) (phase : Phase) (stop : Option Stop)
    (before : Option String) :
    Event.sayings before (handle s origin phase stop).events
      = (failureRecord? s origin phase stop).toList.map .failure := by
  rw [handle_events, Event.sayings_failures]

theorem slug_of_failureRecord? {s : String} {origin : Option String} {phase : Phase}
    {stop : Option Stop} {f : RuleFailure} (h : failureRecord? s origin phase stop = some f) :
    f.slug = s := by
  unfold failureRecord? at h
  split at h
  · rw [← Option.some.inj h]
  · cases h

theorem handle_apart (origin : Option String) (phase : Phase) (stop : Option Stop) :
    (handle slug origin phase stop).Apart slug := by
  intro before
  rw [sayings_handle]
  refine Saying.others_of_forall_eq fun s hs => ?_
  obtain ⟨f, hf, rfl⟩ := List.mem_map.1 hs
  exact congrArg some (slug_of_failureRecord? (Option.mem_toList.1 hf))

theorem handle_alike {s : String} (hs : s ≠ slug) (origin : Option String) (phase : Phase)
    (stop : Option Stop) :
    Event.Alike slug (handle s origin phase stop).events (handle s origin phase stop).events := by
  intro before before'
  rw [sayings_handle, sayings_handle]
  refine Saying.others_of_forall_ne fun x hx => ?_
  obtain ⟨f, hf, rfl⟩ := List.mem_map.1 hx
  exact fun h => hs ((slug_of_failureRecord? (Option.mem_toList.1 hf)).symm.trans (Option.some.inj h))

theorem emit_apart {e : Event} (he : e.isMute) : (emit e).Apart slug := by
  intro before
  rw [show (emit e).events = [e] from rfl,
    Event.sayings_of_mute (List.forall_mem_singleton.2 he), Saying.others_nil]

/-- The rule stops, if at all, with a fault or with a crash that is up to it. -/
theorem beside_handle {α β : Type} {R : α → β → Prop} {t : Trace α} {g : Bool → Trace β}
    {origin : Option String} {phase : Phase} {stop : Option Stop}
    (hcrash : ∀ x, stop = some (.crash x) → own x)
    (h : ∀ b, Beside slug own R t (g b)) :
    Beside slug own R t (handle slug origin phase stop >>= g) := by
  rcases stop with _ | f | c
  · exact .behind (handle_apart _ _ _) rfl (h _)
  · exact .behind (handle_apart _ _ _) rfl (h _)
  · exact .of_crash (handle_apart _ _ _) rfl (hcrash c rfl)

theorem beside_discoverAll {rules : List (String × Registration)}
    (hown : ∀ e ∈ rules, e.1 = slug → ∀ x, (e.2.rule.discover d).stop = some (.crash x) → own x) :
    Beside slug own (fun _ _ => True) (discoverAll d (rules.filter fun e => e.1 != slug))
      (discoverAll d rules) := by
  induction rules with
  | nil => exact .pure trivial
  | cons e rest ih =>
    obtain ⟨s, g⟩ := e
    obtain ⟨he, hrest⟩ := List.forall_mem_cons.1 hown
    replace ih := ih hrest
    by_cases hs : s = slug
    · subst hs
      rw [List.filter_cons_of_neg (by simp)]
      refine .behind (emit_apart rfl) rfl (beside_handle (he rfl) fun goesOn => ?_)
      rw [← bind_pure_eq (discoverAll d (rest.filter _))]
      exact ih.bind fun _ _ _ _ _ => .pure trivial
    · rw [List.filter_cons_of_pos (by simpa using hs)]
      refine Beside.bind (.emit rfl rfl) fun _ _ _ _ _ => ?_
      refine Beside.bind (.refl _ (handle_alike hs _ _ _)) fun b b' _ _ hb => ?_
      exact ih.bind fun _ _ _ _ _ => .pure trivial

/-! ### Following references -/

theorem exists_of_firstCrash?
    {loaded : List (Reference × Except Crash (Except FetchError Document))} {c : Crash}
    (h : l.firstCrash? loaded = some c) : ∃ e ∈ loaded, e.2 = .error c := by
  simp only [firstCrash?, List.partition_eq_filter_filter] at h
  obtain ⟨e, he, hcrash⟩ := List.exists_of_findSome?_eq_some h
  refine ⟨e, ?_, ?_⟩
  · rcases List.mem_append.1 he with he | he
    · exact (List.mem_filter.1 he).1
    · exact (List.mem_filter.1 he).1
  · split at hcrash
    · rename_i y hy
      rw [hy, Option.some.inj hcrash]
    · cases hcrash

theorem exists_of_fetchAll_error {references : List Reference} {x : RunError}
    (h : (l.fetchAll references cache).result = .error x) :
    ∃ r ∈ references, ∃ c, l.load r = .error c ∧ x = .crash c := by
  by_cases hp : pending references cache = []
  · rw [fetchAll_of_nothing_pending hp] at h
    cases h
  · cases hcrash : l.firstCrash? ((pending references cache).map fun r => (r, l.load r)) with
    | none =>
      have hloads : ∀ r ∈ pending references cache, ∃ x, l.load r = .ok x :=
        fun r hr => firstCrash?_eq_none.1 hcrash _ (List.mem_map_of_mem hr)
      obtain ⟨after, hafter, -⟩ := fetchAll_spec hloads
      rw [hafter] at h
      cases h
    | some c =>
      obtain ⟨e, he, hload⟩ := exists_of_firstCrash? hcrash
      obtain ⟨r, hr, rfl⟩ := List.mem_map.1 he
      unfold pending at hp hcrash
      have hend : RunError.crash c = x := by simpa [fetchAll, hp, hcrash] using h
      exact ⟨r, (mem_pending.1 hr).1, c, hload, hend.symm⟩

/-- What is known in a run without the rule, and what is known in one with it. -/
structure Shared (l : Linter) (slug : String) (cache other : Cache FetchError Document) : Prop where
  left : l.Coherent cache
  right : l.Coherent other
  alike : (l.without slug).Plain ∨ cache = other

/-- The rule leaves nothing behind that others can see: either they look up only what they asked for
themselves, or the rule asks for nothing. -/
def Discreet (l : Linter) (slug : String) : Prop :=
  (l.without slug).Plain ∨
    ∀ e ∈ l.rules, e.1 = slug → ∀ d, (e.2.rule.discover d).references = []

theorem wanted_of_asks_nothing (hl : l.Distinct)
    (h : ∀ e ∈ l.rules, e.1 = slug → (e.2.rule.discover d).references = []) :
    (l.without slug).wanted d = l.wanted d := by
  rw [wanted_without hl, wanted]
  replace h : ∀ e ∈ l.orderedRules, e.1 = slug → (e.2.rule.discover d).references = [] :=
    fun e he => h e (mem_orderedRules.1 he)
  generalize l.orderedRules = rules at h ⊢
  induction rules with
  | nil => rfl
  | cons e rest ih =>
    obtain ⟨he, hrest⟩ := List.forall_mem_cons.1 h
    rw [List.flatMap_cons, ← ih hrest]
    by_cases hslug : e.1 = slug
    · rw [List.filter_cons_of_neg (by simpa using hslug), he hslug, List.nil_append]
    · rw [List.filter_cons_of_pos (by simpa using hslug), List.flatMap_cons]

theorem fetchAll_mute (l : Linter) (references : List Reference)
    (cache : Cache FetchError Document) : ∀ e ∈ (l.fetchAll references cache).events, e.isMute := by
  intro e he
  have hfollowing := isFollowing_of_mem_fetchAll he
  cases e <;> first | rfl | cases hfollowing

/-- The others find the same when the references have been followed. -/
theorem Shared.follow (hl : l.Distinct) (hdiscreet : l.Discreet slug)
    (h : l.Shared slug cache other)
    (hafter : (l.fetchAll ((l.without slug).wanted d) cache).result = .ok after)
    (hlater : (l.fetchAll (l.wanted d) other).result = .ok later) :
    l.Shared slug after later ∧
      ∀ e ∈ (l.without slug).active d, ∀ s, findings d after s e = findings d later s e := by
  have hcoherent := h.left.fetchAll hafter
  have hcoherent' := h.right.fetchAll hlater
  have hplain (hothers : (l.without slug).Plain) : ∀ e ∈ (l.without slug).active d, ∀ s,
      findings d after s e = findings d later s e := by
    intro e he s
    have hrule := hothers.rules e (mem_rules_of_mem_active he)
    have hactive : e ∈ l.active d := by
      rw [active_without hl] at he
      exact (List.mem_filter.1 he).1
    refine (findings_eq_own (l := l.without slug) h.left hafter he hrule s).trans ?_
    exact (findings_eq_own h.right hlater hactive hrule s).symm
  rcases h.alike with hothers | rfl
  · exact ⟨⟨hcoherent, hcoherent', .inl hothers⟩, hplain hothers⟩
  · rcases hdiscreet with hothers | hnothing
    · exact ⟨⟨hcoherent, hcoherent', .inl hothers⟩, hplain hothers⟩
    · rw [wanted_of_asks_nothing hl fun e he hslug => hnothing e he hslug d, hlater] at hafter
      obtain rfl := Except.ok.inj hafter
      exact ⟨⟨hcoherent, hcoherent', .inr rfl⟩, fun _ _ _ => rfl⟩

theorem beside_fetchAll (hl : l.Distinct) (hdiscreet : l.Discreet slug)
    (h : l.Shared slug cache other)
    (hown : ∀ e ∈ l.rules, e.1 = slug → ∀ r ∈ (e.2.rule.discover d).references, ∀ x,
      l.load r = .error x → own x) :
    Beside slug own (fun after later => l.Shared slug after later ∧
        ∀ e ∈ (l.without slug).active d, ∀ s, findings d after s e = findings d later s e)
      (l.fetchAll ((l.without slug).wanted d) cache) (l.fetchAll (l.wanted d) other) := by
  have hsaid : Event.Alike slug (l.fetchAll ((l.without slug).wanted d) cache).events
      (l.fetchAll (l.wanted d) other).events :=
    Event.alike_of_mute (fetchAll_mute _ _ _) (fetchAll_mute _ _ _)
  cases hafter : (l.fetchAll ((l.without slug).wanted d) cache).result with
  | ok after =>
    cases hlater : (l.fetchAll (l.wanted d) other).result with
    | ok later => exact .going hsaid hafter hlater (h.follow hl hdiscreet hafter hlater)
    | error x =>
      -- what the others ask for can be followed, so that it is one of the rule's own references
      obtain ⟨r, hr, c, hload, rfl⟩ := exists_of_fetchAll_error hlater
      refine .crashed (fun before before' => ?_) ?_ hlater
      · exact hsaid before before' ▸ List.prefix_rfl
      · rcases mem_wanted_cases slug hr with hr | ⟨e, he, hslug, hr⟩
        · obtain ⟨found, hfound⟩ := h.left.loads hafter r hr
          rw [hfound] at hload
          cases hload
        · exact hown e he hslug r hr c hload
  | error x =>
    cases hlater : (l.fetchAll (l.wanted d) other).result with
    | error y => exact .ended hsaid hafter hlater
    | ok later =>
      obtain ⟨r, hr, c, hload, -⟩ := exists_of_fetchAll_error hafter
      obtain ⟨found, hfound⟩ := h.right.loads hlater r (mem_wanted_of_without hr)
      rw [hfound] at hload
      cases hload

theorem modifyAll_mute (c : Context) (s : Settings) (ms : List Modifier) :
    ∀ e ∈ (modifyAll c s ms).events, e.isMute := by
  intro e he
  obtain ⟨summary, rfl⟩ := exists_of_mem_modifyAll he
  rfl

/-! ### Asking for findings -/

theorem sayings_checked (s : String) (ms : List Message) (before : Option String) :
    Event.sayings before (.check s :: ms.map .report) = ms.map (.message (some s)) :=
  Event.sayings_reports (some s) ms

theorem checkAll_cons (s : Settings) (e : String × Registration)
    (rest : List (String × Registration)) :
    checkAll d cache s (e :: rest) = (do
      emitAll (.check e.1 :: (findings d cache s e).messages.map .report)
      let _ ← handle e.1 d.origin .check (findings d cache s e).stop
      checkAll d cache s rest) :=
  rfl

theorem beside_checkAll {rules : List (String × Registration)} {s : Settings}
    (hsame : ∀ e ∈ rules, e.1 ≠ slug → findings d after s e = findings d later s e)
    (hown : ∀ e ∈ rules, e.1 = slug → ∀ x,
      (findings d later s e).stop = some (.crash x) → own x) :
    Beside slug own Eq (checkAll d after s (rules.filter fun e => e.1 != slug))
      (checkAll d later s rules) := by
  induction rules with
  | nil => exact .pure rfl
  | cons e rest ih =>
    obtain ⟨he, hrest⟩ := List.forall_mem_cons.1 hown
    obtain ⟨hsame, hsames⟩ := List.forall_mem_cons.1 hsame
    replace ih := ih hsames hrest
    rw [checkAll_cons]
    by_cases hslug : e.1 = slug
    · subst hslug
      rw [List.filter_cons_of_neg (by simp)]
      refine .behind (fun before => ?_) rfl (beside_handle (he rfl) fun _ => ih)
      change others _ (Event.sayings before (_ :: _)) = []
      rw [sayings_checked, Saying.others_messages_self]
    · rw [List.filter_cons_of_pos (by simpa using hslug), checkAll_cons, hsame hslug]
      refine Beside.bind (.refl _ fun before before' => ?_) fun _ _ _ _ _ => ?_
      · change others _ (Event.sayings before' (_ :: _)) = Event.sayings before (_ :: _)
        rw [sayings_checked, sayings_checked]
        exact Saying.others_messages_of_ne (fun h => hslug (Option.some.inj h)) _
      · exact Beside.bind (.refl _ (handle_alike hslug _ _ _)) fun _ _ _ _ _ => ih

/-! ### Runs -/

variable (hl : l.Distinct) (hdiscreet : l.Discreet slug)

include hl hdiscreet

theorem beside_checkDocument (h : l.Shared slug cache other)
    (hown : ∀ e ∈ l.rules, e.1 = slug → ∀ x, e.2.rule.Ends slug l d x → own x) :
    Beside slug own (l.Shared slug) ((l.without slug).checkDocument d cache)
      (l.checkDocument d other) := by
  unfold checkDocument
  refine Beside.bind (.emit rfl rfl) fun _ _ _ _ _ => Beside.bind (.emit rfl rfl) fun _ _ _ _ _ => ?_
  rw [orderedRules_without hl]
  refine (beside_discoverAll fun e he hslug x hx =>
    hown e (mem_orderedRules.1 he) hslug x (.discovery hx)).bind fun x y hx hy _ => ?_
  rw [← orderedRules_without hl] at hx
  obtain ⟨-, rfl⟩ := discoverAll_result.1 hx
  obtain ⟨-, rfl⟩ := discoverAll_result.1 hy
  dsimp only
  refine Beside.bind (.emit rfl rfl) fun _ _ _ _ _ => ?_
  refine (beside_fetchAll hl hdiscreet h fun e he hslug r hr x hx =>
    hown e he hslug x (.reference hr hx)).bind fun after later _ _ hafter => ?_
  obtain ⟨hshared, hsame⟩ := hafter
  have hmodify : modifyAll (modifierContext d after) {} l.modifiers
      = modifyAll (modifierContext d later) {} l.modifiers := by
    rcases hshared.alike with hplain | rfl
    · exact modifyAll_congr d after later hplain.modifiers {}
    · rfl
  unfold modifierContext at hmodify
  rw [show (l.without slug).modifiers = l.modifiers from rfl, hmodify]
  have hmute := modifyAll_mute (modifierContext d later) {} l.modifiers
  refine Beside.bind (.refl _ (Event.alike_of_mute hmute hmute)) fun s _ _ _ hs => ?_
  subst hs
  refine Beside.bind (.emit rfl rfl) fun _ _ _ _ _ => Beside.bind (.emit rfl rfl) fun _ _ _ _ _ => ?_
  change Beside slug own _ (checkAll d after s.freeze ((l.without slug).active d) >>= _)
    (checkAll d later s.freeze (l.active d) >>= _)
  rw [active_without hl] at hsame ⊢
  refine (beside_checkAll (fun e he hslug => hsame e (List.mem_filter.2 ⟨he, bne_iff_ne.2 hslug⟩) _)
    fun e he hslug x hx => hown e (mem_rules_of_mem_active he) hslug x ?_).bind fun _ _ _ _ _ => ?_
  · rw [← hslug]
    exact .check rfl hx
  · exact Beside.bind (.emit rfl rfl) fun _ _ _ _ _ => .pure hshared

omit hl hdiscreet in
/-- No rule has the word when a text is found to be none. -/
theorem alike_reports (origin : Option String) (state : Progress) (ms : List Message) :
    Event.Alike slug (.progress origin state :: ms.map .report)
      (.progress origin state :: ms.map .report) := by
  intro before before'
  change others slug (Event.sayings none (ms.map .report)) = Event.sayings none (ms.map .report)
  rw [Event.sayings_reports]
  exact Saying.others_messages_of_ne (Option.some_ne_none slug).symm ms

theorem beside_checkSource {s : Source} (h : l.Shared slug cache other)
    (hown : ∀ d, l.document? s = some d → ∀ e ∈ l.rules, e.1 = slug → ∀ x,
      e.2.rule.Ends slug l d x → own x) :
    Beside slug own (l.Shared slug) ((l.without slug).checkSource cache s)
      (l.checkSource other s) := by
  unfold checkSource
  have hread : ∀ e ∈ (l.sourceText s).events, e.isMute := by
    rw [sourceText_events]
    cases s with
    | text t origin => exact List.forall_mem_nil _
    | file p => exact List.forall_mem_singleton.2 rfl
  change Beside slug own _ (l.sourceText s >>= _) _
  refine Beside.bind (.refl _ (Event.alike_of_mute hread hread)) fun text _ htext _ heq => ?_
  subst heq
  unfold checkText
  cases hparse : Document.parse text s.origin s.path with
  | ok d =>
    refine Beside.bind (.emit rfl rfl) fun _ _ _ _ _ => ?_
    exact beside_checkDocument hl hdiscreet h
      (hown d (document?_eq_some.2 ⟨text, sourceText_result.1 htext, hparse⟩))
  | error e =>
    dsimp only
    cases parseMessages text s.origin e with
    | error c => exact Beside.bind (.emit rfl rfl) fun _ _ _ _ _ => .fail _ _
    | ok ms =>
      dsimp only
      rw [emit_bind_emitAll_bind, emit_bind_emitAll_bind]
      refine Beside.bind (.refl _ (alike_reports s.origin .unparsed ms)) fun _ _ _ _ _ => ?_
      exact Beside.bind (.emit rfl rfl) fun _ _ _ _ _ => .pure h

theorem beside_checkSources {sources : List Source} (h : l.Shared slug cache other)
    (hown : ∀ s ∈ sources, ∀ d, l.document? s = some d → ∀ e ∈ l.rules, e.1 = slug → ∀ x,
      e.2.rule.Ends slug l d x → own x) :
    Beside slug own (fun _ _ => True) ((l.without slug).checkSources cache sources)
      (l.checkSources other sources) := by
  induction sources generalizing cache other with
  | nil => exact .pure trivial
  | cons s rest ih =>
    obtain ⟨hs, hrest⟩ := List.forall_mem_cons.1 hown
    unfold checkSources
    exact (beside_checkSource hl hdiscreet h hs).bind fun _ _ _ _ hshared => ih hshared hrest

/-- Beside a run without a rule, the run with the rule goes just the same for the others, if the rule
does not end it. -/
theorem beside_run (hothers : (l.without slug).rules ≠ [])
    (hown : ∀ d ∈ l.documents, ∀ e ∈ l.rules, e.1 = slug → ∀ x,
      e.2.rule.Ends slug l d x → own x) :
    Beside slug own (fun _ _ => True) (l.without slug).run l.run := by
  have hleft : (l.without slug).rules.isEmpty = false := by simpa using hothers
  have hright : l.rules.isEmpty = false := by
    obtain ⟨e, he⟩ := List.exists_mem_of_ne_nil _ hothers
    simpa using List.ne_nil_of_mem (mem_without_rules.1 he).1
  unfold run
  rw [hleft, hright]
  change Beside slug own _ (do
    if l.sources.isEmpty then Trace.fail .noSources
    Trace.emit (.started l.sources.length (l.without slug).rules.length)
    (l.without slug).checkSources .empty l.sources) (do
    if l.sources.isEmpty then Trace.fail .noSources
    Trace.emit (.started l.sources.length l.rules.length)
    l.checkSources .empty l.sources)
  split
  · exact .fail _ _
  · refine Beside.bind (.emit rfl rfl) fun _ _ _ _ _ => ?_
    exact beside_checkSources hl hdiscreet ⟨coherent_empty, coherent_empty, .inr rfl⟩
      fun s hs d hd => hown d (List.mem_filterMap.2 ⟨s, hs, hd⟩)

omit hl hdiscreet in
theorem checked_of_checkSources {sources : List Source} (hcache : l.Coherent cache)
    (h : (l.checkSources cache sources).result = .ok ()) :
    ∀ source ∈ sources, ∀ d, l.document? source = some d →
      ∃ cache after s, l.Coherent cache ∧ l.Checked d cache after s := by
  induction sources generalizing cache with
  | nil => exact List.forall_mem_nil _
  | cons source rest ih =>
    obtain ⟨after, es, hvisited, hrest⟩ := checkSources_cons_result.1 h
    have hresult : (l.checkSource cache source).result = .ok after := by
      rw [hvisited.checkSource_eq]
    refine List.forall_mem_cons.2 ⟨fun d hd => ?_, ih (hcache.checkSource hresult) hrest⟩
    cases hvisited with
    | malformed htext hparse _ =>
      rw [document?, htext, Option.bind_some, hparse] at hd
      cases hd
    | parsed hdocument hchecked =>
      obtain rfl := Option.some.inj (hdocument.symm.trans hd)
      exact ⟨cache, _, _, hcache, hchecked⟩

omit hl hdiscreet in
/-- In a run that comes to its end, so does the check of each document. -/
theorem checked_of_run (hrun : l.run.result = .ok ()) {d : Document} (hd : d ∈ l.documents) :
    ∃ cache after s, l.Coherent cache ∧ l.Checked d cache after s := by
  obtain ⟨source, hsource, hdocument⟩ := List.mem_filterMap.1 hd
  exact checked_of_checkSources coherent_empty (run_result.1 hrun).2.2 source hsource d hdocument

/-! ### The records of one rule -/

omit hl hdiscreet in
theorem filter_slug_failures (record? : String × Registration → Option RuleFailure)
    (h : ∀ e f, record? e = some f → f.slug = e.1) (rules : List (String × Registration)) :
    (rules.filterMap record?).filter (fun f => f.slug == slug)
      = (rules.filter fun e => e.1 == slug).filterMap record? := by
  induction rules with
  | nil => rfl
  | cons e rest ih =>
    cases hrecord : record? e with
    | none =>
      rw [List.filterMap_cons_none hrecord, ih, List.filter_cons]
      split
      · rw [List.filterMap_cons_none hrecord]
      · rfl
    | some f =>
      rw [List.filterMap_cons_some hrecord, List.filter_cons, h e f hrecord, ih, List.filter_cons]
      split
      · rw [List.filterMap_cons_some hrecord]
      · rfl

omit hdiscreet in
/-- A visit leaves one record of a rule that cannot do its work, if there is a document. -/
theorem visitFailures_of_fault {g : Registration} (hrule : (slug, g) ∈ l.rules) {f : Fault}
    (hdiscover : ∀ d, (g.rule.discover d).stop = none)
    (hcheck : ∀ c, (g.rule.check slug c).stop = some (.fault f)) {v : Visit} (hfits : l.Fits v) :
    (l.visitFailures v).filter (fun x => x.slug == slug)
      = (l.document? v.source).toList.map
          fun d => { slug, origin := d.origin, phase := .check, fault := f } := by
  cases v with
  | malformed source messages =>
    obtain ⟨text, e, htext, hparse, -⟩ := hfits
    rw [Visit.source, document?, htext, Option.bind_some, hparse]
    rfl
  | parsed source d following after s =>
    have hactive : (slug, g) ∈ l.active d :=
      List.mem_filter.2 ⟨mem_orderedRules.2 hrule, by rw [hdiscover]; rfl⟩
    have hnone : discoveryFailure? d (slug, g) = none := by
      rw [discoveryFailure?, hdiscover]
      rfl
    have hsome : checkFailure? d after s.freeze (slug, g)
        = some { slug, origin := d.origin, phase := .check, fault := f } := by
      rw [checkFailure?, findings, hcheck]
      rfl
    have hordered : (l.orderedRules.map (·.1)).Nodup :=
      ((orderedRules_perm l).map _).nodup_iff.2 hl
    have hnodup : ((l.active d).map (·.1)).Nodup :=
      hordered.sublist (List.filter_sublist.map _)
    rw [visitFailures, List.filter_append,
      filter_slug_failures (discoveryFailure? d) fun e f hf => slug_of_failureRecord? hf,
      filter_slug_failures (checkFailure? d _ _) fun e f hf => slug_of_failureRecord? hf,
      filter_slug_eq hordered (mem_orderedRules.2 hrule), filter_slug_eq hnodup hactive,
      List.filterMap_cons_none hnone, List.filterMap_cons_some hsome, Visit.source, hfits.document]
    rfl

omit hdiscreet in
/-- A rule that cannot do its work on any document leaves one record for each. -/
theorem failures_of_fault {g : Registration} (hrule : (slug, g) ∈ l.rules) {f : Fault}
    (hdiscover : ∀ d, (g.rule.discover d).stop = none)
    (hcheck : ∀ c, (g.rule.check slug c).stop = some (.fault f)) (hrun : l.run.result = .ok ()) :
    l.run.failures.filter (fun x => x.slug == slug)
      = l.documents.map fun d => { slug, origin := d.origin, phase := .check, fault := f } := by
  obtain ⟨-, -, hsources⟩ := run_result.1 hrun
  obtain ⟨visits, hvisits, hfits, hevents⟩ := checkSources_visits hsources
  have hfailures : l.run.failures = visits.flatMap l.visitFailures := by
    rw [Trace.failures, run_events hrun, List.filterMap_cons_none rfl, hevents,
      List.filterMap_flatMap]
    exact List.flatMap_congr fun v hv => failures_visitEvents (hfits v hv)
  rw [hfailures, List.filter_flatMap,
    List.flatMap_congr fun v hv => visitFailures_of_fault hl hrule hdiscover hcheck (hfits v hv),
    documents, ← hvisits, List.filterMap_map, List.map_filterMap, List.filterMap_eq_flatMap_toList]
  refine List.flatMap_congr fun v _ => ?_
  cases h : l.document? v.source <;> simp [h]

end Linter

end ProposalCheck
