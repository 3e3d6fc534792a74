import ProposalCheck.Proofs.Contexts
import ProposalCheck.Proofs.Independence
import ProposalCheck.Proofs.Visits
import ProposalCheck.Report.Session

/-!
# Runs leave nothing behind

`Session.run_of_history`: whatever was asked of a linter before, refused requests and runs that broke
off included, a run that has rules and sources is the run of a linter that is set up anew in the same
way, from the events in it to the failures that are shown after it.

What a session keeps is its linter, the state of its reporter and the failures of its last run. The
rules of the linter stay a map from slugs to registrations (`Session.after_distinct`), and a run goes
through them in the order of their slugs, so that the order in which they came does not matter
(`Linter.run_withRules`). A run that has rules and sources comes to its first source
(`Linter.run_late`) and so puts its own failures in the place of those before. The cache of a run is
empty at first, and stays coherent with the reader that the linter has now
(`Linter.Reaches.coherent`).
-/

namespace ProposalCheck

/-! ### Where a run can end -/

namespace Trace

variable {α β : Type}

/-- The stretch does not end with an error that comes before the first source. -/
def Late (t : Trace α) : Prop :=
  ∀ e, t.result = .error e → e.isEarly = false

theorem late_of_ok {t : Trace α} {x : α} (h : t.result = .ok x) : t.Late := by
  intro e he
  rw [h] at he
  cases he

theorem late_fail {e : RunError} (h : e.isEarly = false) : (fail e : Trace α).Late := by
  rintro _ ⟨⟩
  exact h

theorem Late.bind {t : Trace α} {f : α → Trace β} (h : t.Late) (hf : ∀ x, (f x).Late) :
    (t >>= f).Late := by
  intro e he
  cases ht : t.result with
  | ok x =>
    rw [bind_of_ok ht] at he
    exact hf x e he
  | error e' =>
    rw [bind_of_error ht] at he
    obtain rfl : e' = e := Except.error.inj he
    exact h e' ht

end Trace

namespace Linter

open Trace

variable {l : Linter} {d : Document} {cache : Cache FetchError Document}

theorem handle_late (slug : String) (origin : Option String) (phase : Phase) (stop : Option Stop) :
    (handle slug origin phase stop).Late := by
  rcases stop with _ | _ | c
  · exact late_of_ok rfl
  · exact late_of_ok rfl
  · exact late_fail rfl

theorem discoverAll_late (d : Document) (rules : List (String × Registration)) :
    (discoverAll d rules).Late := by
  induction rules with
  | nil => exact late_of_ok rfl
  | cons e rest ih =>
    refine (late_of_ok rfl).bind fun _ => ?_
    refine (handle_late _ _ _ _).bind fun _ => ?_
    exact ih.bind fun _ => late_of_ok rfl

theorem storeAll_late (loaded : List (Reference × Except Crash (Except FetchError Document)))
    (cache : Cache FetchError Document) : (storeAll cache loaded).Late := by
  induction loaded generalizing cache with
  | nil => exact late_of_ok rfl
  | cons e rest ih =>
    obtain ⟨r, _ | x⟩ := e
    · exact ih cache
    · cases x with
      | error e => exact (late_of_ok rfl).bind fun _ => ih _
      | ok d => exact ih _

theorem fetchAll_late (l : Linter) (references : List Reference) (cache : Cache FetchError Document) :
    (l.fetchAll references cache).Late := by
  unfold fetchAll
  dsimp only
  split
  · exact late_of_ok rfl
  · refine (late_of_ok rfl).bind fun _ => (late_of_ok rfl).bind fun _ => ?_
    split
    · exact late_fail rfl
    · exact storeAll_late _ cache

theorem modifyAll_late (c : Context) (s : Settings) (ms : List Modifier) :
    (modifyAll c s ms).Late := by
  induction ms generalizing s with
  | nil => exact late_of_ok rfl
  | cons m rest ih =>
    refine (late_of_ok rfl).bind fun _ => ?_
    rcases m.change c s with (_ | _) | s'
    · exact late_fail rfl
    · exact late_fail rfl
    · exact ih s'

theorem checkAll_late (d : Document) (cache : Cache FetchError Document) (s : Settings)
    (rules : List (String × Registration)) : (checkAll d cache s rules).Late := by
  induction rules with
  | nil => exact late_of_ok rfl
  | cons e rest ih =>
    refine (late_of_ok rfl).bind fun _ => (late_of_ok rfl).bind fun _ => ?_
    exact (handle_late _ _ _ _).bind fun _ => ih

theorem checkDocument_late (l : Linter) (d : Document) (cache : Cache FetchError Document) :
    (l.checkDocument d cache).Late := by
  refine (late_of_ok rfl).bind fun _ => (late_of_ok rfl).bind fun _ => ?_
  refine (discoverAll_late _ _).bind fun _ => (late_of_ok rfl).bind fun _ => ?_
  refine (fetchAll_late _ _ _).bind fun _ => (modifyAll_late _ _ _).bind fun _ => ?_
  refine (late_of_ok rfl).bind fun _ => (late_of_ok rfl).bind fun _ => ?_
  exact (checkAll_late _ _ _ _).bind fun _ => (late_of_ok rfl).bind fun _ => late_of_ok rfl

theorem checkSource_late (l : Linter) (cache : Cache FetchError Document) (s : Source) :
    (l.checkSource cache s).Late := by
  refine Late.bind ?_ fun text => (late_of_ok rfl).bind fun _ => ?_
  · cases s with
    | text text origin => exact late_of_ok rfl
    | file p =>
      refine (late_of_ok rfl).bind fun _ => ?_
      rcases l.reader p with (_ | _ | _) | _
      · exact late_fail rfl
      · exact late_fail rfl
      · exact late_fail rfl
      · exact late_of_ok rfl
  · rcases Document.parse text s.origin s.path with e | d
    · dsimp only
      split
      · exact late_fail rfl
      · exact (late_of_ok rfl).bind fun _ => (late_of_ok rfl).bind fun _ => late_of_ok rfl
    · exact checkDocument_late l d cache

theorem checkSources_late (l : Linter) (cache : Cache FetchError Document) (sources : List Source) :
    (l.checkSources cache sources).Late := by
  induction sources generalizing cache with
  | nil => exact late_of_ok rfl
  | cons s rest ih => exact (checkSource_late l cache s).bind fun after => ih after

/-- A run that has rules and sources comes to its first source. -/
theorem run_late (hrules : l.rules ≠ []) (hsources : l.sources ≠ []) : l.run.Late := by
  unfold run
  rw [if_neg (by simpa using hrules), if_neg (by simpa using hsources)]
  exact (late_of_ok rfl).bind fun _ => checkSources_late _ _ _

/-! ### The order in which rules came -/

variable {rules : List (String × Registration)} {before : List Source}
  {known : Cache FetchError Document}

theorem checkDocument_withRules (h : (l.withRules rules).orderedRules = l.orderedRules)
    (d : Document) (cache : Cache FetchError Document) :
    (l.withRules rules).checkDocument d cache = l.checkDocument d cache := by
  unfold checkDocument
  rw [h]
  rfl

theorem checkSource_withRules (h : (l.withRules rules).orderedRules = l.orderedRules)
    (cache : Cache FetchError Document) (s : Source) :
    (l.withRules rules).checkSource cache s = l.checkSource cache s := by
  have htext : (l.withRules rules).sourceText s = l.sourceText s := rfl
  unfold checkSource checkText
  simp only [htext, checkDocument_withRules h]

theorem checkSources_withRules (h : (l.withRules rules).orderedRules = l.orderedRules)
    (cache : Cache FetchError Document) (sources : List Source) :
    (l.withRules rules).checkSources cache sources = l.checkSources cache sources := by
  induction sources generalizing cache with
  | nil => rfl
  | cons s rest ih => simp only [checkSources, checkSource_withRules h, ih]

/-- What happens in a run depends on the rules only through their ascending list. -/
theorem run_withRules (h : (l.withRules rules).orderedRules = l.orderedRules) :
    (l.withRules rules).run = l.run := by
  have hperm : (l.withRules rules).rules.Perm l.rules := by
    rw [← l.orderedRules_perm.congr_right, ← h]
    exact (orderedRules_perm _).symm
  have hempty : (l.withRules rules).rules.isEmpty = l.rules.isEmpty := hperm.isEmpty_eq
  have hsources : (l.withRules rules).sources = l.sources := rfl
  unfold run
  simp only [hempty, hperm.length_eq, hsources, checkSources_withRules h]

/-! ### The cache of a run -/

theorem Coherent.checkSource {after : Cache FetchError Document} {s : Source}
    (hcache : l.Coherent cache) (h : (l.checkSource cache s).result = .ok after) :
    l.Coherent after := by
  have hvisited := visited_checkSource h
  generalize (l.checkSource cache s).events = es at hvisited
  cases hvisited with
  | malformed _ _ _ => exact hcache
  | parsed _ hchecked => exact hcache.fetchAll hchecked.followed

theorem Knows.coherent (h : l.Knows before known) : l.Coherent known := by
  induction h with
  | nothing => exact coherent_empty
  | more _ hsource ih => exact ih.checkSource hsource

/-- All that a run knows is what its own reader and format lead to. -/
theorem Reaches.coherent (h : l.Reaches before d cache) : l.Coherent cache := by
  obtain ⟨known, hknown, hfetch⟩ := h.followed
  exact hknown.coherent.fetchAll hfetch

end Linter

/-! ### Requests -/

namespace Session

variable {σ : Type} {r : Reporter σ} {s : Session σ}

theorem linter_change (s : Session σ) (x : Except RegistryError Linter) :
    (s.change x).2.linter = x.toOption.getD s.linter := by
  cases x <;> rfl

theorem respond_distinct (h : s.linter.Distinct) (q : Request) :
    (s.respond r q).2.linter.Distinct := by
  cases q with
  | register slug rule level =>
    rw [respond, linter_change]
    exact Linter.change_distinct h (.add slug rule level)
  | allow slug =>
    rw [respond, linter_change]
    exact Linter.change_distinct h (.remove slug)
  | clear => exact Linter.change_distinct h .removeAll
  | modify m => exact h
  | readBy reader => exact h
  | add source => exact h
  | run => exact h

theorem start_distinct (modifiers : List Modifier) (reader : Reader) (proposalFormat : String)
    (reported : σ) : (start modifiers reader proposalFormat reported).linter.Distinct :=
  List.nodup_nil

/-- Whatever is asked, no two rules have one slug. -/
theorem after_distinct (h : s.linter.Distinct) (history : List Request) :
    (s.after r history).linter.Distinct := by
  induction history generalizing s with
  | nil => exact h
  | cons q rest ih => exact ih (respond_distinct h q)

/-! ### Setting up anew -/

theorem after_append (s : Session σ) (one two : List Request) :
    s.after r (one ++ two) = (s.after r one).after r two :=
  List.foldl_append

theorem after_register {rules : List (String × Registration)}
    (h : ((s.linter.rules ++ rules).map (·.1)).Nodup) :
    s.after r (rules.map fun e => .register e.1 e.2.rule e.2.level)
      = { s with linter := s.linter.withRules (s.linter.rules ++ rules) } := by
  induction rules generalizing s with
  | nil => simp [after, Linter.withRules]
  | cons e rest ih =>
    have hfree : s.linter.rule? e.1 = none := by
      rw [← Option.not_isSome_iff_eq_none, Linter.rule?_isSome]
      intro he
      rw [List.map_append, List.nodup_append] at h
      exact h.2.2 _ he _ (List.mem_map_of_mem List.mem_cons_self) rfl
    have hstep : (s.respond r (.register e.1 e.2.rule e.2.level)).2
        = { s with linter := s.linter.withRules (s.linter.rules ++ [e]) } := by
      simp [respond, Linter.register, hfree, change, Linter.withRules]
    rw [List.map_cons]
    show Session.after r (s.respond r _).2 _ = _
    rw [hstep, ih (by simpa [Linter.withRules] using h)]
    simp [Linter.withRules]

theorem after_add (sources : List Source) :
    s.after r (sources.map .add)
      = { s with linter := { s.linter with sources := s.linter.sources ++ sources } } := by
  induction sources generalizing s with
  | nil => simp [after]
  | cons source rest ih =>
    show Session.after r { s with linter := s.linter.add source } _ = _
    rw [ih]
    simp [Linter.add]

/-- A linter that is set up as the one of a session is now: from nothing, with rules in some order
and then the sources. -/
def rebuilt (r : Reporter σ) (s : Session σ) (order : List (String × Registration)) : Session σ :=
  (start s.linter.modifiers s.linter.reader s.linter.proposalFormat s.reported).after r
    ((order.map fun e => .register e.1 e.2.rule e.2.level) ++ s.linter.sources.map .add)

theorem rebuilt_eq {order : List (String × Registration)} (h : (order.map (·.1)).Nodup) :
    s.rebuilt r order = { s with linter := s.linter.withRules order, failures := [] } := by
  rw [rebuilt, after_append, after_register (by simpa [start] using h), after_add]
  simp [start, Linter.withRules]

/-! ### Runs after a history -/

theorem failures_run (hrules : s.linter.rules ≠ []) (hsources : s.linter.sources ≠ []) :
    (s.run r).2.failures = (s.run r).1.failures := by
  have hlate : (r.deliver s.reported s.linter.run).error.any RunError.isEarly = false := by
    simp only [Reporter.deliver]
    cases (r.deliverEvents s.reported s.linter.run.events).2.2 with
    | some c => rfl
    | none =>
      cases hresult : s.linter.run.result with
      | ok _ => rfl
      | error e => exact Linter.run_late hrules hsources e hresult
  simp [run, Delivery.failuresAfter, hlate]

/-- Whatever was asked of a linter before, a run with rules and sources is the run of a linter that
is set up anew with the same rules, modifiers, reader, format and sources: the same happens, under
the reporter and without it, and the same failures are shown afterwards. These are the failures of
this run, and all that is known in it is what the present reader and format lead to. -/
theorem run_of_history (r : Reporter σ) (modifiers : List Modifier) (reader : Reader)
    (proposalFormat : String) (reported : σ) (history : List Request) {used : Session σ}
    (hused : (start modifiers reader proposalFormat reported).after r history = used)
    (order : List (String × Registration)) (hdistinct : (order.map (·.1)).Nodup)
    (hmap : ∀ slug g, used.linter.rule? slug = some g ↔ (slug, g) ∈ order)
    (hrules : used.linter.rules ≠ []) (hsources : used.linter.sources ≠ []) :
    (∀ slug, (used.rebuilt r order).linter.rule? slug = used.linter.rule? slug) ∧
      (used.rebuilt r order).linter.run = used.linter.run ∧
      ((used.rebuilt r order).run r).1 = (used.run r).1 ∧
      ((used.rebuilt r order).run r).2.failures = (used.run r).2.failures ∧
      (used.run r).2.failures = (used.run r).1.failures ∧
      (∀ f ∈ (used.run r).2.failures, used.linter.Recorded f) ∧
      ∀ before d cache, used.linter.Reaches before d cache → used.linter.Coherent cache := by
  have hregistry : used.linter.Distinct := by
    rw [← hused]
    exact after_distinct (start_distinct ..) history
  have hfresh : (used.linter.withRules order).Distinct := hdistinct
  have hrule : ∀ slug, (used.linter.withRules order).rule? slug = used.linter.rule? slug := by
    intro slug
    refine Option.ext fun g => ?_
    rw [Linter.rule?_eq_some hfresh, hmap]
    rfl
  have horder : (used.linter.withRules order).orderedRules = used.linter.orderedRules :=
    Linter.orderedRules_eq hfresh (Linter.orderedRules_ascending hregistry) fun slug g => by
      rw [hrule, Linter.rule?_eq_some hregistry, Linter.mem_orderedRules]
  have hrun : (used.linter.withRules order).run = used.linter.run := Linter.run_withRules horder
  have hdelivery : ((used.rebuilt r order).run r).1 = (used.run r).1 := by
    simp [rebuilt_eq hdistinct, run, hrun]
  have hshown : (used.run r).2.failures = (used.run r).1.failures := failures_run hrules hsources
  have hlisted : order ≠ [] := by
    obtain ⟨e, he⟩ := List.exists_mem_of_ne_nil _ hrules
    exact List.ne_nil_of_mem ((hmap e.1 e.2).1 ((Linter.rule?_eq_some hregistry).2 he))
  refine ⟨?_, ?_, hdelivery, ?_, hshown, fun f hf => ?_, fun before d cache h => h.coherent⟩
  · simpa [rebuilt_eq hdistinct] using hrule
  · simpa [rebuilt_eq hdistinct] using hrun
  · rw [hshown, ← hdelivery]
    rw [rebuilt_eq hdistinct]
    exact failures_run hlisted hsources
  · rw [hshown] at hf
    exact Linter.failure_origin (r.mem_failures_of_deliver hf)

/-- A reporter that fails on the first message and takes all others. -/
def sulking : Reporter Nat where
  report n _ := (n + 1, if n = 0 then some (.report "not now") else none)

/-- A linter that was refused a run and two changes of its rules, and whose runs broke off once in
the reporter and once in the reader. -/
def mishaps : List Request := [
  .run,
  .register "weak" Linter.weakRule none,
  .register "shy" Linter.shyRule (some .warning),
  .register "weak" Linter.shyRule none,
  .allow "strong",
  .add (.text "---\nstatus: Stagnant\n---\n" (some "eip-1.md")),
  .run,
  .add (.file (Path.ofText "eip-3.md")),
  .readBy fun _ => .error (.broken "out of order"),
  .run,
  .readBy fun p => if p.text == "eip-3.md" then .ok "---\n---\n" else .error (.unreadable "missing")]

theorem run_of_mishaps :
    let used := (start [] .refusing "eip-\x7b\x7d" 0).after sulking mishaps
    let order := [("shy", { rule := Linter.shyRule, level := some .warning }),
      ("weak", { rule := Linter.weakRule, level := none })]
    (∀ slug, (used.rebuilt sulking order).linter.rule? slug = used.linter.rule? slug) ∧
      (used.rebuilt sulking order).linter.run = used.linter.run ∧
      ((used.rebuilt sulking order).run sulking).1 = (used.run sulking).1 ∧
      ((used.rebuilt sulking order).run sulking).2.failures = (used.run sulking).2.failures ∧
      (used.run sulking).2.failures = (used.run sulking).1.failures ∧
      (∀ f ∈ (used.run sulking).2.failures, used.linter.Recorded f) ∧
      ∀ before d cache, used.linter.Reaches before d cache → used.linter.Coherent cache := by
  have hrules : ((start [] .refusing "eip-\x7b\x7d" 0).after sulking mishaps).linter.rules
      = [("weak", { rule := Linter.weakRule, level := none }),
        ("shy", { rule := Linter.shyRule, level := some .warning })] := rfl
  refine run_of_history sulking [] .refusing "eip-\x7b\x7d" 0 mishaps rfl _ (by decide) (fun slug g => ?_)
    (by simp [hrules]) (List.cons_ne_nil _ _)
  rw [Linter.rule?_eq_some (after_distinct (start_distinct ..) mishaps), hrules]
  exact (List.Perm.swap _ _ _).mem_iff

end Session

end ProposalCheck
