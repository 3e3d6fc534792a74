import ProposalCheck.CommandLine.Command
import ProposalCheck.Proofs.FileTexts
import ProposalCheck.Proofs.Malformed
import ProposalCheck.Proofs.Severities
import ProposalCheck.Proofs.Visits

/-!
# What the exit status says

`Command.check_status`: the exit status of a command line is 0 or 1 if its sources are checked to
the end (`Command.Completes`) and no rule stopped, and tells whether errors were found; in all other
cases it is 2, or the command breaks down without a status.

The status is made from what the counting reporter has counted. It counts every message of a run
that comes to its end, as the run reports it and before hints are added
(`Reporter.get_reportAll_counting`). A text that is no document has at least one error
(`Linter.exists_error_of_fits`), and a rule that stops leaves a record; so that without errors and
records each source was a document, and each rule ran to its end on it (`Linter.spotless_of_fits`).
-/

namespace ProposalCheck

/-- What holds of every error of a step holds of the errors of many steps. -/
theorem of_foldlM_eq_error {ε α β : Type} {p : ε → Prop} {f : β → α → Except ε β}
    (hf : ∀ b a e, f b a = .error e → p e) {xs : List α} {b : β} {e : ε}
    (h : xs.foldlM f b = .error e) : p e := by
  induction xs generalizing b with
  | nil => cases h
  | cons x rest ih =>
    rw [List.foldlM_cons] at h
    rcases bind_eq_error.1 h with h | ⟨c, -, h⟩
    · exact hf b x e h
    · exact ih h

/-! ### Reporters -/

namespace Reporter

variable {σ : Type}

/-- Events go to a reporter as the messages among them do. -/
theorem deliverEvents_eq_reportAll (r : Reporter σ) (s : σ) (es : List Event) :
    ((r.deliverEvents s es).1, (r.deliverEvents s es).2.2)
      = r.reportAll s (es.filterMap Event.message?) := by
  induction es generalizing s with
  | nil => rfl
  | cons e rest ih =>
    cases he : e.message? with
    | none =>
      rw [List.filterMap_cons_none he, ← ih]
      simp only [deliverEvents, he]
    | some m =>
      rw [List.filterMap_cons_some he]
      cases hm : r.report s m with
      | mk s' stop =>
        cases stop with
        | none => simp only [deliverEvents, he, hm, reportAll, ← ih]
        | some c => simp only [deliverEvents, he, hm, reportAll]

/-- A run under a reporter comes to its end if it does so by itself and every message is taken. -/
theorem error_deliver_eq_none {r : Reporter σ} {s : σ} {t : Trace Unit} :
    (r.deliver s t).error = none ↔ t.result = .ok () ∧ (r.reportAll s t.messages).2 = none := by
  rw [Trace.messages, ← r.deliverEvents_eq_reportAll]
  simp only [deliver]
  cases (r.deliverEvents s t.events).2.2 with
  | some c => simp
  | none => cases t.result <;> simp

/-- Every message that a counting reporter takes counts, as the level it comes with. -/
theorem get_reportAll_counting {r : Reporter σ} {s : Counts × σ} {ms : List Message}
    (h : (r.counting.reportAll s ms).2 = none) (k : Level) :
    (r.counting.reportAll s ms).1.1.get k = s.1.get k + ms.countP (·.level = k) := by
  induction ms generalizing s with
  | nil => rfl
  | cons m rest ih =>
    obtain ⟨counts, t⟩ := s
    rw [List.countP_cons]
    unfold reportAll at h ⊢
    cases hm : r.report t m with
    | mk t' stop =>
      cases stop with
      | some c => simp [counting, hm] at h
      | none =>
        simp only [counting, hm] at h ⊢
        have hrest := ih (s := (counts.add m.level, t')) h
        rw [Counts.get_add] at hrest
        refine hrest.trans ?_
        simp only [decide_eq_true_eq]
        omega

end Reporter

/-! ### Texts that are no documents -/

theorem Preamble.ne_nil_of_parse {source : String} {ls : List MalformedLine}
    (h : Preamble.parse source = .error ls) : ls ≠ [] := by
  simp only [parse] at h
  split at h
  · cases h
  · rename_i hne
    obtain rfl := Except.error.inj h
    exact hne

theorem Document.ne_nil_of_parse {source : String} {origin : Option String} {path : Option Path}
    {ls : List MalformedLine} (h : Document.parse source origin path = .error (.preamble ls)) :
    ls ≠ [] := by
  rcases bind_eq_error.1 h with h | ⟨_, -, h⟩
  · obtain ⟨_, -, h⟩ := mapError_eq_error h
    cases h
  · rcases bind_eq_error.1 h with h | ⟨_, -, h⟩
    · obtain ⟨_, hpreamble, h⟩ := mapError_eq_error h
      obtain rfl := DocumentError.preamble.inj h
      exact Preamble.ne_nil_of_parse hpreamble
    · rcases bind_eq_error.1 h with h | ⟨_, -, h⟩
      · obtain ⟨_, -, h⟩ := mapError_eq_error h
        cases h
      · cases h

namespace Linter

variable {l : Linter}

/-- Of a text that is no document at least one error is reported. -/
theorem exists_error_of_fits {source : Source} {ms : List Message}
    (h : l.Fits (.malformed source ms)) : ∃ m ∈ ms, m.level = .error := by
  obtain ⟨text, e, -, hparse, hmessages⟩ := h
  cases e with
  | fences e =>
    obtain rfl := Except.ok.inj hmessages
    refine ⟨_, List.mem_singleton_self _, ?_⟩
    unfold fenceMessage
    split
    · rfl
    · simp only
      split <;> rfl
  | preamble ls =>
    obtain rfl := Except.ok.inj hmessages
    obtain ⟨line, hline⟩ := List.exists_mem_of_ne_nil ls (Document.ne_nil_of_parse hparse)
    exact ⟨_, List.mem_map_of_mem hline, rfl⟩
  | markup e => cases hmessages

/-- A source is a document, and every rule comes to its end on it without an error. -/
def Spotless (l : Linter) : Visit → Prop
  | .malformed _ _ => False
  | .parsed _ d _ after s => ∀ e ∈ l.rules, (e.2.rule.discover d).stop = none ∧
      (findings d after s.freeze e).stop = none ∧
      ∀ m ∈ (findings d after s.freeze e).messages, m.level ≠ .error

theorem spotless_of_fits {v : Visit} (h : l.Fits v) (hfailures : l.visitFailures v = [])
    (herrors : ∀ m ∈ l.visitMessages v, m.level ≠ .error) : l.Spotless v := by
  cases v with
  | malformed source ms =>
    obtain ⟨m, hm, hlevel⟩ := exists_error_of_fits h
    exact herrors m hm hlevel
  | parsed source d following after s =>
    obtain ⟨hdiscovery, hcheck⟩ := List.append_eq_nil_iff.1 hfailures
    rw [List.filterMap_eq_nil_iff] at hdiscovery hcheck
    intro e he
    have hdiscovered : (e.2.rule.discover d).stop = none := by
      have hrecorded := h.discoveryRecorded e he
      rw [hdiscovery e (mem_orderedRules.2 he)] at hrecorded
      simpa using hrecorded.symm
    have hactive : e ∈ l.active d :=
      List.mem_filter.2 ⟨mem_orderedRules.2 he, by rw [hdiscovered]; rfl⟩
    refine ⟨hdiscovered, ?_, fun m hm => herrors m (List.mem_flatMap.2 ⟨e, hactive, hm⟩)⟩
    have hrecorded := h.checkRecorded e hactive
    rw [hcheck e hactive] at hrecorded
    simpa using hrecorded.symm

theorem sources_foldl_add (l : Linter) (sources : List Source) :
    (sources.foldl Linter.add l).sources = l.sources ++ sources := by
  induction sources generalizing l with
  | nil => exact (List.append_nil _).symm
  | cons source rest ih =>
    rw [List.foldl_cons, ih, add, List.append_assoc, List.singleton_append]

end Linter

/-- The messages of a run that tell of errors. -/
def Delivery.errors {σ : Type} (d : Delivery σ) : List Message :=
  (d.events.filterMap Event.message?).filter (·.level = .error)

/-- What a run comes to under the reporters of a configuration, if nothing ends it. -/
theorem Config.deliver_eq {c : Config} {format : OutputFormat} {l : Linter}
    (h : (c.deliver format l).error = none) :
    l.run.result = .ok () ∧ (c.deliver format l).events = l.run.events ∧
      (c.deliver format l).state.1.error = (c.deliver format l).errors.length := by
  obtain ⟨hrun, hreported⟩ := Reporter.error_deliver_eq_none.1 h
  have hdeliver := Reporter.deliver_of_reportAll _ hrun hreported
  rw [Delivery.errors, deliver, hdeliver]
  refine ⟨hrun, rfl, ?_⟩
  have hcount := Reporter.get_reportAll_counting hreported .error
  rw [← List.countP_eq_length_filter]
  exact hcount.trans (Nat.zero_add _)

/-! ### Sources -/

namespace Files

theorem eq_directory_of_has {files : Files} {p : Path}
    (h : files.has isDirectory p = .ok true) : ∃ names, files p = .ok (.directory names) := by
  unfold has at h
  split at h
  · rename_i e he
    cases e with
    | file bytes => cases h
    | directory names => exact ⟨names, he⟩
  all_goals cases h

theorem expand_cons {files : Files} {p : Path} {rest paths : List Path}
    (h : files.expand (p :: rest) = .ok paths) :
    ∃ found others, files.expand rest = .ok others ∧ found ++ others = paths ∧
      (found = [p] ∨ found = files.documentsIn p ∧ files.has isDirectory p = .ok true) := by
  obtain ⟨many, hmany, h⟩ := bind_eq_ok.1 h
  cases many with
  | true =>
    obtain ⟨_, hfound, h⟩ := bind_eq_ok.1 h
    obtain rfl := Except.ok.inj hfound
    obtain ⟨others, hothers, h⟩ := bind_eq_ok.1 h
    exact ⟨_, others, hothers, Except.ok.inj h, .inr ⟨rfl, mapError_eq_ok.1 hmany⟩⟩
  | false =>
    obtain ⟨_, hfound, h⟩ := bind_eq_ok.1 h
    obtain rfl := Except.ok.inj hfound
    obtain ⟨others, hothers, h⟩ := bind_eq_ok.1 h
    exact ⟨_, others, hothers, Except.ok.inj h, .inl rfl⟩

/-- The paths of sources are the sources, but for directories, which stand for what is in them. -/
theorem mem_of_expand {files : Files} {sources paths : List Path}
    (h : files.expand sources = .ok paths) :
    ∀ p ∈ sources, p ∈ paths ∨
      (∃ names, files p = .ok (.directory names)) ∧ ∀ q ∈ files.documentsIn p, q ∈ paths := by
  induction sources generalizing paths with
  | nil => simp
  | cons source rest ih =>
    obtain ⟨found, others, hothers, rfl, hfound⟩ := expand_cons h
    refine List.forall_mem_cons.2 ⟨?_, fun p hp => ?_⟩
    · rcases hfound with rfl | ⟨rfl, hdirectory⟩
      · exact .inl (List.mem_append_left _ (List.mem_singleton_self _))
      · refine .inr ⟨eq_directory_of_has hdirectory, fun q hq => ?_⟩
        exact List.mem_append_left _ hq
    · rcases ih hothers p hp with hmem | ⟨hdirectory, hmem⟩
      · exact .inl (List.mem_append_right _ hmem)
      · exact .inr ⟨hdirectory, fun q hq => List.mem_append_right _ (hmem q hq)⟩

end Files

namespace CommandLine

namespace Command

variable {env : Environment} {files : Files} {a : Arguments} {paths : List Path} {l : Linter}
  {d : Delivery Tally}

/-- The sources of a command line stand for some paths and are checked to the end: there are a
configuration and a linter for it, and `d` is what the run of the linter with its sources comes to
under the reporters. -/
structure Completes (env : Environment) (files : Files) (a : Arguments) (paths : List Path)
    (l : Linter) (d : Delivery Tally) : Prop where
  expanded : files.expand a.sources = .ok paths
  built : ∃ asked loaded config bare, a.configPath? = .ok asked ∧
    Config.load env files asked = .ok loaded ∧ a.configure loaded = .ok config ∧
    config.linter files.reader = .ok bare ∧ l = (paths.map Source.file).foldl Linter.add bare ∧
    d = config.deliver (a.formatUnder config) l
  completed : d.error = none

theorem plan_eq_ok {p : Plan} :
    plan env files a = .ok p ↔ ∃ asked loaded bare paths, a.configPath? = .ok asked ∧
      Config.load env files asked = .ok loaded ∧ a.configure loaded = .ok p.config ∧
      p.config.linter files.reader = .ok bare ∧ files.expand a.sources = .ok paths ∧
      p.format = a.formatUnder p.config ∧
      p.linter = (paths.map Source.file).foldl Linter.add bare := by
  unfold plan
  simp only [bind_eq_ok, mapError_eq_ok]
  constructor
  · rintro ⟨asked, hasked, loaded, hloaded, config, hconfig, bare, hbare, paths, hpaths, hp⟩
    obtain rfl := Except.ok.inj hp
    exact ⟨asked, loaded, bare, paths, hasked, hloaded, hconfig, hbare, hpaths, rfl, rfl⟩
  · rintro ⟨asked, loaded, bare, paths, hasked, hloaded, hconfig, hbare, hpaths, hformat, hlinter⟩
    refine ⟨asked, hasked, loaded, hloaded, p.config, hconfig, bare, hbare, paths, hpaths, ?_⟩
    rw [← hformat, ← hlinter]
    rfl

theorem ending_ne_of_configPath? {t : Transcript} (h : a.configPath? = .error t) (n : Nat) :
    t.ending ≠ .ok n := by
  unfold Arguments.configPath? at h
  split at h
  · cases h
  · cases h
  · obtain rfl := Except.error.inj h
    intro hn
    cases hn

theorem ending_ne_of_configure {t : Transcript} {c : Config} (h : a.configure c = .error t)
    (n : Nat) : t.ending ≠ .ok n := by
  unfold Arguments.configure at h
  refine of_foldlM_eq_error (p := fun t : Transcript => t.ending ≠ .ok n) (fun c s t hstep => ?_) h
  split at hstep
  · cases hstep
  · obtain rfl := Except.error.inj hstep
    intro hn
    cases hn

theorem ending_of_stopped {α : Type} {x : Except ConfigStop α} {t : Transcript}
    (h : x.mapError Transcript.stopped = .error t) {n : Nat} (hn : t.ending = .ok n) : n = 2 := by
  obtain ⟨stop, -, rfl⟩ := mapError_eq_error h
  cases stop with
  | refused e => exact (Except.ok.inj hn).symm
  | broken f => cases hn

/-- A command line without a plan has the status of failures, if it has any. -/
theorem ending_of_plan_error {t : Transcript} {n : Nat} (h : plan env files a = .error t)
    (hn : t.ending = .ok n) : n = 2 := by
  rcases bind_eq_error.1 h with h | ⟨asked, -, h⟩
  · exact absurd hn (ending_ne_of_configPath? h n)
  rcases bind_eq_error.1 h with h | ⟨loaded, -, h⟩
  · exact ending_of_stopped h hn
  rcases bind_eq_error.1 h with h | ⟨config, -, h⟩
  · exact absurd hn (ending_ne_of_configure h n)
  rcases bind_eq_error.1 h with h | ⟨bare, -, h⟩
  · exact ending_of_stopped h hn
  rcases bind_eq_error.1 h with h | ⟨paths, -, h⟩
  · obtain ⟨_, -, rfl⟩ := mapError_eq_error h
    cases hn
  · cases h

theorem completes_iff :
    Completes env files a paths l d ↔ ∃ p, plan env files a = .ok p ∧ p.linter = l ∧
      p.config.deliver p.format p.linter = d ∧ d.error = none ∧
      files.expand a.sources = .ok paths := by
  constructor
  · rintro ⟨hpaths, ⟨asked, loaded, config, bare, hasked, hloaded, hconfig, hbare, rfl, rfl⟩, hdone⟩
    refine ⟨⟨config, _, _⟩, plan_eq_ok.2 ?_, rfl, rfl, hdone, hpaths⟩
    exact ⟨asked, loaded, bare, paths, hasked, hloaded, hconfig, hbare, hpaths, rfl, rfl⟩
  · rintro ⟨p, hplan, rfl, rfl, hdone, hpaths⟩
    obtain ⟨asked, loaded, bare, others, hasked, hloaded, hconfig, hbare, hothers, hformat,
      hlinter⟩ := plan_eq_ok.1 hplan
    obtain rfl := Except.ok.inj (hpaths.symm.trans hothers)
    exact ⟨hpaths, ⟨asked, loaded, p.config, bare, hasked, hloaded, hconfig, hbare, hlinter,
      by rw [hformat]⟩, hdone⟩

/-- A command line whose sources are checked to the end has the status of what was found. -/
theorem ending_of_completes (h : Completes env files a paths l d) :
    (check env files a).ending = .ok (status d.failures d.errors.length) := by
  obtain ⟨p, hplan, rfl, rfl, hdone, -⟩ := completes_iff.1 h
  obtain ⟨-, -, hcount⟩ := Config.deliver_eq hdone
  unfold check conclude
  rw [hplan]
  simp only [hdone, hcount]

/-- One whose sources are not checked to the end has the status of failures, if it has any. -/
theorem ending_of_not_completes (h : ¬ ∃ paths l d, Completes env files a paths l d) {n : Nat}
    (hn : (check env files a).ending = .ok n) : n = 2 := by
  unfold check at hn
  cases hplan : plan env files a with
  | error t =>
    rw [hplan] at hn
    exact ending_of_plan_error hplan hn
  | ok p =>
    rw [hplan] at hn
    unfold conclude at hn
    cases hdone : (p.config.deliver p.format p.linter).error with
    | none =>
      obtain ⟨_, _, _, paths, -, -, -, -, hpaths, -, -⟩ := plan_eq_ok.1 hplan
      exact absurd ⟨paths, _, _, completes_iff.2 ⟨p, hplan, rfl, rfl, hdone, hpaths⟩⟩ h
    | some e =>
      simp only [hdone] at hn
      split at hn
      · cases hn
      · exact (Except.ok.inj hn).symm

/-- Any other status than that of failures is one of what was found. -/
theorem ending_eq_iff {n : Nat} (hn : n ≠ 2) :
    (check env files a).ending = .ok n ↔
      ∃ paths l d, Completes env files a paths l d ∧ status d.failures d.errors.length = n := by
  constructor
  · intro hending
    by_cases hcompletes : ∃ paths l d, Completes env files a paths l d
    · obtain ⟨paths, l, d, h⟩ := hcompletes
      exact ⟨paths, l, d, h, Except.ok.inj ((ending_of_completes h).symm.trans hending)⟩
    · exact absurd (ending_of_not_completes hcompletes hending) hn
  · rintro ⟨paths, l, d, h, rfl⟩
    exact ending_of_completes h

theorem status_eq_zero {failures : List RuleFailure} {errors : Nat} :
    status failures errors = 0 ↔ failures = [] ∧ errors = 0 := by
  unfold status
  cases failures <;> by_cases h : errors = 0 <;>
    simp [h, Status.fine, Status.findings, Status.failure]

theorem status_eq_one {failures : List RuleFailure} {errors : Nat} :
    status failures errors = 1 ↔ failures = [] ∧ errors ≠ 0 := by
  unfold status
  cases failures <;> by_cases h : errors = 0 <;>
    simp [h, Status.fine, Status.findings, Status.failure]

theorem status_cases (failures : List RuleFailure) (errors : Nat) :
    status failures errors = 0 ∨ status failures errors = 1 ∨ status failures errors = 2 := by
  unfold status
  split
  · exact .inr (.inr rfl)
  · split
    · exact .inr (.inl rfl)
    · exact .inl rfl

/-- If nothing stopped and no error was found, then each source was read and is a document, and
every rule came to its end on it. -/
theorem Completes.visits (h : Completes env files a paths l d) (hfailures : d.failures = [])
    (herrors : d.errors = []) :
    l.rules ≠ [] ∧ paths ≠ [] ∧ ∃ visits : List Visit,
      visits.map Visit.source = paths.map .file ∧
      d.events = .started paths.length l.rules.length :: visits.flatMap l.visitEvents ∧
      ∀ v ∈ visits, l.Fits v ∧ l.Spotless v := by
  obtain ⟨-, ⟨-, -, config, bare, -, -, -, hbare, hl, rfl⟩, hdone⟩ := h
  have hsources : l.sources = paths.map .file := by
    rw [hl, Linter.sources_foldl_add, Config.sources_of_linter hbare, List.nil_append]
  obtain ⟨hrun, hevents, -⟩ := Config.deliver_eq hdone
  obtain ⟨hrules, hnonempty, hchecked⟩ := Linter.run_result.1 hrun
  obtain ⟨visits, hvisits, hfits, hvisited⟩ := Linter.checkSources_visits hchecked
  have hall : l.run.events
      = .started paths.length l.rules.length :: visits.flatMap l.visitEvents := by
    rw [Linter.run_events hrun, hvisited, hsources, List.length_map]
  refine ⟨hrules, ?_, visits, hvisits.trans hsources, hevents.trans hall, fun v hv => ?_⟩
  · rintro rfl
    exact hnonempty hsources
  · rw [Delivery.failures, hevents, hall, List.filterMap_cons_none rfl, List.filterMap_flatMap,
      List.flatMap_eq_nil_iff] at hfailures
    refine ⟨hfits v hv, Linter.spotless_of_fits (hfits v hv) ?_ fun m hm hlevel => ?_⟩
    · rw [← Linter.failures_visitEvents (hfits v hv)]
      exact hfailures v hv
    · rw [← Linter.messages_visitEvents (hfits v hv)] at hm
      rw [Delivery.errors, hevents, hall, List.filterMap_cons_none rfl, List.filterMap_flatMap,
        List.filter_eq_nil_iff] at herrors
      exact herrors m (List.mem_flatMap.2 ⟨v, hv, hm⟩) (by simpa using hlevel)

/-- The exit status. It is 0 or 1 if there are a configuration and a linter for the command line,
the run comes to its end and no rule stopped, 1 if errors were found and 0 if not; else it is 2, if
the command has a status at all. If it is 0, then every source, or else every document in it, was
read and is a document, and each rule ran to its end on each of them and found no error. -/
theorem check_status (env : Environment) (files : Files) (a : Arguments) :
    ((check env files a).ending = .ok 0 ↔
      ∃ paths l d, Completes env files a paths l d ∧ d.failures = [] ∧ d.errors = []) ∧
    ((check env files a).ending = .ok 1 ↔
      ∃ paths l d, Completes env files a paths l d ∧ d.failures = [] ∧ d.errors ≠ []) ∧
    (∀ n, (check env files a).ending = .ok n → n = 0 ∨ n = 1 ∨ n = 2) ∧
    ((check env files a).ending = .ok 0 → ∃ paths l d, Completes env files a paths l d ∧
      (∀ p ∈ a.sources, p ∈ paths ∨ (∃ names, files p = .ok (.directory names)) ∧
        ∀ q ∈ files.documentsIn p, q ∈ paths) ∧
      l.rules ≠ [] ∧ paths ≠ [] ∧ ∃ visits : List Visit,
        visits.map Visit.source = paths.map .file ∧
        d.events = .started paths.length l.rules.length :: visits.flatMap l.visitEvents ∧
        ∀ v ∈ visits, l.Fits v ∧ l.Spotless v) := by
  have hzero : (check env files a).ending = .ok 0 ↔
      ∃ paths l d, Completes env files a paths l d ∧ d.failures = [] ∧ d.errors = [] := by
    simp only [ending_eq_iff (show 0 ≠ 2 by decide), status_eq_zero, List.length_eq_zero_iff]
  have hone : (check env files a).ending = .ok 1 ↔
      ∃ paths l d, Completes env files a paths l d ∧ d.failures = [] ∧ d.errors ≠ [] := by
    simp only [ending_eq_iff (show 1 ≠ 2 by decide), status_eq_one, List.length_eq_zero_iff, ne_eq]
  refine ⟨hzero, hone, fun n hn => ?_, fun hending => ?_⟩
  · by_cases htwo : n = 2
    · exact .inr (.inr htwo)
    · obtain ⟨_, _, d, -, rfl⟩ := (ending_eq_iff htwo).1 hn
      exact status_cases d.failures d.errors.length
  · obtain ⟨paths, l, d, h, hfailures, herrors⟩ := hzero.1 hending
    exact ⟨paths, l, d, h, Files.mem_of_expand h.expanded, h.visits hfailures herrors⟩

/-- A command line for one file and one rule. -/
def strict : Arguments :=
  { sources := [Path.ofText "a.md"], noStandardRules := true
    severities := [(.deny, some "preamble-no-dup")] }

example :
    (check {} (.single "a.md" "---\na: b\n---\n".toUTF8.toList) strict).ending.toOption = some 0 ∧
      (check {} (.single "a.md" "---\na: b\na: c\n---\n".toUTF8.toList) strict).ending.toOption
        = some 1 ∧
      (check {} (fun _ => .error .missing) strict).ending.toOption = some 2 := by
  decide +kernel

end Command

end CommandLine

end ProposalCheck
