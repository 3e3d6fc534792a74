import ProposalCheck.Proofs.ExitStatuses
import ProposalCheck.Tool.Summary

/-!
# Reporters behind each other

`Tool.check_reports`: messages that go through a counter and get their hints arrive in order, the
first of each slug with one footer more, and are counted by their levels; written as text they are
what is kept of them as plain data, and a check comes to the same summary in both formats.

What a message gets on its way does not depend on where it goes (`Reporter.report_withHelp`). So
reporters that answer alike still do so behind a counter and behind hints
(`Reporter.Matches.counting`, `Reporter.Matches.withHelp`), and a run under them is the same run
(`Reporter.Matches.deliver`). Writing texts and keeping plain data match in this sense
(`Output.reporter_matches`).
-/

namespace ProposalCheck

open Data (Value)

namespace Reporter

variable {σ τ : Type}

/-! ### Single messages -/

/-- What hints make of a message: the slugs that have been seen then, and what is passed on. -/
def hint (help : String → Except Crash String) (seen : List String) (m : Message) :
    List String × Except Crash Message :=
  match m.id with
  | none => (seen, .ok m)
  | some id =>
    if seen.contains id then (seen, .ok m)
    else (id :: seen, (fun text => m.addFooter (Level.help.message text)) <$> help id)

theorem report_withHelp (help : String → Except Crash String) (inner : Reporter σ)
    (seen : List String) (s : σ) (m : Message) :
    (inner.withHelp help).report (seen, s) m =
      match hint help seen m with
      | (seen, .ok m) => ((seen, (inner.report s m).1), (inner.report s m).2)
      | (seen, .error c) => ((seen, s), some c) := by
  simp only [withHelp, hint]
  cases m.id with
  | none => rfl
  | some id =>
    dsimp only
    by_cases hseen : seen.contains id = true
    · rw [if_pos hseen, if_pos hseen]
    · rw [if_neg hseen, if_neg hseen]
      cases help id <;> rfl

theorem level_of_hint {help : String → Except Crash String} {seen : List String} {m m' : Message}
    (h : (hint help seen m).2 = .ok m') : m'.level = m.level := by
  unfold hint at h
  split at h
  · cases h
    rfl
  · split at h
    · cases h
      rfl
    · rename_i id _ _
      cases htext : help id with
      | ok text =>
        rw [htext] at h
        cases h
        rfl
      | error c =>
        rw [htext] at h
        cases h

/-! ### Reporters that match -/

section

variable {together : σ → τ → Prop} {one : Reporter σ} {two : Reporter τ} {s : σ} {t : τ}

/-- From states that go together the reporters answer alike, and their states stay together. -/
def Matches (together : σ → τ → Prop) (one : Reporter σ) (two : Reporter τ) : Prop :=
  ∀ s t m, together s t → (one.report s m).2 = (two.report t m).2 ∧
    together (one.report s m).1 (two.report t m).1

theorem Matches.counting (h : Matches together one two) :
    Matches (fun s t => s.1 = t.1 ∧ together s.2 t.2) one.counting two.counting := by
  rintro ⟨counts, s⟩ ⟨_, t⟩ m ⟨rfl, hst⟩
  obtain ⟨hstop, hnext⟩ := h s t m hst
  exact ⟨hstop, rfl, hnext⟩

theorem Matches.withHelp (h : Matches together one two) (help : String → Except Crash String) :
    Matches (fun s t => s.1 = t.1 ∧ together s.2 t.2) (one.withHelp help) (two.withHelp help) := by
  rintro ⟨seen, s⟩ ⟨_, t⟩ m ⟨rfl, hst⟩
  rw [report_withHelp, report_withHelp]
  obtain ⟨seen', passed⟩ := hint help seen m
  cases passed with
  | ok m' =>
    obtain ⟨hstop, hnext⟩ := h s t m' hst
    exact ⟨hstop, rfl, hnext⟩
  | error c => exact ⟨rfl, rfl, hst⟩

theorem Matches.deliverEvents (h : Matches together one two) (hst : together s t) (es : List Event) :
    (one.deliverEvents s es).2 = (two.deliverEvents t es).2 ∧
      together (one.deliverEvents s es).1 (two.deliverEvents t es).1 := by
  induction es generalizing s t with
  | nil => exact ⟨rfl, hst⟩
  | cons e rest ih =>
    cases he : e.message? with
    | none =>
      obtain ⟨hrest, hnext⟩ := ih hst
      simp only [Reporter.deliverEvents, he, hrest]
      exact ⟨trivial, hnext⟩
    | some m =>
      obtain ⟨hstop, hnext⟩ := h s t m hst
      cases htwo : (two.report t m).2 with
      | none =>
        obtain ⟨hrest, hlast⟩ := ih hnext
        simp only [Reporter.deliverEvents, he, hstop, htwo, hrest]
        exact ⟨trivial, hlast⟩
      | some c =>
        simp only [Reporter.deliverEvents, he, hstop, htwo]
        exact ⟨trivial, hnext⟩

/-- A run is the same under reporters that match. -/
theorem Matches.deliver {α : Type} (h : Matches together one two) (hst : together s t)
    (trace : Trace α) :
    (one.deliver s trace).events = (two.deliver t trace).events ∧
      (one.deliver s trace).error = (two.deliver t trace).error ∧
      together (one.deliver s trace).state (two.deliver t trace).state := by
  obtain ⟨hsame, hstates⟩ := h.deliverEvents hst trace.events
  simp only [Reporter.deliver, hsame]
  exact ⟨trivial, trivial, hstates⟩

theorem Matches.reportAll (h : Matches together one two) (hst : together s t) (ms : List Message) :
    (one.reportAll s ms).2 = (two.reportAll t ms).2 ∧
      together (one.reportAll s ms).1 (two.reportAll t ms).1 := by
  have hone := one.deliverEvents_eq_reportAll s (ms.map .report)
  have htwo := two.deliverEvents_eq_reportAll t (ms.map .report)
  rw [Event.messages_map_report] at hone htwo
  obtain ⟨hsame, hstates⟩ := h.deliverEvents hst (ms.map .report)
  rw [← hone, ← htwo]
  exact ⟨congrArg Prod.snd hsame, hstates⟩

end

/-! ### Invariants -/

/-- What every message that is taken keeps is kept by all of them. -/
theorem reportAll_invariant {r : Reporter σ} {kept : σ → Prop}
    (hstep : ∀ s m, kept s → (r.report s m).2 = none → kept (r.report s m).1) {s : σ}
    (hs : kept s) {ms : List Message} (h : (r.reportAll s ms).2 = none) :
    kept (r.reportAll s ms).1 := by
  induction ms generalizing s with
  | nil => exact hs
  | cons m rest ih =>
    have hnext := hstep s m hs
    unfold reportAll at h ⊢
    cases hm : r.report s m with
    | mk s' stop =>
      rw [hm] at h hnext
      cases stop with
      | none => exact ih (hnext rfl) h
      | some c => cases h

end Reporter

/-! ### Sequences of messages -/

/-- What arrives of a message behind others: the first one of a slug has one footer more. -/
def Message.hinted (help : String → String) (earlier : List Message) (m : Message) : Message :=
  match m.id with
  | none => m
  | some id =>
    if earlier.any (·.id = some id) then m else m.addFooter (Level.help.message (help id))

namespace Reporter

variable {σ τ : Type}

/-- What arrives of some messages behind others. -/
def hintedAll (help : String → String) (earlier : List Message) : List Message → List Message
  | [] => []
  | m :: ms => m.hinted help earlier :: hintedAll help (earlier ++ [m]) ms

@[simp] theorem length_hintedAll (help : String → String) (earlier ms : List Message) :
    (hintedAll help earlier ms).length = ms.length := by
  induction ms generalizing earlier with
  | nil => rfl
  | cons m rest ih => simp [hintedAll, ih]

theorem getElem?_hintedAll (help : String → String) (earlier ms : List Message) (i : Nat) :
    (hintedAll help earlier ms)[i]? = ms[i]?.map (·.hinted help (earlier ++ ms.take i)) := by
  induction ms generalizing earlier i with
  | nil => rfl
  | cons m rest ih =>
    cases i with
    | zero => simp [hintedAll]
    | succ i => simp [hintedAll, ih]

/-- The slugs of some messages. -/
def Lists (seen : List String) (earlier : List Message) : Prop :=
  ∀ id, id ∈ seen ↔ ∃ m ∈ earlier, m.id = some id

theorem Lists.hint {seen : List String} {earlier : List Message} (h : Lists seen earlier)
    (help : String → String) (m : Message) :
    ∃ seen', hint (fun id => .ok (help id)) seen m = (seen', .ok (m.hinted help earlier)) ∧
      Lists seen' (earlier ++ [m]) := by
  unfold Reporter.hint Message.hinted
  cases hm : m.id with
  | none => exact ⟨seen, rfl, fun id => by simp [h id, hm]⟩
  | some id =>
    have hany : earlier.any (·.id = some id) = seen.contains id := by
      rw [Bool.eq_iff_iff, List.contains_iff_mem, h id, List.any_eq_true]
      simp
    dsimp only
    rw [hany]
    by_cases hseen : seen.contains id = true
    · refine ⟨seen, by rw [if_pos hseen, if_pos hseen], fun other => ?_⟩
      have hid : id ∈ seen := List.contains_iff_mem.1 hseen
      by_cases hother : other = id
      · subst hother
        simp [hid, hm]
      · simp [h other, hm, Ne.symm hother]
    · refine ⟨id :: seen, by rw [if_neg hseen, if_neg hseen]; rfl, fun other => ?_⟩
      simp [h other, hm, eq_comm, or_comm]

/-- Behind hints that never fail, a reporter gets what arrives of the messages. -/
theorem reportAll_withHelp (help : String → String) (inner : Reporter σ) {earlier : List Message}
    {seen : List String} (h : Lists seen earlier) (s : σ) (ms : List Message) :
    ((inner.withHelp fun id => .ok (help id)).reportAll (seen, s) ms).1.2
        = (inner.reportAll s (hintedAll help earlier ms)).1 ∧
      ((inner.withHelp fun id => .ok (help id)).reportAll (seen, s) ms).2
        = (inner.reportAll s (hintedAll help earlier ms)).2 := by
  induction ms generalizing earlier seen s with
  | nil => exact ⟨rfl, rfl⟩
  | cons m rest ih =>
    obtain ⟨seen', hhint, hnext⟩ := h.hint help m
    simp only [reportAll, hintedAll, report_withHelp, hhint]
    cases inner.report s (m.hinted help earlier) with
    | mk s' stop =>
      cases stop with
      | none => exact ih hnext s'
      | some c => exact ⟨rfl, rfl⟩

theorem report_counting (inner : Reporter σ) (counts : Counts) (s : σ) (m : Message) :
    inner.counting.report (counts, s) m
      = ((counts.add m.level, (inner.report s m).1), (inner.report s m).2) :=
  rfl

theorem reportAll_counting (inner : Reporter σ) (counts : Counts) (s : σ) (ms : List Message) :
    (inner.counting.reportAll (counts, s) ms).1.2 = (inner.reportAll s ms).1 ∧
      (inner.counting.reportAll (counts, s) ms).2 = (inner.reportAll s ms).2 := by
  induction ms generalizing counts s with
  | nil => exact ⟨rfl, rfl⟩
  | cons m rest ih =>
    simp only [reportAll, report_counting]
    cases inner.report s m with
    | mk s' stop =>
      cases stop with
      | none => exact ih _ s'
      | some c => exact ⟨rfl, rfl⟩

/-! ### Texts and plain data -/

/-- The text that is kept with a message. -/
def formatted (v : Value) : String :=
  match v.get? "formatted" with
  | some (.text text) => text
  | _ => ""

/-- Whether plain data is that of a message of a level. -/
def hasLevel (k : Level) (v : Value) : Bool :=
  match v.get? "level" with
  | some (.text name) => name = k.name
  | _ => false

theorem formatted_toReport (m : Message) : formatted m.toReport = m.render := by
  cases m
  rfl

theorem hasLevel_toReport (k : Level) (m : Message) :
    hasLevel k m.toReport = decide (m.level = k) := by
  obtain ⟨level, title, id, snippets, footers⟩ := m
  show decide (level.name = k.name) = decide (level = k)
  cases level <;> cases k <;> rfl

/-- The texts of messages one after the other, each with a line feed. -/
def concatenated (kept : List Value) : String :=
  String.join (kept.map fun v => formatted v ++ "\n")

/-- What has been written is the texts of what has been kept, the last of which comes first. -/
def SameTexts (s : Stream) (kept : List Value) : Prop :=
  s = { written := concatenated kept.reverse }

theorem text_matches_records : Matches SameTexts text records := by
  rintro s kept m rfl
  refine ⟨rfl, ?_⟩
  simp [SameTexts, text, records, Stream.write, concatenated, formatted_toReport,
    String.join_append, String.join_cons]

end Reporter

/-- Texts and plain data of the same messages. -/
def Output.SameTexts (one two : Output) : Prop :=
  ∃ s kept, one = text s ∧ two = json kept ∧ Reporter.SameTexts s kept

theorem Output.reporter_matches : Reporter.Matches SameTexts reporter reporter := by
  rintro _ _ m ⟨s, kept, rfl, rfl, hsame⟩
  obtain ⟨hstop, hnext⟩ := Reporter.text_matches_records s kept m hsame
  exact ⟨hstop, _, _, rfl, rfl, hnext⟩

/-! ### Configured runs -/

namespace Config

open Reporter

variable {c : Config} {l : Linter}

/-- Notes of two runs that differ only in how messages are shown. -/
def SameNotes (one two : Tally) : Prop :=
  one.1 = two.1 ∧ one.2.1 = two.2.1 ∧ Output.SameTexts one.2.2 two.2.2

/-- A run is the same in both formats. -/
theorem deliver_formats (c : Config) (l : Linter) :
    (c.deliver .text l).events = (c.deliver .json l).events ∧
      (c.deliver .text l).error = (c.deliver .json l).error ∧
      SameNotes (c.deliver .text l).state (c.deliver .json l).state := by
  have hmatches : Matches SameNotes c.reporter c.reporter :=
    (Output.reporter_matches.withHelp _).counting
  have hstart : SameNotes ({}, [], Output.start .text) ({}, [], Output.start .json) :=
    ⟨rfl, rfl, {}, [], rfl, rfl, rfl⟩
  exact hmatches.deliver hstart l.run

/-- The messages have been kept as plain data and counted by their levels. -/
def Counted (notes : Tally) : Prop :=
  ∃ kept, notes.2.2 = .json kept ∧ ∀ k, notes.1.get k = kept.countP (hasLevel k)

theorem counted_report {notes : Tally} (h : Counted notes) (m : Message)
    (hstop : (c.reporter.report notes m).2 = none) : Counted (c.reporter.report notes m).1 := by
  obtain ⟨counts, seen, output⟩ := notes
  obtain ⟨kept, rfl, hcounts⟩ := h
  rw [reporter, report_counting, report_withHelp] at hstop ⊢
  cases hhint : hint (fun slug => (c.help slug).mapError .template) seen m with
  | mk seen' passed =>
    rw [hhint] at hstop
    cases passed with
    | error e => cases hstop
    | ok m' =>
      have hlevel : m'.level = m.level := level_of_hint (congrArg Prod.snd hhint)
      refine ⟨m'.toReport :: kept, rfl, fun k => ?_⟩
      rw [Counts.get_add, List.countP_cons, hasLevel_toReport, hlevel, hcounts]
      simp

theorem counted_deliver (h : (c.deliver .json l).error = none) :
    Counted (c.deliver .json l).state := by
  obtain ⟨hrun, htaken⟩ := error_deliver_eq_none.1 h
  rw [deliver, deliver_of_reportAll _ hrun htaken]
  refine reportAll_invariant (fun notes m hnotes => counted_report hnotes m) ?_ htaken
  exact ⟨[], rfl, fun k => by cases k <;> rfl⟩

end Config

namespace Tool

open Reporter

/-- Two answers to a check, with the messages as text and as plain data: the same failure, or
summaries that differ in nothing but how the messages are shown, and count them right. -/
inductive Agree : Except Failure Summary → Except Failure Summary → Prop
  | failure (e : Failure) : Agree (.error e) (.error e)
  | summary {shown kept : Summary} {diagnostics : List Value}
      (path : shown.path = kept.path) (failures : shown.failures = kept.failures)
      (errors : shown.errors = kept.errors) (warnings : shown.warnings = kept.warnings)
      (texts : shown.output.toValue = .text (concatenated diagnostics))
      (values : kept.output.toValue = .seq diagnostics)
      (errors_eq : kept.errors = diagnostics.countP (hasLevel .error))
      (warnings_eq : kept.warnings = diagnostics.countP (hasLevel .warning)) :
      Agree (.ok shown) (.ok kept)

/-- What is said when a run breaks off. -/
def Failure.ofRun (e : RunError) : Failure :=
  match e.unexpected? with
  | some c => .breakdown (.run c)
  | none => .run e

/-- The summary of a run that nothing ended. -/
def summarize (source : Source) (d : Delivery Tally) : Summary :=
  { path := source.origin, errors := d.state.1.error, warnings := d.state.1.warning,
    output := d.state.2.2, failures := d.failures }

theorem check_eq {c : Config} {files : Files} {l : Linter} (h : c.linter files.reader = .ok l)
    (source : Source) (format : OutputFormat) :
    check c files source format =
      match (c.deliver format (l.add source)).error with
      | some e => .error (.ofRun e)
      | none => .ok (summarize source (c.deliver format (l.add source))) := by
  simp only [check, h, mapError_ok, bind, Except.bind, Failure.ofRun]
  cases (c.deliver format (l.add source)).error with
  | none => rfl
  | some e =>
    dsimp only
    cases e.unexpected? <;> rfl

/-- A check comes to the same in both formats. -/
theorem check_agree (c : Config) (files : Files) (source : Source) :
    Agree (check c files source .text) (check c files source .json) := by
  cases hlinter : c.linter files.reader with
  | error e =>
    simp only [check, hlinter]
    exact .failure _
  | ok l =>
    obtain ⟨hevents, herror, hcounts, -, s, kept, htext, hjson, hwritten⟩ :=
      c.deliver_formats (l.add source)
    rw [check_eq hlinter, check_eq hlinter, herror]
    cases hdone : (c.deliver .json (l.add source)).error with
    | some e => exact .failure _
    | none =>
      obtain ⟨_, hkept, hlevels⟩ := Config.counted_deliver hdone
      obtain rfl := Output.json.inj (hjson.symm.trans hkept)
      refine @Agree.summary _ _ kept.reverse rfl ?_ ?_ ?_ ?_ ?_ ?_ ?_
      · simp only [summarize, Delivery.failures, hevents]
      · simp only [summarize, hcounts]
      · simp only [summarize, hcounts]
      · rw [summarize, htext, hwritten]
        rfl
      · rw [summarize, hjson]
        rfl
      · rw [List.countP_reverse]
        exact hlevels .error
      · rw [List.countP_reverse]
        exact hlevels .warning

end Tool

/-! ### The whole stack -/

namespace Reporter

variable {σ : Type}

/-- A counter before hints that never fail before a reporter. -/
def stacked (help : String → String) (inner : Reporter σ) : Reporter (Counts × (List String × σ)) :=
  (inner.withHelp fun id => .ok (help id)).counting

theorem reportAll_stacked (help : String → String) (inner : Reporter σ) (s : σ)
    (ms : List Message) :
    ((stacked help inner).reportAll ({}, [], s) ms).1.2.2
        = (inner.reportAll s (hintedAll help [] ms)).1 ∧
      ((stacked help inner).reportAll ({}, [], s) ms).2
        = (inner.reportAll s (hintedAll help [] ms)).2 := by
  have hnone : Lists [] [] := fun id => by simp
  obtain ⟨hstate, hstop⟩ := reportAll_counting (inner.withHelp fun id => .ok (help id)) {} ([], s) ms
  obtain ⟨hinside, htaken⟩ := reportAll_withHelp help inner hnone s ms
  exact ⟨(congrArg Prod.snd hstate).trans hinside, hstop.trans htaken⟩

/-- The stack comes to the same for writing texts as for keeping plain data. -/
theorem stacked_formats (help : String → String) (ms : List Message) :
    ∃ counts seen kept,
      (stacked help records).reportAll ({}, [], []) ms = ((counts, seen, kept), none) ∧
      (stacked help text).reportAll ({}, [], {}) ms
        = ((counts, seen, { written := concatenated kept.reverse }), none) := by
  have hmatches := (text_matches_records.withHelp fun id => .ok (help id)).counting
  have hstart : SameTexts {} [] := rfl
  obtain ⟨hstop, hcounts, hseen, hwritten⟩ :=
    hmatches.reportAll (s := ({}, [], {})) (t := ({}, [], [])) ⟨rfl, rfl, hstart⟩ ms
  have htaken : ((stacked help records).reportAll ({}, [], []) ms).2 = none :=
    (reportAll_stacked help records [] ms).2.trans (reportAll_eq_none (fun _ _ => rfl) _ _)
  refine ⟨_, _, _, Prod.ext rfl htaken, Prod.ext ?_ (hstop.trans htaken)⟩
  exact Prod.ext hcounts (Prod.ext hseen hwritten)

/-- Behind a counter and hints, a reporter gets as many messages as there are, in order, each as it
was but for one footer more on the first of a slug, and the counter has counted what came in. Written
as text the messages are what is kept of them as plain data, and the summary of a check does not
depend on the format. -/
theorem stack_faithful (help : String → String) (inner : Reporter σ)
    (hinner : ∀ s m, (inner.report s m).2 = none) (s : σ) (ms : List Message) (c : Config)
    (files : Files) (source : Source) :
    (∃ (counts : Counts) (seen : List String) (received : List Message),
      (stacked help inner).reportAll ({}, [], s) ms
          = ((counts, seen, (inner.reportAll s received).1), none) ∧
        received.length = ms.length ∧
        (∀ (i : Nat) (m : Message), ms[i]? = some m →
          received[i]? = some (m.hinted help (ms.take i))) ∧
        ∀ k, counts.get k = ms.countP (·.level = k)) ∧
      (∃ counts seen kept,
        (stacked help records).reportAll ({}, [], []) ms = ((counts, seen, kept), none) ∧
        (stacked help text).reportAll ({}, [], {}) ms
          = ((counts, seen, { written := concatenated kept.reverse }), none)) ∧
      Tool.Agree (Tool.check c files source .text) (Tool.check c files source .json) := by
  obtain ⟨hstate, hstop⟩ := reportAll_stacked help inner s ms
  have htaken : ((stacked help inner).reportAll ({}, [], s) ms).2 = none :=
    hstop.trans (reportAll_eq_none hinner _ _)
  refine ⟨?_, stacked_formats help ms, Tool.check_agree c files source⟩
  refine ⟨_, _, hintedAll help [] ms, Prod.ext (Prod.ext rfl (Prod.ext rfl hstate)) htaken,
    length_hintedAll .., fun i m hm => ?_, fun k => ?_⟩
  · rw [getElem?_hintedAll, hm]
    rfl
  · rw [stacked, get_reportAll_counting htaken]
    cases k <;> exact Nat.zero_add _

/-- Keeps the messages themselves, the last one first. -/
def collecting : Reporter (List Message) where
  report s m := (m :: s, none)

/-- Two messages of a rule, with one that has no slug and one with an empty slug between them. -/
def remarks : List Message :=
  [(Level.error.message "é").withId "spacing", Level.warning.message "no slug",
    (Level.note.message "empty").withId "", (Level.error.message "again").withId "spacing"]

theorem stack_faithful_remarks :
    (∃ (counts : Counts) (seen : List String) (received : List Message),
      (stacked ("see " ++ ·) collecting).reportAll ({}, [], []) remarks
          = ((counts, seen, (collecting.reportAll [] received).1), none) ∧
        received.length = remarks.length ∧
        (∀ (i : Nat) (m : Message), remarks[i]? = some m →
          received[i]? = some (m.hinted ("see " ++ ·) (remarks.take i))) ∧
        ∀ k, counts.get k = remarks.countP (·.level = k)) ∧
      (∃ counts seen kept,
        (stacked ("see " ++ ·) records).reportAll ({}, [], []) remarks
          = ((counts, seen, kept), none) ∧
        (stacked ("see " ++ ·) text).reportAll ({}, [], {}) remarks
          = ((counts, seen, { written := concatenated kept.reverse }), none)) ∧
      Tool.Agree
        (Tool.check {} (.single "eip-1.md" []) (.file (Path.ofText "eip-1.md")) .text)
        (Tool.check {} (.single "eip-1.md" []) (.file (Path.ofText "eip-1.md")) .json) :=
  stack_faithful _ collecting (fun _ _ => rfl) _ remarks _ _ _

end Reporter

end ProposalCheck
