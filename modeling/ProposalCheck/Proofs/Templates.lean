import ProposalCheck.Proofs.Fillings
import ProposalCheck.Proofs.Malformed
import ProposalCheck.Proofs.Reads
import ProposalCheck.Proofs.Refusals
import ProposalCheck.Proofs.Reporters
import ProposalCheck.Proofs.Sessions
import ProposalCheck.Proofs.Severities

/-!
# Templates of a configuration

`Config.load_takes_templates`: a configuration is loaded whatever its templates are, and those that
cannot be filled end the runs in which they are used.

A template of hints is used when the first message of a rule comes to the reporters: if it cannot be
filled, then the message ends the run (`Config.error_deliver_of_help`). A template of names is used
when the references of a document are followed, all of which must lead somewhere in a run that comes
to its end (`Linter.loads_of_run`). Whether a template can be filled does not depend on the slug or
the number (`Config.hintsSettled`, `Config.namesSettled`).
-/

namespace ProposalCheck

/-! ### Hints that cannot be given -/

namespace Reporter

variable {σ : Type}

/-- The first message with a slug stops a reporter whose hints fail, if nothing else does. -/
theorem reportAll_withHelp_error {help : String → Except Crash String} {c : Crash}
    (hhelp : ∀ id, help id = .error c) {inner : Reporter σ} {kept : σ → Prop}
    (hinner : ∀ s m, kept s → (inner.report s m).2 = none ∧ kept (inner.report s m).1) {s : σ}
    (hs : kept s) {ms : List Message} (h : ∃ m ∈ ms, m.id ≠ none) :
    ((inner.withHelp help).reportAll ([], s) ms).2 = some c := by
  induction ms generalizing s with
  | nil => simp at h
  | cons m rest ih =>
    unfold reportAll
    rw [report_withHelp]
    cases hid : m.id with
    | some id => simp [hint, hid, hhelp]
    | none =>
      have hrest : ∃ m ∈ rest, m.id ≠ none := by simpa [hid] using h
      have hpassed : hint help [] m = ([], .ok m) := by simp [hint, hid]
      obtain ⟨hstop, hnext⟩ := hinner s m hs
      rw [hpassed]
      dsimp only
      rw [hstop]
      exact ih hnext hrest

theorem error_deliver_of_reportAll {r : Reporter σ} {s : σ} {t : Trace Unit} {c : Crash}
    (h : (r.reportAll s t.messages).2 = some c) : (r.deliver s t).error = some (.crash c) := by
  rw [Trace.messages, ← r.deliverEvents_eq_reportAll] at h
  have hstop : (r.deliverEvents s t.events).2.2 = some c := h
  simp only [deliver, hstop]

end Reporter

/-- Messages can be added. -/
def Output.IsOpen : Output → Prop
  | text s => s.closed = false
  | json _ => True

theorem Output.isOpen_report {output : Output} (h : output.IsOpen) (m : Message) :
    (reporter.report output m).2 = none ∧ (reporter.report output m).1.IsOpen := by
  cases output with
  | json kept => exact ⟨rfl, trivial⟩
  | text s =>
    obtain ⟨written, closed⟩ := s
    obtain rfl : closed = false := h
    exact ⟨rfl, rfl⟩

theorem Output.isOpen_start (format : OutputFormat) : (Output.start format).IsOpen := by
  cases format
  · exact rfl
  · exact trivial

namespace Config

variable {c : Config} {l : Linter}

/-- A hint that cannot be given on any rule ends every run in which a rule reports something. -/
theorem error_deliver_of_help {e : TemplateError} (h : ∀ slug, c.help slug = .error e)
    (format : OutputFormat) (hreports : ∃ m ∈ l.run.messages, m.id ≠ none) :
    (c.deliver format l).error = some (.crash (.template e)) := by
  have hhelp : ∀ slug, (c.help slug).mapError Crash.template = .error (.template e) := by
    intro slug
    rw [h slug]
    rfl
  have hstop := Reporter.reportAll_withHelp_error hhelp (fun _ m ho => Output.isOpen_report ho m)
    (Output.isOpen_start format) hreports
  exact Reporter.error_deliver_of_reportAll ((Reporter.reportAll_counting _ _ _ _).2.trans hstop)

end Config

/-! ### Names that cannot be made -/

namespace Linter

variable {l : Linter} {d : Document}

/-- A run comes to its end only if every reference that is asked for can be followed. -/
theorem loads_of_run (hrun : l.run.result = .ok ()) {s : Source} (hs : s ∈ l.sources)
    (hdocument : l.document? s = some d) : ∀ r ∈ l.wanted d, ∃ x, l.load r = .ok x := by
  obtain ⟨before, rest, hsources⟩ := List.append_of_mem hs
  obtain ⟨cache, hreaches⟩ := exists_reaches hrun hsources hdocument
  obtain ⟨known, hknown, hfetch⟩ := hreaches.followed
  exact hknown.coherent.loads hfetch

end Linter

namespace Config

variable {c : Config} {l : Linter}

theorem proposalFormat_of_linter {reader : Reader} (h : c.linter reader = .ok l) :
    l.proposalFormat = c.proposalFormat := by
  unfold linter at h
  split at h
  · obtain ⟨history, rfl⟩ := exists_history_of_applyAll (mapError_eq_ok.1 h)
    rw [Linter.changed_eq]
  · cases h

/-! ### Loading -/

/-- The name of the format of messages under an environment. -/
def outputFormatUnder (c : Config) (env : Environment) : Except ConfigStop String :=
  match Environment.given env.outputFormat with
  | none => .ok c.outputFormat
  | some s =>
    match OutputFormat.ofName? s with
    | some f => .ok f.name
    | none => .error (.refused (.unknownFormat s))

theorem withEnvironment_eq (c : Config) (env : Environment) :
    c.withEnvironment env = c.outputFormatUnder env >>= fun f => .ok { c with
      proposalFormat := (Environment.given env.proposalFormat).getD c.proposalFormat
      outputFormat := f
      helpUrl := (Environment.given env.helpUrl).getD c.helpUrl } := by
  unfold withEnvironment outputFormatUnder
  cases Environment.given env.outputFormat with
  | none =>
    cases Environment.given env.proposalFormat <;> cases Environment.given env.helpUrl <;> rfl
  | some s =>
    dsimp only
    cases OutputFormat.ofName? s with
    | none => rfl
    | some f =>
      cases Environment.given env.proposalFormat <;> cases Environment.given env.helpUrl <;> rfl

theorem withEnvironment_templates {c' : Config} {env : Environment}
    (h : c.withEnvironment env = .ok c') {t u : String} (ht : t ≠ "") (hu : u ≠ "") :
    c.withEnvironment { env with helpUrl := some t, proposalFormat := some u }
      = .ok { c' with helpUrl := t, proposalFormat := u } := by
  have hgiven : Environment.given (some t) = some t ∧ Environment.given (some u) = some u := by
    simp [Environment.given, ht, hu]
  rw [withEnvironment_eq] at h ⊢
  obtain ⟨f, hf, hc⟩ := bind_eq_ok.1 h
  obtain rfl := Except.ok.inj hc
  refine bind_eq_ok.2 ⟨f, hf, ?_⟩
  rw [hgiven.1, hgiven.2]
  rfl

/-- A load that succeeds would do so under any templates that the environment gives. -/
theorem load_templates {env : Environment} {files : Files} {asked : Option Path}
    (h : load env files asked = .ok c) {t u : String} (ht : t ≠ "") (hu : u ≠ "") :
    load { env with helpUrl := some t, proposalFormat := some u } files asked
      = .ok { c with helpUrl := t, proposalFormat := u } := by
  rw [load_eq] at h ⊢
  obtain ⟨path, hpath, hfrom⟩ := bind_eq_ok.1 h
  refine bind_eq_ok.2 ⟨path, hpath, ?_⟩
  unfold loadFrom at hfrom ⊢
  cases path with
  | none => exact withEnvironment_templates hfrom ht hu
  | some p =>
    dsimp only at hfrom ⊢
    generalize ({} : Config).updateFromFile files p = updated at hfrom ⊢
    obtain ⟨c', _ | e⟩ := updated
    · exact withEnvironment_templates hfrom ht hu
    · cases hfrom

/-- A file with nothing but a template of names. -/
theorem load_proposalFormat {files : Files} {p : Path} {u : String}
    (h : readData files p = .ok (.record [(.text proposalFormatKey, .text u)])) :
    load {} files (some p) = .ok { proposalFormat := u, path := some p } := by
  have hupdated : ({} : Config).updateFromFile files p
      = ({ proposalFormat := u, path := some p }, none) := by
    unfold updateFromFile
    rw [h]
    rfl
  have hpath : filePath {} (some p) = .ok (some p) := rfl
  rw [load_eq, hpath]
  show loadFrom {} files (some p) = _
  unfold loadFrom
  dsimp only
  rw [hupdated]
  rfl

/-! ### What becomes of templates -/

/-- A hint can be given on every rule, or on none, and then every run in which a rule reports
something breaks off. -/
def HintsSettled (c : Config) : Prop :=
  (∀ slug, ∃ text, c.help slug = .ok text) ∨
    ∃ e, (∀ slug, c.help slug = .error e) ∧
      ∀ format l, (∃ m ∈ l.run.messages, m.id ≠ none) →
        (c.deliver format l).error = some (.crash (.template e))

/-- A name can be made for every number that can be written, or for none, and then no run with these
names comes to its end in which a rule asks for such a proposal. -/
def NamesSettled (c : Config) : Prop :=
  (∀ n, Template.Writable n → ∃ name, Template.fill c.proposalFormat (.number n) = .ok name) ∨
    ∃ e, (∀ n, Template.Writable n → Template.fill c.proposalFormat (.number n) = .error e) ∧
      ∀ l : Linter, l.proposalFormat = c.proposalFormat → ∀ s ∈ l.sources, ∀ d,
        l.document? s = some d → ∀ root n, Template.Writable n → .proposal root n ∈ l.wanted d →
          l.run.result ≠ .ok ()

theorem hintsSettled (h : Template.IsWhole c.helpUrl) : c.HintsSettled := by
  have halike : ∀ slug, True → Alike (fun _ _ => True) (c.help "") (c.help slug) := fun slug _ =>
    Template.fill_alike (.text _ _) h fun n hn => by cases hn
  rcases Alike.dichotomy halike with hgiven | ⟨e, he⟩
  · exact .inl fun slug => hgiven slug trivial
  · have hnone : ∀ slug, c.help slug = .error e := fun slug => he slug trivial
    exact .inr ⟨e, hnone, fun format l => error_deliver_of_help hnone format⟩

theorem namesSettled (hwhole : Template.IsWhole c.proposalFormat)
    (hdigital : Template.IsDigital c.proposalFormat) : c.NamesSettled := by
  have halike : ∀ n, Template.Writable n →
      Alike (fun _ _ => True) (Template.fill c.proposalFormat (.number 0))
        (Template.fill c.proposalFormat (.number n)) := by
    intro n hn
    have hzero : Template.Writable 0 := Template.writable_of_le (Nat.zero_le _)
    exact Template.fill_alike (.number hzero hn) hwhole fun _ _ => hdigital
  rcases Alike.dichotomy halike with hmade | ⟨e, he⟩
  · exact .inl hmade
  · refine .inr ⟨e, he, fun l hformat s hs d hdocument root n hn hwanted hrun => ?_⟩
    obtain ⟨x, hx⟩ := Linter.loads_of_run hrun hs hdocument _ hwanted
    have hname := Linter.fill_of_load hx
    rw [hformat, he n hn] at hname
    cases hname

/-- Loading takes templates as they are, from the environment and from a file, and the linter gets
them so. If its fields take the argument as a whole, then a template can always be filled or never,
whatever the slug or number, so that one try would tell; one that never can ends the runs in which
it is used. One plain field between two texts can always be filled. -/
theorem load_takes_templates {env : Environment} {files : Files} {asked : Option Path}
    (h : load env files asked = .ok c) :
    (∀ t u, t ≠ "" → u ≠ "" →
        load { env with helpUrl := some t, proposalFormat := some u } files asked
          = .ok { c with helpUrl := t, proposalFormat := u }) ∧
      (∀ p u, readData files p = .ok (.record [(.text proposalFormatKey, .text u)]) →
        load {} files (some p) = .ok { proposalFormat := u, path := some p }) ∧
      (∀ reader l, c.linter reader = .ok l → l.proposalFormat = c.proposalFormat) ∧
      (Template.IsWhole c.helpUrl → c.HintsSettled) ∧
      (Template.IsWhole c.proposalFormat → Template.IsDigital c.proposalFormat → c.NamesSettled) ∧
      (∀ before after slug, c.helpUrl = Template.around before after →
        c.help slug = .ok (before ++ slug ++ after)) ∧
      ∀ before after n, c.proposalFormat = Template.around before after → Template.Writable n →
        Template.fill c.proposalFormat (.number n) = .ok (before ++ toString n ++ after) := by
  refine ⟨fun t u ht hu => load_templates h ht hu, fun _ _ hdata => load_proposalFormat hdata,
    fun _ _ hl => proposalFormat_of_linter hl, hintsSettled, namesSettled,
    fun before after slug hc => ?_, fun before after n hc hn => ?_⟩
  · rw [help, hc]
    exact Template.fill_around rfl before after
  · rw [hc]
    exact Template.fill_around hn.plain before after

example : ({} : Config).helpUrl = Template.around "see https://ethereum.github.io/eipw/" "/" ∧
    ({} : Config).proposalFormat = Template.around "eip-" "" := by decide

/-- A hint with a field of a name, and names with a field for a second number. -/
def misnamed : Config :=
  { helpUrl := "see \x7bslug\x7d", proposalFormat := "eip-\x7b1\x7d" }

/-- A linter with these names whose rules ask for a proposal. -/
def stumblingOverNames : Linter :=
  { Linter.stumbling with proposalFormat := misnamed.proposalFormat }

theorem load_takes_misnamed :
    load { helpUrl := some misnamed.helpUrl, proposalFormat := some misnamed.proposalFormat }
        (.single "c.yaml" []) none = .ok misnamed ∧
      (misnamed.deliver .json .interrupted).error
        = some (.crash (.template (.unknownName "slug"))) ∧
      stumblingOverNames.run.result ≠ .ok () := by
  have hload : load
      { helpUrl := some misnamed.helpUrl, proposalFormat := some misnamed.proposalFormat }
      (.single "c.yaml" []) none = .ok misnamed := rfl
  have hhint : misnamed.help "a" = .error (.unknownName "slug") := rfl
  have hname : Template.fill misnamed.proposalFormat (.number 9) = .error (.noArgument 1) := rfl
  have hnine : Template.Writable 9 := Template.writable_of_le (by decide)
  have hreports : Linter.interrupted.run.messages.any (·.id ≠ none) = true := by decide +kernel
  have hparsed : (stumblingOverNames.document? stumblingOverNames.sources[0]).isSome := by
    decide +kernel
  obtain ⟨d, hd⟩ := Option.isSome_iff_exists.1 hparsed
  have hwhole : Template.IsWhole misnamed.helpUrl ∧ Template.IsWhole misnamed.proposalFormat ∧
      Template.IsDigital misnamed.proposalFormat := by decide +kernel
  obtain ⟨-, -, -, hhints, hnames, -, -⟩ := load_takes_templates hload
  refine ⟨hload, ?_, ?_⟩
  · rcases hhints hwhole.1 with hgiven | ⟨e, he, hbroken⟩
    · obtain ⟨text, htext⟩ := hgiven "a"
      rw [hhint] at htext
      cases htext
    · obtain rfl := Except.error.inj (hhint.symm.trans (he "a"))
      exact hbroken .json _ (by simpa using hreports)
  · rcases hnames hwhole.2.1 hwhole.2.2 with hmade | ⟨e, -, hbroken⟩
    · obtain ⟨name, hmade⟩ := hmade 9 hnine
      rw [hname] at hmade
      cases hmade
    · refine hbroken _ rfl _ (List.getElem_mem _) d hd (Path.proposalRoot d.path) 9 hnine ?_
      exact Linter.mem_wanted.2 ⟨_, List.mem_cons_self, List.mem_cons_self⟩

/-- The templates of a configuration that can be loaded. -/
def templates? : Except ConfigStop Config → Option (String × String)
  | .ok c => some (c.helpUrl, c.proposalFormat)
  | .error _ => none

theorem exists_of_templates? {x : Except ConfigStop Config} {t u : String}
    (h : templates? x = some (t, u)) : ∃ c, x = .ok c ∧ c.helpUrl = t ∧ c.proposalFormat = u := by
  cases x with
  | ok c =>
    obtain ⟨ht, hu⟩ := Prod.mk.inj (Option.some.inj h)
    exact ⟨c, rfl, ht, hu⟩
  | error e => cases h

/-- A brace that nothing closes in the environment, and a field for a second number in a file. -/
theorem load_takes_unfillable :
    ∃ c, load { helpUrl := some "\x7b" }
        (.single "c.yaml" "proposal_format: eip-\x7b1\x7d\n".toUTF8.toList)
        (some (Path.ofText "c.yaml")) = .ok c ∧
      c.help "preamble-trim" = .error (.loneBrace '\x7b') ∧
      Template.fill c.proposalFormat (.number 20) = .error (.noArgument 1) := by
  obtain ⟨c, hload, hhint, hname⟩ := exists_of_templates?
    (show templates? (load { helpUrl := some "\x7b" }
        (.single "c.yaml" "proposal_format: eip-\x7b1\x7d\n".toUTF8.toList)
        (some (Path.ofText "c.yaml"))) = some ("\x7b", "eip-\x7b1\x7d") by decide +kernel)
  refine ⟨c, hload, ?_, ?_⟩
  · rw [help, hhint]
    rfl
  · rw [hname]
    rfl

end Config

end ProposalCheck
