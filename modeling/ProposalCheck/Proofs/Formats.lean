import ProposalCheck.Proofs.Reporters

/-!
# A command line in both formats

`Command.check_formats`: a command line that shows its messages as text and the same command line
with its messages as records end in the same way and tell the same errors. What the first shows is
the texts of the messages, and the second writes the list of these messages as JSON, with their texts
in it, if the run comes to its end. If the run breaks off, it writes nothing, although the messages
so far have been kept (`Command.check_withholds`).

Nothing but the run depends on the format (`Command.plan_withFormat`), and the run is the same in both
(`Config.deliver_formats`). So the two differ only in what is written about the run, which is settled
by `Command.conclude`: text is shown while messages come in, records once they all have.
-/

namespace ProposalCheck.CommandLine

open Data (Value)
open Reporter (concatenated)

/-- The command line with its messages in a format. -/
def Arguments.withFormat (a : Arguments) (f : OutputFormat) : Arguments :=
  { a with format := some f }

namespace Command

variable {env : Environment} {files : Files} {a : Arguments}

/-- The format of messages changes nothing of a plan but the format. -/
theorem plan_withFormat (f : OutputFormat) :
    plan env files (a.withFormat f) = (fun p => { p with format := f }) <$> plan env files a := by
  unfold plan
  simp only [map_bind, map_pure]
  rfl

/-! ### What is written about a run -/

theorem conclude_of_error {d : Delivery Tally} {e : RunError} (h : d.error = some e) :
    (conclude d).out = d.state.2.2.live := by
  unfold conclude
  simp only [h]
  cases e.unexpected? <;> rfl

theorem conclude_of_end {d : Delivery Tally} (h : d.error = none) :
    (conclude d).out = d.state.2.2.live ++ d.state.2.2.final := by
  unfold conclude
  simp only [h]

/-- How a run ends and which errors are told does not depend on what becomes of its messages. -/
theorem conclude_congr {one two : Delivery Tally} (hevents : one.events = two.events)
    (herror : one.error = two.error) (hcounts : one.state.1 = two.state.1) :
    (conclude one).ending = (conclude two).ending ∧ (conclude one).err = (conclude two).err := by
  have hfailures : one.failures = two.failures := congrArg (List.filterMap Event.failure?) hevents
  unfold conclude
  cases htwo : two.error with
  | none =>
    simp only [herror, htwo, hfailures, hcounts]
    exact ⟨trivial, trivial⟩
  | some e =>
    simp only [herror, htwo]
    cases e.unexpected? <;> exact ⟨rfl, rfl⟩

/-- The messages of a run as they are shown and as they are written: `diagnostics` are the records of
those that were taken. -/
theorem exists_diagnostics (c : Config) (l : Linter) :
    ∃ diagnostics : List Value,
      (conclude (c.deliver .text l)).out = concatenated diagnostics ∧
      ((c.deliver .json l).error = none →
        (conclude (c.deliver .json l)).out
          = Data.Json.write (some 2) (.seq diagnostics) ++ "\n") ∧
      ((c.deliver .json l).error ≠ none → (conclude (c.deliver .json l)).out = "") := by
  obtain ⟨-, herror, -, -, s, kept, htext, hjson, hsame⟩ := c.deliver_formats l
  have hwritten : s.written = concatenated kept.reverse := congrArg Stream.written hsame
  refine ⟨kept.reverse, ?_, fun hnone => ?_, fun hsome => ?_⟩
  · -- text is out as soon as a message is taken, however the run ends
    cases hdone : (c.deliver .text l).error with
    | none =>
      rw [conclude_of_end hdone, htext, ← hwritten]
      exact String.append_empty
    | some e =>
      rw [conclude_of_error hdone, htext, ← hwritten]
      rfl
  · rw [conclude_of_end hnone, hjson]
    exact String.empty_append
  · obtain ⟨e, he⟩ := Option.ne_none_iff_exists'.1 hsome
    rw [conclude_of_error he, hjson]
    rfl

/-- A command line has the same status in both formats and tells the same errors. If there is a
linter for it, then the text that is shown is the texts of the records, each with a line feed; the
records are written as a list once the run has come to its end, and not at all if it breaks off. If
there is none, the user is told the same. -/
theorem check_formats (env : Environment) (files : Files) (a : Arguments) :
    (check env files (a.withFormat .text)).ending = (check env files (a.withFormat .json)).ending ∧
    (check env files (a.withFormat .text)).err = (check env files (a.withFormat .json)).err ∧
    (∀ p, plan env files a = .ok p → ∃ diagnostics : List Value,
      (check env files (a.withFormat .text)).out = concatenated diagnostics ∧
      ((p.config.deliver .json p.linter).error = none →
        (check env files (a.withFormat .json)).out
          = Data.Json.write (some 2) (.seq diagnostics) ++ "\n") ∧
      ((p.config.deliver .json p.linter).error ≠ none →
        (check env files (a.withFormat .json)).out = "")) ∧
    ∀ t, plan env files a = .error t →
      check env files (a.withFormat .text) = t ∧ check env files (a.withFormat .json) = t := by
  cases hplan : plan env files a with
  | error t =>
    have htold : ∀ f, check env files (a.withFormat f) = t := by
      intro f
      unfold check
      rw [plan_withFormat, hplan]
      rfl
    rw [htold, htold]
    refine ⟨rfl, rfl, fun p hp => (by cases hp), fun t' ht => ?_⟩
    obtain rfl := Except.error.inj ht
    exact ⟨rfl, rfl⟩
  | ok p =>
    have hconclude : ∀ f,
        check env files (a.withFormat f) = conclude (p.config.deliver f p.linter) := by
      intro f
      unfold check
      rw [plan_withFormat, hplan]
      rfl
    rw [hconclude, hconclude]
    obtain ⟨hevents, herror, hcounts, -⟩ := p.config.deliver_formats p.linter
    obtain ⟨hending, herr⟩ := conclude_congr hevents herror hcounts
    refine ⟨hending, herr, fun p' hp => ?_, fun t ht => (by cases ht)⟩
    obtain rfl := Except.ok.inj hp
    exact exists_diagnostics p.config p.linter

/-- One file with a field that is defined twice, and nothing else. -/
def repeating : Files :=
  .single "a.md" "---\na: b\na: c\n---\n".toUTF8.toList

theorem check_formats_repeating :
    (check {} repeating (strict.withFormat .text)).ending
        = (check {} repeating (strict.withFormat .json)).ending ∧
      (check {} repeating (strict.withFormat .text)).out ≠ "" ∧
      ∃ diagnostics : List Value,
        (check {} repeating (strict.withFormat .text)).out = concatenated diagnostics ∧
        (check {} repeating (strict.withFormat .json)).out
          = Data.Json.write (some 2) (.seq diagnostics) ++ "\n" := by
  have hshown : (check {} repeating (strict.withFormat .text)).out ≠ "" := by decide +kernel
  have hruns : (plan {} repeating strict).toOption.any
      (fun p => (p.config.deliver .json p.linter).error.isNone) = true := by decide +kernel
  obtain ⟨hending, -, hplanned, -⟩ := check_formats {} repeating strict
  refine ⟨hending, hshown, ?_⟩
  cases hplan : plan {} repeating strict with
  | error t =>
    rw [hplan] at hruns
    cases hruns
  | ok p =>
    rw [hplan] at hruns
    obtain ⟨diagnostics, htext, hlist, -⟩ := hplanned p hplan
    exact ⟨diagnostics, htext, hlist (Option.isNone_iff_eq_none.1 hruns)⟩

/-- A command line for this file and one that is missing. -/
def interrupted : Arguments :=
  { strict with sources := [Path.ofText "a.md", Path.ofText "b.md"] }

/-- What a run has kept when it breaks off is not written: a list of records stands for no text. -/
theorem check_withholds :
    (plan {} repeating interrupted).toOption.isSome ∧
      (check {} repeating (interrupted.withFormat .text)).out ≠ "" ∧
      ¬ ∃ diagnostics : List Value,
        (check {} repeating (interrupted.withFormat .text)).out = concatenated diagnostics ∧
        (check {} repeating (interrupted.withFormat .json)).out
          = Data.Json.write (some 2) (.seq diagnostics) ++ "\n" := by
  have hplan : (plan {} repeating interrupted).toOption.isSome := by decide +kernel
  have hshown : (check {} repeating (interrupted.withFormat .text)).out ≠ "" := by decide +kernel
  have hkept : (check {} repeating (interrupted.withFormat .json)).out = "" := by decide +kernel
  refine ⟨hplan, hshown, ?_⟩
  rintro ⟨diagnostics, -, hout⟩
  -- the text of a list is followed by a line feed
  have hlength := congrArg String.length (hkept.symm.trans hout)
  rw [String.length_append] at hlength
  have hlineFeed : "\n".length = 1 := by decide
  have hempty : "".length = 0 := by decide
  omega

end Command

end ProposalCheck.CommandLine
