import ProposalCheck.CommandLine.Command
import ProposalCheck.Proofs.Lookups
import ProposalCheck.Proofs.Registry
import ProposalCheck.Proofs.Updates

/-!
# The rules under a configuration

The linter of a configuration is built by changes: the shipped rules are put in, and then each rule
with a severity is taken out and, unless it is off, put in again. `Config.apply_spec` says what one
of these changes does and that it is never refused; `Config.applyAll_spec` says it of all of them.
So the rules of the linter are known from the severities alone (`Config.exists_linter`), and with
`Config.update_outcome` from the lists of the configuration file and the command line
(`Config.linter_of_lists`).
-/

namespace ProposalCheck

open Data (Value)

namespace Linter

variable {l : Linter}

/-! ### The rules after one change -/

theorem changed_append (l : Linter) (one two : List RuleChange) :
    l.changed (one ++ two) = (l.changed one).changed two :=
  List.foldl_append

theorem rule?_append (l : Linter) (slug : String) (g : Registration) (other : String) :
    rule? { l with rules := l.rules ++ [(slug, g)] } other
      = (l.rule? other).or (if other = slug then some g else none) := by
  unfold rule?
  rw [List.find?_append]
  by_cases h : other = slug
  · subst h
    cases l.rules.find? (·.1 == other) <;> simp
  · have hne : ¬ slug = other := fun h' => h h'.symm
    cases l.rules.find? (·.1 == other) <;> simp [h, hne]

theorem rule?_filter (l : Linter) (slug other : String) :
    rule? { l with rules := l.rules.filter (·.1 != slug) } other
      = if other = slug then none else l.rule? other := by
  unfold rule?
  rw [find?_filter_slug]
  split <;> rfl

/-- Taking a rule out, if there is one. -/
theorem exists_removed (h : l.Distinct) (slug : String) :
    ∃ l', (if (l.rule? slug).isSome then l.allow slug else pure l) = .ok l' ∧ l'.Distinct ∧
      ∀ other, l'.rule? other = if other = slug then none else l.rule? other := by
  have hchange := change_remove l slug
  have hdistinct := change_distinct h (.remove slug)
  by_cases hslug : (l.rule? slug).isSome
  · rw [if_pos hslug] at hchange
    rw [hchange] at hdistinct
    refine ⟨_, ?_, hdistinct, rule?_filter l slug⟩
    rw [if_pos hslug, allow, if_pos hslug]
  · refine ⟨l, if_neg hslug, h, fun other => ?_⟩
    split
    · rename_i hother
      rw [hother]
      simpa using hslug
    · rfl

/-- Adding a rule under a slug that is free. -/
theorem exists_registered (h : l.Distinct) {slug : String} (hfree : l.rule? slug = none)
    (rule : Rule) (level : Option Level) :
    ∃ l', l.register slug rule level = .ok l' ∧ l'.Distinct ∧
      ∀ other, l'.rule? other
        = if other = slug then some { rule, level } else l.rule? other := by
  have hnot : ¬ (l.rule? slug).isSome := by simp [hfree]
  have hchange := change_add l slug rule level
  have hdistinct := change_distinct h (.add slug rule level)
  rw [if_neg hnot] at hchange
  rw [hchange] at hdistinct
  refine ⟨_, ?_, hdistinct, fun other => ?_⟩
  · rw [register, if_neg hnot]
  · rw [rule?_append]
    split
    · rename_i hother
      rw [hother, hfree, Option.none_or]
    · rw [Option.or_none]

end Linter

namespace Config

/-! ### Severities of shipped rules -/

/-- The registration of a shipped rule that has a severity; there is none if the rule is off. -/
def registered? (slug : String) (s : Severity) : Option Registration :=
  s.level?.bind fun level => (shipped? slug).map fun rule => { rule, level := some level }

variable {l : Linter}

theorem apply_eq (l : Linter) (slug : String) (s : Severity) :
    apply l slug s = (if (l.rule? slug).isSome then l.allow slug else pure l) >>= fun l =>
      match s.level?, shipped? slug with
      | some level, some rule => l.register slug rule (some level)
      | _, _ => .ok l := by
  unfold apply
  cases (l.rule? slug).isSome <;> rfl

/-- A severity changes what is under its slug and nothing else. -/
theorem apply_spec (h : l.Distinct) (slug : String) (s : Severity) :
    ∃ l', apply l slug s = .ok l' ∧ l'.Distinct ∧
      ∀ other, l'.rule? other = if other = slug then registered? slug s else l.rule? other := by
  obtain ⟨l₁, hremoved, hdistinct, hrules⟩ := Linter.exists_removed h slug
  have happly : apply l slug s = match s.level?, shipped? slug with
      | some level, some rule => l₁.register slug rule (some level)
      | _, _ => .ok l₁ := by
    rw [apply_eq, hremoved]
    rfl
  rw [happly, registered?]
  have hfree : l₁.rule? slug = none := by simp [hrules]
  cases s.level? with
  | none => exact ⟨l₁, rfl, hdistinct, hrules⟩
  | some level =>
    cases shipped? slug with
    | none => exact ⟨l₁, rfl, hdistinct, hrules⟩
    | some rule =>
      obtain ⟨l₂, hregistered, hdistinct₂, hrules₂⟩ :=
        Linter.exists_registered hdistinct hfree rule (some level)
      refine ⟨l₂, hregistered, hdistinct₂, fun other => ?_⟩
      rw [hrules₂, hrules]
      split <;> rfl

/-- Severities for different slugs can be applied in any order. -/
theorem applyAll_spec (h : l.Distinct) {entries : List (String × Severity)}
    (hentries : (entries.map (·.1)).Nodup) :
    ∃ l', applyAll l entries = .ok l' ∧ l'.Distinct ∧
      (∀ slug s, (slug, s) ∈ entries → l'.rule? slug = registered? slug s) ∧
      ∀ slug, slug ∉ entries.map (·.1) → l'.rule? slug = l.rule? slug := by
  induction entries generalizing l with
  | nil => exact ⟨l, rfl, h, by simp, fun _ _ => rfl⟩
  | cons e rest ih =>
    obtain ⟨slug, s⟩ := e
    obtain ⟨hnew, hrest⟩ := List.nodup_cons.1 hentries
    obtain ⟨l₁, happly, hdistinct, hrules⟩ := apply_spec h slug s
    obtain ⟨l₂, hall, hdistinct₂, hlisted, hothers⟩ := ih hdistinct hrest
    refine ⟨l₂, ?_, hdistinct₂, ?_, ?_⟩
    · rw [applyAll, happly]
      exact hall
    · intro other t hmem
      rcases List.mem_cons.1 hmem with heq | hmem
      · obtain ⟨rfl, rfl⟩ := Prod.mk.inj heq
        rw [hothers _ hnew, hrules, if_pos rfl]
      · exact hlisted other t hmem
    · intro other hother
      rw [List.map_cons, List.mem_cons, not_or] at hother
      rw [hothers _ hother.2, hrules, if_neg hother.1]

/-- What severities do to a linter is a history of changes of its rules. -/
theorem exists_history_of_apply {l' : Linter} {slug : String} {s : Severity}
    (h : apply l slug s = .ok l') : ∃ history, l' = l.changed history := by
  rw [apply_eq] at h
  obtain ⟨l₁, hremoved, h⟩ := bind_eq_ok.1 h
  have hhistory : ∃ history, l₁ = l.changed history := by
    split at hremoved
    · refine ⟨[.remove slug], ?_⟩
      change l₁ = l.change (.remove slug)
      rw [Linter.change, hremoved]
      rfl
    · exact ⟨[], (Except.ok.inj hremoved).symm⟩
  obtain ⟨history, rfl⟩ := hhistory
  split at h
  · rename_i level rule _ _
    refine ⟨history ++ [.add slug rule (some level)], ?_⟩
    rw [Linter.changed_append]
    change l' = (l.changed history).change (.add slug rule (some level))
    rw [Linter.change, h]
    rfl
  · exact ⟨history, (Except.ok.inj h).symm⟩

theorem exists_history_of_applyAll {l' : Linter} {entries : List (String × Severity)}
    (h : applyAll l entries = .ok l') : ∃ history, l' = l.changed history := by
  induction entries generalizing l with
  | nil => exact ⟨[], (Except.ok.inj h).symm⟩
  | cons e rest ih =>
    obtain ⟨l₁, hone, hrest⟩ := bind_eq_ok.1 h
    obtain ⟨first, rfl⟩ := exists_history_of_apply hone
    obtain ⟨others, rfl⟩ := ih hrest
    exact ⟨first ++ others, (Linter.changed_append l first others).symm⟩

/-! ### Shipped rules -/

theorem nodup_standardSlugs : (Shipped.standard.map (·.1)).Nodup := by
  decide

theorem shipped?_eq_some {slug : String} {rule : Rule} :
    shipped? slug = some rule ↔ ∃ r, (slug, r) ∈ Shipped.standard ∧ r.toRule = rule := by
  have hcomp : shipped? slug
      = ((Shipped.standard.find? (·.1 == slug)).map (·.2)).map Shipped.toRule := by
    rw [shipped?, Option.map_map]
    rfl
  rw [hcomp, Option.map_eq_some_iff]
  exact exists_congr fun r => and_congr_left' (find?_slug_eq_some nodup_standardSlugs)

/-- Without severities, the shipped rules are on without a level. -/
theorem rule?_standardRules (l : Linter) (h : l.rules = Linter.standardRules) (slug : String) :
    l.rule? slug = (shipped? slug).map fun rule => { rule, level := none } := by
  rw [Linter.rule?, h, Linter.standardRules, List.find?_map, shipped?, Option.map_map,
    Option.map_map]
  rfl

theorem standardRules_distinct {l : Linter} (h : l.rules = Linter.standardRules) : l.Distinct := by
  rw [Linter.Distinct, h, Linter.standardRules, List.map_map]
  exact nodup_standardSlugs

/-! ### The linter of a configuration -/

variable {c : Config}

theorem severity?_eq_some (h : c.Distinct) {slug : String} {s : Severity} :
    c.severity? slug = some s ↔ (slug, s) ∈ c.orderedOverrides := by
  rw [orderedOverrides, (List.mergeSort_perm _ _).mem_iff]
  exact find?_slug_eq_some h

theorem severity?_eq_none (h : c.Distinct) {slug : String} :
    c.severity? slug = none ↔ slug ∉ c.orderedOverrides.map (·.1) := by
  rw [Option.eq_none_iff_forall_ne_some, List.mem_map]
  refine ⟨fun hnone ⟨e, he, heq⟩ => hnone e.2 ?_, fun hnone s hs => hnone ?_⟩
  · rw [severity?_eq_some h, ← heq]
    exact he
  · exact ⟨_, (severity?_eq_some h).1 hs, rfl⟩

/-- What is under a slug that may have a severity. -/
def registrationUnder? (standardRules : Bool) (slug : String) :
    Option Severity → Option Registration
  | some s => registered? slug s
  | none => if standardRules then (shipped? slug).map fun rule => { rule, level := none } else none

/-- A slug with a severity is on at the level of the severity. One without is on if the shipped
rules are, and has no level then. -/
theorem registrationUnder?_eq_some {standardRules : Bool} {slug : String} {s : Option Severity}
    {g : Registration} :
    registrationUnder? standardRules slug s = some g ↔
      ∃ rule, (slug, rule) ∈ Shipped.standard ∧ rule.toRule = g.rule ∧
        match s with
        | some .deny => g.level = some .error
        | some .warn => g.level = some .warning
        | some .allow => False
        | none => standardRules ∧ g.level = none := by
  have hat : ∀ level, (shipped? slug).map (fun rule => ({ rule, level } : Registration)) = some g ↔
      ∃ rule, (slug, rule) ∈ Shipped.standard ∧ rule.toRule = g.rule ∧ g.level = level := by
    intro level
    rw [Option.map_eq_some_iff]
    constructor
    · rintro ⟨_, hshipped, rfl⟩
      obtain ⟨rule, hmem, rfl⟩ := shipped?_eq_some.1 hshipped
      exact ⟨rule, hmem, rfl, rfl⟩
    · rintro ⟨rule, hmem, hrule, rfl⟩
      exact ⟨g.rule, shipped?_eq_some.2 ⟨rule, hmem, hrule⟩, rfl⟩
  match s with
  | some .deny => exact hat (some .error)
  | some .warn => exact hat (some .warning)
  | some .allow => simp [registrationUnder?, registered?, Severity.level?]
  | none =>
    cases standardRules with
    | true => simpa [registrationUnder?] using hat none
    | false => simp [registrationUnder?]

/-- A linter is refused if a slug without a shipped rule has a severity. -/
theorem linter_refused (h : c.Distinct) (reader : Reader)
    (hunknown : ∃ slug, (c.severity? slug).isSome ∧ slug ∉ Shipped.standardSlugs) :
    ∃ slugs, c.linter reader = .error (.refused (.unknownRules slugs)) := by
  obtain ⟨slug, hsome, hnot⟩ := hunknown
  obtain ⟨s, hs⟩ := Option.isSome_iff_exists.1 hsome
  have hmem : slug ∈ c.unknownRules := by
    refine List.mem_filter.2 ⟨List.mem_map.2 ⟨_, (severity?_eq_some h).1 hs, rfl⟩, ?_⟩
    simpa using hnot
  unfold linter
  cases hrules : c.unknownRules with
  | nil => simp [hrules] at hmem
  | cons first rest => exact ⟨first :: rest, rfl⟩

/-- If every slug with a severity has a shipped rule, then there is a linter. -/
theorem exists_linter (h : c.Distinct) (reader : Reader)
    (hknown : ∀ slug, (c.severity? slug).isSome → slug ∈ Shipped.standardSlugs) :
    ∃ l, c.linter reader = .ok l ∧ l.Distinct ∧
      ∀ slug, l.rule? slug = registrationUnder? c.standardRules slug (c.severity? slug) := by
  have hrules : c.unknownRules = [] := by
    refine List.filter_eq_nil_iff.2 fun slug hslug => ?_
    have hsome : (c.severity? slug).isSome := by
      rw [Option.isSome_iff_ne_none, Ne, severity?_eq_none h]
      exact not_not_intro hslug
    simpa using hknown slug hsome
  have hnodup : (c.orderedOverrides.map (·.1)).Nodup :=
    ((List.mergeSort_perm _ _).map _).nodup_iff.2 h
  unfold linter
  rw [hrules]
  simp only
  generalize hstart : ({
    rules := if c.standardRules then Linter.standardRules else []
    modifiers := (DefaultLevel.standard ++ c.modifiers).map .defaultLevel
    reader, proposalFormat := c.proposalFormat } : Linter) = start
  have hstarted : start.Distinct ∧
      ∀ slug, start.rule? slug = registrationUnder? c.standardRules slug none := by
    subst hstart
    cases c.standardRules with
    | true => exact ⟨standardRules_distinct rfl, rule?_standardRules _ rfl⟩
    | false => exact ⟨List.nodup_nil, fun _ => rfl⟩
  obtain ⟨l, hall, hdistinct, hlisted, hothers⟩ := applyAll_spec hstarted.1 hnodup
  refine ⟨l, by rw [hall]; rfl, hdistinct, fun slug => ?_⟩
  cases hs : c.severity? slug with
  | some s => exact hlisted slug s ((severity?_eq_some h).1 hs)
  | none => rw [hothers slug ((severity?_eq_none h).1 hs), hstarted.2]

/-- A linter that a configuration describes has no sources. -/
theorem sources_of_linter {reader : Reader} (h : c.linter reader = .ok l) : l.sources = [] := by
  unfold linter at h
  split at h
  · obtain ⟨history, rfl⟩ := exists_history_of_applyAll (mapError_eq_ok.1 h)
    rw [Linter.changed_eq]
  · cases h

end Config

namespace CommandLine.Arguments

theorem configure_eq {a : Arguments} {lists : Severity → List String}
    (h : ∀ s, a.slugs? s = some (lists s)) (c : Config) :
    a.configure c = .ok ((if a.noStandardRules then { c with standardRules := false }
      else c).overrideLists lists) := by
  simp only [configure, Severity.all, List.foldlM_cons, List.foldlM_nil, h]
  rfl

end CommandLine.Arguments

namespace Config

/-- The severities that the command line gives come over those that the file gives. -/
theorem severity?_of_lists {a : CommandLine.Arguments} {c : Config} {data : Value}
    (hread : ({} : Config).update data = (c, none)) {lists : Severity → List String}
    (hlists : ∀ s, a.slugs? s = some (lists s)) :
    ∃ c', a.configure c = .ok c' ∧ c'.Distinct ∧ c'.standardRules = !a.noStandardRules ∧
      ∀ slug, c'.severity? slug = (Severity.ofLists? lists slug).or
        (Severity.ofLists? (slugsIn data.opened) slug) := by
  obtain ⟨-, hupdate⟩ := update_outcome {} data
  rw [hread] at hupdate
  obtain ⟨hseverity, hdistinct, hrules⟩ := hupdate rfl
  have hc : c.Distinct := hdistinct List.nodup_nil
  refine ⟨_, CommandLine.Arguments.configure_eq hlists c, ?_, ?_, fun slug => ?_⟩
  · refine Distinct.overrideLists ?_ _
    split <;> exact hc
  · rw [overrideLists_standardRules]
    cases a.noStandardRules with
    | true => rfl
    | false => exact hrules
  · rw [severity?_overrideLists]
    have hsame : (if a.noStandardRules then { c with standardRules := false } else c).severity? slug
        = c.severity? slug := severity?_congr (by split <;> rfl) slug
    rw [hsame, hseverity]
    show _ = (Severity.ofLists? lists slug).or _
    congr 1
    exact Option.or_none

/-- The rules of a command line. A slug has the severity that the command line gives it, and else
the one that the configuration file gives it; `told` and `given` are any lists with the same slugs
as those, so that neither their order nor what is on them twice counts. If a slug with a severity
has no shipped rule, then the configuration is refused. Else there is a linter, and exactly these
rules are on: those to deny at the level of errors, those to warn about at that of warnings, and all
other shipped ones without a severity at no level of their own, unless the shipped rules are off. -/
theorem linter_of_lists {a : CommandLine.Arguments} {data : Value} {c : Config} (reader : Reader)
    {told given : Severity → List String} (hread : ({} : Config).update data = (c, none))
    (htold : ∀ s, ∃ slugs, a.slugs? s = some slugs ∧ ∀ slug, slug ∈ told s ↔ slug ∈ slugs)
    (hgiven : ∀ s slug, slug ∈ given s ↔ slug ∈ slugsIn data.opened s) :
    let severity? := fun slug => (Severity.ofLists? told slug).or (Severity.ofLists? given slug)
    ∃ c', a.configure c = .ok c' ∧
      ((∃ slug, (severity? slug).isSome ∧ slug ∉ Shipped.standardSlugs) →
        ∃ slugs, c'.linter reader = .error (.refused (.unknownRules slugs))) ∧
      ((∀ slug, (severity? slug).isSome → slug ∈ Shipped.standardSlugs) →
        ∃ l, c'.linter reader = .ok l ∧ l.Distinct ∧
          ∀ slug g, (slug, g) ∈ l.rules ↔
            ∃ rule, (slug, rule) ∈ Shipped.standard ∧ rule.toRule = g.rule ∧
              match severity? slug with
              | some .deny => g.level = some .error
              | some .warn => g.level = some .warning
              | some .allow => False
              | none => !a.noStandardRules ∧ g.level = none) := by
  choose lists hlists hsame using htold
  obtain ⟨c', hconfigure, hdistinct, hrules, hseverity⟩ := severity?_of_lists hread hlists
  intro severity?
  have heffective : c'.severity? = severity? := funext fun slug => by
    rw [hseverity, ← Severity.ofLists?_congr hsame, ← Severity.ofLists?_congr hgiven]
  refine ⟨c', hconfigure, fun hunknown => ?_, fun hknown => ?_⟩
  · exact linter_refused hdistinct reader (by rwa [heffective])
  · obtain ⟨l, hlinter, hl, hregistered⟩ := exists_linter hdistinct reader (by rwa [heffective])
    refine ⟨l, hlinter, hl, fun slug g => ?_⟩
    rw [← Linter.rule?_eq_some hl, hregistered, registrationUnder?_eq_some, heffective, hrules]

/-- Lists that overlap, in a configuration file. -/
def overlapping : Value :=
  .record [(.text "deny", .seq [.text "preamble-trim", .text "preamble-req"]),
    (.text "warn", .seq [.text "preamble-trim"])]

/-- A command line with a rule on two lists, and one list with a rule twice. -/
def insisting : CommandLine.Arguments :=
  { severities := [(.allow, some "preamble-req"), (.warn, some "preamble-no-dup"),
      (.deny, some "preamble-no-dup"), (.warn, some "preamble-no-dup")] }

/-- The slugs on the lists of `overlapping`. -/
def overlappingSlugs : Severity → List String
  | .deny => ["preamble-trim", "preamble-req"]
  | .warn => ["preamble-trim"]
  | .allow => []

/-- The slugs on the lists of `insisting`, each of them once. -/
def insistingSlugs : Severity → List String
  | .allow => ["preamble-req"]
  | _ => ["preamble-no-dup"]

theorem insisting_linter :
    ∃ c c' l, ({} : Config).update overlapping = (c, none) ∧ insisting.configure c = .ok c' ∧
      c'.linter .refusing = .ok l ∧ ("preamble-trim", ⟨.spacing, some .warning⟩) ∈ l.rules ∧
      ("preamble-no-dup", ⟨.duplicates, some .warning⟩) ∈ l.rules ∧
      ∀ g, ("preamble-req", g) ∉ l.rules := by
  have hread : ({} : Config).update overlapping = ((({} : Config).update overlapping).1, none) :=
    rfl
  have htold (s) : ∃ slugs, insisting.slugs? s = some slugs ∧
      ∀ slug, slug ∈ insistingSlugs s ↔ slug ∈ slugs :=
    match s with
    | .deny => ⟨_, rfl, fun _ => Iff.rfl⟩
    | .warn => ⟨["preamble-no-dup", "preamble-no-dup"], rfl, by simp [insistingSlugs]⟩
    | .allow => ⟨_, rfl, fun _ => Iff.rfl⟩
  have hgiven (s slug) : slug ∈ overlappingSlugs s ↔ slug ∈ slugsIn overlapping.opened s := by
    cases s <;> exact Iff.rfl
  have hshipped (s slug) :
      slug ∈ insistingSlugs s ∨ slug ∈ overlappingSlugs s → slug ∈ Shipped.standardSlugs := by
    cases s <;>
      simp [insistingSlugs, overlappingSlugs, Shipped.standardSlugs, Shipped.standard] <;> grind
  obtain ⟨c', hconfigure, -, hbuilt⟩ := linter_of_lists .refusing hread htold hgiven
  obtain ⟨l, hlinter, -, hrules⟩ := hbuilt fun slug hsome => by
    rw [Option.isSome_or, Bool.or_eq_true, Severity.isSome_ofLists?, Severity.isSome_ofLists?,
      ← exists_or] at hsome
    obtain ⟨s, hs⟩ := hsome
    exact hshipped s slug hs
  refine ⟨_, c', l, hread, hconfigure, hlinter, ?_, ?_, fun g hg => ?_⟩
  · exact (hrules _ _).2 ⟨.spacing, by simp [Shipped.standard], rfl, rfl⟩
  · exact (hrules _ _).2 ⟨.duplicates, by simp [Shipped.standard], rfl, rfl⟩
  · obtain ⟨_, _, _, hallowed⟩ := (hrules _ _).1 hg
    exact hallowed

end Config

end ProposalCheck
