import Mathlib.Data.List.Basic
import ProposalCheck.Config.Basic

/-!
# What becomes of a configuration that takes over data

`Config.update_outcome` says what an update comes to without going through its steps. The first
complaint about the data ends it (`Config.dataStop?`); if there is none, then the severity of a slug
is the one that the lists in the data give it, and else the one it had before.

A slug may be on several lists, and more than once on each of them. `Severity.ofLists?` says which
of its severities counts.
-/

namespace ProposalCheck

open Data (Value)

/-- The severity of a slug on lists of slugs: to be off comes before warnings, and warnings come
before errors. -/
def Severity.ofLists? (lists : Severity → List String) (slug : String) : Option Severity :=
  if slug ∈ lists .allow then some .allow
  else if slug ∈ lists .warn then some .warn
  else if slug ∈ lists .deny then some .deny
  else none

theorem Severity.isSome_ofLists? {lists : Severity → List String} {slug : String} :
    (ofLists? lists slug).isSome ↔ ∃ s, slug ∈ lists s := by
  constructor
  · unfold ofLists?
    grind
  · rintro ⟨_ | _ | _, hs⟩ <;> grind [ofLists?]

/-- Which slugs are on the lists is all that counts. -/
theorem Severity.ofLists?_congr {lists lists' : Severity → List String}
    (h : ∀ s slug, slug ∈ lists s ↔ slug ∈ lists' s) : ofLists? lists = ofLists? lists' := by
  funext slug
  simp only [ofLists?, h]

/-- Entries of other slugs are found as if those of a slug were not there. -/
theorem find?_filter_slug {β : Type} (es : List (String × β)) (slug other : String) :
    (es.filter (·.1 != slug)).find? (·.1 == other)
      = if other = slug then none else es.find? (·.1 == other) := by
  split
  · rename_i h
    rw [List.find?_eq_none]
    intro e he
    have hne : e.1 ≠ slug := by simpa using (List.mem_filter.1 he).2
    simpa [h] using hne
  · rename_i h
    rw [List.find?_filter]
    refine congrArg (fun p => es.find? p) (funext fun e => ?_)
    by_cases he : e.1 = other
    · simp [he, h]
    · simp [he]

namespace Config

/-! ### Overrides as a map -/

/-- No slug has two severities. -/
def Distinct (c : Config) : Prop :=
  (c.overrides.map (·.1)).Nodup

theorem severity?_congr {c c' : Config} (h : c'.overrides = c.overrides) (slug : String) :
    c'.severity? slug = c.severity? slug := by
  unfold severity?
  rw [h]

theorem severity?_override (c : Config) (slug : String) (s : Severity) (other : String) :
    (c.override slug s).severity? other = if other = slug then some s else c.severity? other := by
  unfold severity? override
  rw [List.find?_append, find?_filter_slug]
  by_cases h : other = slug
  · simp [h]
  · have hne : ¬ slug = other := fun h' => h h'.symm
    simp [h, hne]

theorem Distinct.override {c : Config} (h : c.Distinct) (slug : String) (s : Severity) :
    (c.override slug s).Distinct := by
  unfold Distinct Config.override
  rw [List.map_append, List.nodup_append]
  refine ⟨h.sublist (List.filter_sublist.map _), by simp, fun a ha b hb => ?_⟩
  obtain ⟨e, he, rfl⟩ := List.mem_map.1 ha
  obtain rfl : b = slug := by simpa using hb
  simpa using (List.mem_filter.1 he).2

theorem severity?_overrideAll (c : Config) (s : Severity) (slugs : List String) (slug : String) :
    (c.overrideAll s slugs).severity? slug = if slug ∈ slugs then some s else c.severity? slug := by
  unfold overrideAll
  induction slugs generalizing c with
  | nil => simp
  | cons first rest ih =>
    rw [List.foldl_cons, ih, severity?_override]
    by_cases hrest : slug ∈ rest <;> by_cases hfirst : slug = first <;> simp [hrest, hfirst]

theorem Distinct.overrideAll {c : Config} (h : c.Distinct) (s : Severity) (slugs : List String) :
    (c.overrideAll s slugs).Distinct := by
  unfold Config.overrideAll
  induction slugs generalizing c with
  | nil => exact h
  | cons slug rest ih => exact ih (h.override slug s)

theorem overrideAll_standardRules (c : Config) (s : Severity) (slugs : List String) :
    (c.overrideAll s slugs).standardRules = c.standardRules := by
  unfold overrideAll
  induction slugs generalizing c with
  | nil => rfl
  | cons slug rest ih => exact ih (c.override slug s)

/-- Gives all slugs on some lists their severities. -/
def overrideLists (c : Config) (lists : Severity → List String) : Config :=
  Severity.all.foldl (fun c s => c.overrideAll s (lists s)) c

variable {lists : Severity → List String}

theorem severity?_overrideLists (c : Config) (lists : Severity → List String) (slug : String) :
    (c.overrideLists lists).severity? slug
      = (Severity.ofLists? lists slug).or (c.severity? slug) := by
  simp only [overrideLists, Severity.all, List.foldl_cons, List.foldl_nil, severity?_overrideAll,
    Severity.ofLists?]
  split
  · rfl
  · split
    · rfl
    · split <;> rfl

theorem Distinct.overrideLists {c : Config} (h : c.Distinct) (lists : Severity → List String) :
    (c.overrideLists lists).Distinct :=
  ((h.overrideAll .deny _).overrideAll .warn _).overrideAll .allow _

theorem overrideLists_standardRules (c : Config) (lists : Severity → List String) :
    (c.overrideLists lists).standardRules = c.standardRules := by
  simp only [overrideLists, Severity.all, List.foldl_cons, List.foldl_nil,
    overrideAll_standardRules]

/-! ### Steps of an update -/

namespace Update

/-- The configuration after a step, and why the step stopped if so. -/
def outcome (x : Update Unit) (c : Config) : Config × Option ConfigStop :=
  match x.run.run c with
  | (.ok (), c) => (c, none)
  | (.error e, c) => (c, some e)

@[simp] theorem outcome_modify (f : Config → Config) (c : Config) :
    outcome (modify f) c = (f c, none) := rfl

@[simp] theorem outcome_throw (e : ConfigStop) (c : Config) :
    outcome (throw e) c = (c, some e) := rfl

theorem outcome_bind (x y : Update Unit) (c : Config) :
    outcome (do x; y) c = match (outcome x c).2 with
      | none => outcome y (outcome x c).1
      | some e => ((outcome x c).1, some e) := by
  show outcome (ExceptT.mk (ExceptT.run x >>= ExceptT.bindCont fun _ => y)) c = _
  unfold outcome
  simp only [ExceptT.run_mk, bind, StateT.bind, StateT.run]
  rcases ExceptT.run x c with ⟨_ | _, c'⟩ <;> rfl

/-- A step that goes on with a result, if there is one. -/
theorem outcome_lift {α : Type} (r : Except ConfigStop α) (f : α → Update Unit) (c : Config) :
    outcome (do let x ← r; f x) c = match r with
      | .ok x => outcome (f x) c
      | .error e => (c, some e) := by
  cases r <;> rfl

end Update

open Update

theorem update_eq (c : Config) (data : Value) : c.update data = outcome (takeOver data) c := by
  unfold update outcome
  rcases (takeOver data).run.run c with ⟨_ | _, c'⟩ <;> rfl

/-! ### Complaints -/

/-- What is wrong with a value that is taken for a text. -/
def textStop? (v : Value) : Option ConfigStop :=
  match v.plain with
  | .ok _ => none
  | .error e => some (.broken (.numeral e))

/-- What is wrong with a modifier. -/
def modifierStop? (v : Value) : Option ConfigStop :=
  match readModifier v with
  | .ok _ => none
  | .error e => some e

/-- What is wrong with the template of file names. -/
def formatStop? (data : Value) : Option ConfigStop :=
  (data.get? proposalFormatKey).bind textStop?

/-- What is wrong with the modifiers. -/
def modifiersStop? (data : Value) : Option ConfigStop :=
  (present? data modifiersKey).bind fun v =>
    match items v with
    | .ok xs => xs.findSome? modifierStop?
    | .error f => some (.broken f)

/-- What is wrong with the list of a severity. -/
def severityStop? (data : Value) (s : Severity) : Option ConfigStop :=
  (present? data s.name).bind fun v =>
    match v.opened with
    | .seq xs => xs.findSome? textStop?
    | _ => some (.refused (.notList s.name))

/-- The first complaint about data. -/
def dataStop? (data : Value) : Option ConfigStop :=
  match data with
  | .record es =>
    match (es.map (·.1)).filter fun k => !isKnownKey k with
    | first :: rest => some (unknownKeys first rest)
    | [] => (formatStop? data).or
        ((modifiersStop? data).or (Severity.all.findSome? (severityStop? data)))
  | _ => some (.refused .notMapping)

/-- The slugs on the list of a severity. -/
def slugsIn (data : Value) (s : Severity) : List String :=
  match (present? data s.name).map Value.opened with
  | some (.seq xs) => xs.filterMap fun v => v.plain.toOption
  | _ => []

/-! ### The outcome of each step -/

theorem outcome_updateProposalFormat (data : Value) (c : Config) :
    (outcome (updateProposalFormat data) c).2 = formatStop? data ∧
      (outcome (updateProposalFormat data) c).1.overrides = c.overrides ∧
      (outcome (updateProposalFormat data) c).1.standardRules = c.standardRules := by
  unfold updateProposalFormat formatStop?
  cases data.get? proposalFormatKey with
  | none => exact ⟨rfl, rfl, rfl⟩
  | some v =>
    simp only [outcome_lift, Option.bind_some, textStop?]
    cases v.plain <;> exact ⟨rfl, rfl, rfl⟩

theorem outcome_addModifiers (vs : List Value) (c : Config) :
    (outcome (addModifiers vs) c).2 = vs.findSome? modifierStop? ∧
      (outcome (addModifiers vs) c).1.overrides = c.overrides ∧
      (outcome (addModifiers vs) c).1.standardRules = c.standardRules := by
  induction vs generalizing c with
  | nil => exact ⟨rfl, rfl, rfl⟩
  | cons v rest ih =>
    rw [addModifiers, outcome_lift, List.findSome?_cons, modifierStop?]
    cases readModifier v with
    | error e => exact ⟨rfl, rfl, rfl⟩
    | ok m =>
      simp only [outcome_bind, outcome_modify]
      exact ih { c with modifiers := c.modifiers ++ [m] }

theorem outcome_updateModifiers (data : Value) (c : Config) :
    (outcome (updateModifiers data) c).2 = modifiersStop? data ∧
      (outcome (updateModifiers data) c).1.overrides = c.overrides ∧
      (outcome (updateModifiers data) c).1.standardRules = c.standardRules := by
  unfold updateModifiers modifiersStop?
  cases present? data modifiersKey with
  | none => exact ⟨rfl, rfl, rfl⟩
  | some v =>
    simp only [Option.bind_some]
    cases items v with
    | error f => exact ⟨rfl, rfl, rfl⟩
    | ok xs => exact outcome_addModifiers xs c

theorem outcome_addOverrides (s : Severity) (vs : List Value) (c : Config) :
    (outcome (addOverrides s vs) c).2 = vs.findSome? textStop? ∧
      ((outcome (addOverrides s vs) c).2 = none → (outcome (addOverrides s vs) c).1
        = c.overrideAll s (vs.filterMap fun v => v.plain.toOption)) := by
  induction vs generalizing c with
  | nil => exact ⟨rfl, fun _ => rfl⟩
  | cons v rest ih =>
    rw [addOverrides, outcome_lift, List.findSome?_cons, textStop?]
    cases hv : v.plain with
    | error e => exact ⟨rfl, by simp [Except.mapError]⟩
    | ok slug =>
      simp only [outcome_bind, outcome_modify, Except.mapError]
      rw [List.filterMap_cons_some (b := slug) (by rw [hv]; rfl)]
      exact ih (c.override slug s)

theorem outcome_updateSeverity (data : Value) (s : Severity) (c : Config) :
    (outcome (updateSeverity data s) c).2 = severityStop? data s ∧
      ((outcome (updateSeverity data s) c).2 = none →
        (outcome (updateSeverity data s) c).1 = c.overrideAll s (slugsIn data s)) := by
  unfold updateSeverity severityStop? slugsIn
  cases present? data s.name with
  | none => exact ⟨rfl, fun _ => rfl⟩
  | some v =>
    simp only [Option.map_some, Option.bind_some]
    cases v.opened with
    | seq xs => exact outcome_addOverrides s xs c
    | _ => exact ⟨rfl, by simp⟩

theorem outcome_updateSeverities (data : Value) (ss : List Severity) (c : Config) :
    (outcome (updateSeverities data ss) c).2 = ss.findSome? (severityStop? data) ∧
      ((outcome (updateSeverities data ss) c).2 = none →
        (outcome (updateSeverities data ss) c).1
          = ss.foldl (fun c s => c.overrideAll s (slugsIn data s)) c) := by
  induction ss generalizing c with
  | nil => exact ⟨rfl, fun _ => rfl⟩
  | cons s rest ih =>
    obtain ⟨hstop, hdone⟩ := outcome_updateSeverity data s c
    rw [updateSeverities, outcome_bind, List.findSome?_cons, hstop]
    cases h : severityStop? data s with
    | some e => exact ⟨rfl, by simp⟩
    | none =>
      rw [hdone (hstop.trans h)]
      exact ih _

/-- An update stops at the first complaint about the data. If there is none, the lists in the data
come before the severities that slugs had. -/
theorem update_outcome (c : Config) (data : Value) :
    (c.update data).2 = dataStop? data.opened ∧
      ((c.update data).2 = none →
        (∀ slug, (c.update data).1.severity? slug
          = (Severity.ofLists? (slugsIn data.opened) slug).or (c.severity? slug)) ∧
        (c.Distinct → (c.update data).1.Distinct) ∧
        (c.update data).1.standardRules = c.standardRules) := by
  rw [update_eq]
  unfold takeOver dataStop?
  cases data.opened with
  | record es =>
    simp only
    cases (es.map (·.1)).filter fun k => !isKnownKey k with
    | cons first rest => exact ⟨rfl, by simp⟩
    | nil =>
      simp only
      obtain ⟨hformat, hoverrides, hrules⟩ := outcome_updateProposalFormat (.record es) c
      rw [outcome_bind, hformat]
      cases formatStop? (.record es) with
      | some e => exact ⟨rfl, by simp⟩
      | none =>
        simp only [Option.none_or]
        generalize (outcome (updateProposalFormat (.record es)) c).1 = c₁ at *
        obtain ⟨hmodifiers, hoverrides', hrules'⟩ := outcome_updateModifiers (.record es) c₁
        rw [outcome_bind, hmodifiers]
        cases modifiersStop? (.record es) with
        | some e => exact ⟨rfl, by simp⟩
        | none =>
          simp only [Option.none_or]
          generalize (outcome (updateModifiers (.record es)) c₁).1 = c₂ at *
          obtain ⟨hstop, hdone⟩ := outcome_updateSeverities (.record es) Severity.all c₂
          refine ⟨hstop, fun hnone => ?_⟩
          have hlists : (outcome (updateSeverities (.record es) Severity.all) c₂).1
              = c₂.overrideLists (slugsIn (.record es)) := hdone hnone
          have hkept : c₂.overrides = c.overrides := hoverrides'.trans hoverrides
          rw [hlists, overrideLists_standardRules]
          refine ⟨fun slug => ?_, fun hc => ?_, hrules'.trans hrules⟩
          · rw [severity?_overrideLists, severity?_congr hkept]
          · refine Distinct.overrideLists ?_ _
            unfold Distinct
            rw [hkept]
            exact hc
  | _ => exact ⟨rfl, by simp⟩

end Config

end ProposalCheck
