import ProposalCheck.Proofs.Registry
import ProposalCheck.Proofs.Sharing

/-!
# Rules do not see each other

`Linter.run_messages_eq_flatMap_alone`: whatever happened to the rules of a linter before a run over
one document, the run reports what each rule reports when it is the only one, in ascending order of
the slugs.

The rules of a run share the references that are followed, the cache, the settings and the reporter.
What a rule finds behind a coherent cache is a matter of its own references (`Linter.ownFindings`),
and neither those nor what they lead to depend on the rules of the linter. So the check of a
document that comes to its end under some rules does so under a part of them (`Linter.Clean.part`),
with the same settings, and each rule reports the same in both (`Linter.reported`).
-/

namespace ProposalCheck

namespace Linter

variable {l : Linter} {d : Document} {s : Settings} {source : Source}

/-! ### Changing the rules only -/

/-- The linter with other rules. -/
def withRules (l : Linter) (rules : List (String × Registration)) : Linter :=
  { l with rules }

/-- The linter with one rule only. -/
def holding (l : Linter) (e : String × Registration) : Linter :=
  l.withRules [e]

/-- A document that is clean under some rules is so under a part of them. -/
theorem Clean.part {rules part : List (String × Registration)} (hpart : ∀ e ∈ part, e ∈ rules)
    (h : (l.withRules rules).Clean d s) : (l.withRules part).Clean d s where
  asked e he := h.asked e (hpart e he)
  loads r hr := by
    obtain ⟨e, he, hre⟩ := mem_wanted.1 hr
    exact h.loads r (mem_wanted.2 ⟨e, hpart e he, hre⟩)
  settled := h.settled
  judged e he := by
    obtain ⟨hmem, hstop⟩ := List.mem_filter.1 he
    refine h.judged e (List.mem_filter.2 ⟨?_, hstop⟩)
    exact mem_orderedRules.2 (hpart e (mem_orderedRules.1 hmem))

theorem Plain.part {rules part : List (String × Registration)} (hpart : ∀ e ∈ part, e ∈ rules)
    (h : (l.withRules rules).Plain) : (l.withRules part).Plain where
  rules e he := h.rules e (hpart e he)
  modifiers := h.modifiers

/-! ### Runs over one document -/

/-- What a rule reports on a document when it gets its own references and nothing else. A rule that
stopped when it was asked for them reports nothing. -/
def reported (l : Linter) (d : Document) (s : Settings) (e : String × Registration) :
    List Message :=
  if (e.2.rule.discover d).stop.isNone then (l.ownFindings d s.freeze e).messages else []

theorem flatMap_active (l : Linter) (d : Document) (s : Settings) :
    ((l.active d).flatMap fun e => (l.ownFindings d s.freeze e).messages)
      = l.orderedRules.flatMap (l.reported d s) := by
  unfold active
  induction l.orderedRules with
  | nil => rfl
  | cons e rest ih =>
    rw [List.filter_cons, List.flatMap_cons, ← ih, reported]
    split <;> rfl

theorem clean_of_run (hl : l.Plain) (hsource : l.sources = [source])
    (hdocument : l.document? source = some d) (hrun : l.run.result = .ok ()) :
    ∃ s, l.Clean d s := by
  obtain ⟨-, -, hresult⟩ := run_result.1 hrun
  rw [hsource] at hresult
  obtain ⟨after, es, hvisited, -⟩ := checkSources_cons_result.1 hresult
  cases hvisited with
  | malformed htext hparse _ =>
    obtain ⟨text, htext', hparse'⟩ := document?_eq_some.1 hdocument
    obtain rfl : text = _ := Option.some.inj (htext'.symm.trans htext)
    rw [hparse] at hparse'
    cases hparse'
  | parsed hdocument' hchecked =>
    obtain rfl := Option.some.inj (hdocument.symm.trans hdocument')
    exact ⟨_, hchecked.clean hl coherent_empty⟩

/-- A run over one clean document comes to its end and reports what each rule reports. -/
theorem Clean.run (hl : l.Plain) (hrules : l.rules ≠ []) (hsource : l.sources = [source])
    (hdocument : l.document? source = some d) (h : l.Clean d s) :
    l.run.result = .ok () ∧ l.run.messages = l.orderedRules.flatMap (l.reported d s) := by
  obtain ⟨after, hchecked⟩ := h.checked hl coherent_empty
  have hvisited := Visited.parsed hdocument hchecked
  have hresult : (l.checkSources .empty l.sources).result = .ok () := by
    rw [hsource]
    exact checkSources_cons_result.2 ⟨after, _, hvisited, rfl⟩
  have hrun : l.run.result = .ok () :=
    run_result.2 ⟨hrules, by rw [hsource]; exact List.cons_ne_nil _ _, hresult⟩
  refine ⟨hrun, ?_⟩
  rw [Trace.messages, run_events hrun, hsource, checkSources_cons_events hvisited, ← flatMap_active,
    ← hchecked.messages hl coherent_empty, Trace.messages, hchecked.events]
  simp [checkSources, Event.message?, List.filterMap_cons]

/-- A run over one document reports what each rule alone reports on it, in ascending order of the
slugs, whatever happened to the rules before. Each rule alone comes to its end as well. -/
theorem run_messages_eq_flatMap_alone (base : Linter) (hbase : base.Distinct)
    (history : List RuleChange) (order : List (String × Registration))
    (hascending : order.Pairwise fun a b => a.1 < b.1)
    (hmap : ∀ slug g, (base.changed history).rule? slug = some g ↔ (slug, g) ∈ order)
    (hshipped : ∀ e ∈ order, ∃ s : Shipped, e.2.rule = s.toRule)
    (hmodifiers : ∀ m ∈ base.modifiers, ∃ x, m = .defaultLevel x)
    (source : Source) (hsource : base.sources = [source])
    (hdocument : (base.document? source).isSome)
    (hrun : (base.changed history).run.result = .ok ()) :
    (∀ e ∈ order, (base.holding e).run.result = .ok ()) ∧
      (base.changed history).run.messages
        = order.flatMap fun e => (base.holding e).run.messages := by
  obtain ⟨d, hd⟩ := Option.isSome_iff_exists.1 hdocument
  have horder := orderedRules_eq (changed_distinct hbase history) hascending hmap
  rw [changed_eq] at horder hrun ⊢
  generalize (base.changed history).rules = rules at horder hrun ⊢
  change (base.withRules rules).run.result = _ at hrun
  change (base.withRules rules).orderedRules = _ at horder
  have hmem : ∀ e, e ∈ order ↔ e ∈ rules := fun e => by
    rw [← horder]
    exact mem_orderedRules
  have hl : (base.withRules rules).Plain :=
    .of_shipped (fun e he => hshipped e ((hmem e).2 he)) hmodifiers
  obtain ⟨s, hclean⟩ := clean_of_run hl hsource hd hrun
  -- a single rule is a part of the rules
  have halone : ∀ e ∈ order, (base.holding e).run.result = .ok () ∧
      (base.holding e).run.messages = base.reported d s e := by
    intro e he
    have hpart : ∀ x ∈ [e], x ∈ rules := fun x hx => by
      obtain rfl := List.mem_singleton.1 hx
      exact (hmem x).1 he
    obtain ⟨hresult, hmessages⟩ :=
      (hclean.part hpart).run (hl.part hpart) (List.cons_ne_nil _ _) hsource hd
    refine ⟨hresult, hmessages.trans ?_⟩
    have hsingle : (base.withRules [e]).orderedRules = [e] := List.mergeSort_singleton _
    rw [hsingle, List.flatMap_singleton]
    rfl
  refine ⟨fun e he => (halone e he).1, ?_⟩
  obtain ⟨-, hmessages⟩ := hclean.run hl (run_result.1 hrun).1 hsource hd
  refine hmessages.trans ?_
  rw [horder]
  exact List.flatMap_congr fun e he => ((halone e he).2).symm

/-- The standard rules with one of the drafts. -/
def draft : Linter :=
  { drafts with
    rules := standardRules
    sources := [.text "---\ntitle: EIP-9\nstatus: Final\nrequires: 9, 10\n---\n" (some "EIPS/eip-1.md")] }

/-- A rule that has come, gone and come again, and one that was refused. -/
def revisions : List RuleChange := [
  .removeAll,
  .add "spacing" Shipped.spacing.toRule none,
  .add "requires" (Shipped.requiredStatus
    { requires := "requires", status := "status", flow := Shipped.statusFlow }).toRule none,
  .remove "spacing",
  .add "mentions" (Shipped.mention { field := "title" }).toRule (some .warning),
  .add "requires" Shipped.duplicates.toRule none,
  .add "spacing" Shipped.spacing.toRule (some .error)]

/-- What the rules of the draft come to. -/
def revisedRules : List (String × Registration) :=
  [("mentions", .mention { field := "title" }, some .warning),
    ("requires", .requiredStatus
      { requires := "requires", status := "status", flow := Shipped.statusFlow }, none),
    ("spacing", .spacing, some .error)].map fun (slug, (s : Shipped), level) =>
      (slug, { rule := s.toRule, level })

theorem draft_distinct : draft.Distinct := by
  unfold Distinct
  decide

theorem draft_rule? (slug : String) (g : Registration) :
    (draft.changed revisions).rule? slug = some g ↔ (slug, g) ∈ revisedRules := by
  have hrules : (draft.changed revisions).rules.Perm revisedRules := .swap _ _ _
  rw [rule?_eq_some (changed_distinct draft_distinct revisions), hrules.mem_iff]

theorem revisedRules_shipped : ∀ e ∈ revisedRules, ∃ s : Shipped, e.2.rule = s.toRule := by
  intro e he
  obtain ⟨⟨slug, s, level⟩, -, rfl⟩ := List.mem_map.1 he
  exact ⟨s, rfl⟩

theorem draft_run_result : (draft.changed revisions).run.result = .ok () := by
  have hshipped : ∀ e ∈ (draft.changed revisions).rules, ∃ s : Shipped, e.2.rule = s.toRule :=
    fun e he => revisedRules_shipped e
      ((draft_rule? _ _).1 ((rule?_eq_some (changed_distinct draft_distinct revisions)).2 he))
  have hl : (draft.changed revisions).Plain := .of_shipped hshipped (exists_defaultLevel _)
  exact only_run_result_of_completes hl (List.cons_ne_nil _ _) (by decide +kernel)

theorem draft_messages_eq_flatMap :
    (∀ e ∈ revisedRules, (draft.holding e).run.result = .ok ()) ∧
      (draft.changed revisions).run.messages
        = revisedRules.flatMap fun e => (draft.holding e).run.messages :=
  run_messages_eq_flatMap_alone draft draft_distinct revisions revisedRules (by decide) draft_rule?
    revisedRules_shipped (exists_defaultLevel _) _ rfl (by decide +kernel) draft_run_result

end Linter

end ProposalCheck
