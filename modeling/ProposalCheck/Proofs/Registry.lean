import ProposalCheck.Proofs.Stages

/-!
# The rules of a linter as a map

The rules of a linter are kept in the order in which they came. `Linter.changed_distinct` says that
no history of changes puts two of them under one slug, so that the rules are a map from slugs to
registrations (`Linter.rule?_eq_some`). What came first does not matter for a run: the rules run in
ascending order of their slugs (`Linter.orderedRules_ascending`), and the only ascending list of the
entries of the map is the one that is run (`Linter.orderedRules_eq`).
-/

namespace ProposalCheck

theorem Text.le_iff {a b : String} : Text.le a b = true ↔ a ≤ b := by
  rw [Text.le, Bool.not_eq_true', decide_eq_false_iff_not, String.not_lt]

/-- What is sorted by a text is in ascending order of this text. -/
theorem Text.pairwise_mergeSort {α : Type} (key : α → String) (xs : List α) :
    (xs.mergeSort fun a b => Text.le (key a) (key b)).Pairwise fun a b => key a ≤ key b := by
  have h : (xs.mergeSort fun a b => Text.le (key a) (key b)).Pairwise
      fun a b => Text.le (key a) (key b) = true := by
    refine List.pairwise_mergeSort (fun a b c hab hbc => ?_) (fun a b => ?_) xs
    · rw [Text.le_iff] at hab hbc ⊢
      exact String.le_trans hab hbc
    · rw [Bool.or_eq_true, Text.le_iff, Text.le_iff]
      exact String.le_total (key a) (key b)
  exact h.imp fun {a b} hab => Text.le_iff.1 hab

/-- Entries with different slugs are found by their slugs. -/
theorem find?_slug_eq_some {β : Type} {es : List (String × β)} (h : (es.map (·.1)).Nodup)
    {slug : String} {b : β} :
    (es.find? (·.1 == slug)).map (·.2) = some b ↔ (slug, b) ∈ es := by
  induction es with
  | nil => simp
  | cons e rest ih =>
    obtain ⟨hnew, hrest⟩ := List.nodup_cons.1 h
    by_cases he : e.1 = slug
    · subst he
      have hnot : ∀ b, (e.1, b) ∉ rest := fun b hb => hnew (List.mem_map.2 ⟨_, hb, rfl⟩)
      simp [hnot, Prod.ext_iff, eq_comm]
    · have hne : ¬ (slug, b) = e := fun h' => he (by rw [← h'])
      simpa [he, hne] using ih hrest

/-- No more than one entry has a slug. -/
theorem filter_slug_eq {β : Type} {es : List (String × β)} (h : (es.map (·.1)).Nodup)
    {slug : String} {b : β} (hmem : (slug, b) ∈ es) : es.filter (·.1 == slug) = [(slug, b)] := by
  induction es with
  | nil => cases hmem
  | cons e rest ih =>
    obtain ⟨hnew, hrest⟩ := List.nodup_cons.1 h
    rcases List.mem_cons.1 hmem with rfl | hmem
    · rw [List.filter_cons_of_pos (by simp), List.filter_eq_nil_iff.2]
      exact fun x hx heq => hnew (List.mem_map.2 ⟨x, hx, beq_iff_eq.1 heq⟩)
    · have hne : e.1 ≠ slug := fun heq => hnew (List.mem_map.2 ⟨_, hmem, heq.symm⟩)
      rw [List.filter_cons_of_neg (by simpa using hne), ih hrest hmem]

/-- A change of the rules of a linter. A rule that is denied is added with the level of errors, one
that is warned about with that of warnings, and one that is enabled without a level. -/
inductive RuleChange where
  | add (slug : String) (rule : Rule) (level : Option Level)
  | remove (slug : String)
  | removeAll

namespace Linter

variable {l : Linter}

/-- The linter after a change. A change that is refused leaves it as it was. -/
def change (l : Linter) : RuleChange → Linter
  | .add slug rule level => (l.register slug rule level).toOption.getD l
  | .remove slug => (l.allow slug).toOption.getD l
  | .removeAll => l.clear

/-- The linter after some changes. -/
def changed (l : Linter) (history : List RuleChange) : Linter :=
  history.foldl change l

/-- No two rules have one slug. -/
def Distinct (l : Linter) : Prop :=
  (l.rules.map (·.1)).Nodup

/-! ### Histories -/

theorem change_add (l : Linter) (slug : String) (rule : Rule) (level : Option Level) :
    l.change (.add slug rule level)
      = if (l.rule? slug).isSome then l
        else { l with rules := l.rules ++ [(slug, { rule, level })] } := by
  simp only [change, register]
  split <;> rfl

theorem change_remove (l : Linter) (slug : String) :
    l.change (.remove slug)
      = if (l.rule? slug).isSome then { l with rules := l.rules.filter fun e => e.1 != slug }
        else l := by
  simp only [change, allow]
  split <;> rfl

theorem rule?_isSome {slug : String} : (l.rule? slug).isSome ↔ slug ∈ l.rules.map (·.1) := by
  simp [rule?]

theorem change_distinct (h : l.Distinct) (c : RuleChange) : (l.change c).Distinct := by
  cases c with
  | add slug rule level =>
    rw [change_add]
    split
    · exact h
    · rename_i hfree
      rw [rule?_isSome] at hfree
      show ((l.rules ++ [(slug, { rule, level : Registration })]).map (·.1)).Nodup
      rw [List.map_append, List.nodup_append]
      refine ⟨h, by simp, fun a ha b hb => ?_⟩
      obtain rfl : b = slug := by simpa using hb
      exact fun hab => hfree (hab ▸ ha)
  | remove slug =>
    rw [change_remove]
    split
    · exact h.sublist (List.filter_sublist.map _)
    · exact h
  | removeAll => exact List.nodup_nil

theorem changed_distinct (h : l.Distinct) (history : List RuleChange) :
    (l.changed history).Distinct := by
  induction history generalizing l with
  | nil => exact h
  | cons c rest ih => exact ih (change_distinct h c)

theorem change_eq (l : Linter) (c : RuleChange) :
    l.change c = { l with rules := (l.change c).rules } := by
  cases c with
  | add slug rule level => rw [change_add]; split <;> rfl
  | remove slug => rw [change_remove]; split <;> rfl
  | removeAll => rfl

/-- Changes of the rules leave everything else alone. -/
theorem changed_eq (l : Linter) (history : List RuleChange) :
    l.changed history = { l with rules := (l.changed history).rules } := by
  induction history generalizing l with
  | nil => rfl
  | cons c rest ih =>
    show (l.change c).changed rest = { l with rules := ((l.change c).changed rest).rules }
    rw [ih, change_eq l c]

/-! ### The map and its ascending list -/

theorem rule?_eq_some (h : l.Distinct) {slug : String} {g : Registration} :
    l.rule? slug = some g ↔ (slug, g) ∈ l.rules :=
  find?_slug_eq_some h

/-- The entry under a slug is the one that the slug stands for. -/
theorem eq_of_rule?_eq_some (h : l.Distinct) {slug : String} {g : Registration}
    (hrule : l.rule? slug = some g) {e : String × Registration} (he : e ∈ l.rules)
    (hslug : e.1 = slug) : e = (slug, g) := by
  subst hslug
  have hsome := (rule?_eq_some h).2 he
  rw [hrule] at hsome
  rw [Option.some.inj hsome]

theorem orderedRules_perm (l : Linter) : l.orderedRules.Perm l.rules :=
  List.mergeSort_perm _ _

theorem orderedRules_pairwise_le (l : Linter) : l.orderedRules.Pairwise fun a b => a.1 ≤ b.1 :=
  Text.pairwise_mergeSort (·.1) l.rules

/-- The rules run in ascending order of their slugs. -/
theorem orderedRules_ascending (h : l.Distinct) :
    l.orderedRules.Pairwise fun a b => a.1 < b.1 := by
  have hdistinct : (l.orderedRules.map (·.1)).Nodup :=
    ((orderedRules_perm l).map _).nodup_iff.2 h
  refine (orderedRules_pairwise_le l).imp₂ (fun a b hab hne => ?_) (List.pairwise_map.1 hdistinct)
  exact String.not_le.1 fun hba => hne (String.le_antisymm hab hba)

theorem nodup_of_ascending {order : List (String × Registration)}
    (h : order.Pairwise fun a b => a.1 < b.1) : order.Nodup := by
  refine h.imp fun {a b} hab heq => ?_
  rw [heq] at hab
  exact String.lt_irrefl _ hab

/-- The rules run in the ascending list of the entries of their map. -/
theorem orderedRules_eq (h : l.Distinct) {order : List (String × Registration)}
    (hascending : order.Pairwise fun a b => a.1 < b.1)
    (hmap : ∀ slug g, l.rule? slug = some g ↔ (slug, g) ∈ order) : l.orderedRules = order := by
  have hmem : ∀ e, e ∈ l.orderedRules ↔ e ∈ order := fun e => by
    rw [mem_orderedRules, ← hmap, rule?_eq_some h]
  have hperm : l.orderedRules.Perm order := by
    refine (List.perm_ext_iff_of_nodup ?_ ?_).2 hmem
    · exact nodup_of_ascending (orderedRules_ascending h)
    · exact nodup_of_ascending hascending
  exact hperm.eq_of_pairwise
    (fun a b _ _ hab hba => absurd (String.lt_trans hab hba) (String.lt_irrefl _))
    (orderedRules_ascending h) hascending

end Linter

end ProposalCheck
