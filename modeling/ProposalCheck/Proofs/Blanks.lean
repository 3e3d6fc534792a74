import ProposalCheck.Proofs.Annotations

/-!
# Values behind one space

`Rule.spacing_reports`: the rule about blanks has nothing to say about a preamble exactly if every
value is empty or a single space, or one space and then a text with no blank at its ends. Otherwise
there is one message for each value with further blanks, in the order of the fields, and behind them
one message for all values that do not begin with a space.

The two complaints are not exclusive. A value that begins with a blank other than the space gives
rise to both; a value of spaces only gives rise to the first, unless it is a single one
(`Rule.Spacing.wellSpaced_iff`).
-/

namespace ProposalCheck

namespace Text

/-! ### Blanks at the ends -/

/-- There is no blank at either end. -/
def Tight (cs : List Char) : Prop :=
  ∀ h : cs ≠ [], isBlank (cs.head h) = false ∧ isBlank (cs.getLast h) = false

variable {cs : List Char}

/-- Trimming leaves a text as it is exactly if there is no blank at its ends. -/
theorem trimChars_eq_self_iff : trimChars cs = cs ↔ Tight cs := by
  have hfront : cs.dropWhile isBlank = cs ↔ ∀ h : cs ≠ [], isBlank (cs.head h) = false := by
    rw [List.dropWhile_eq_self_iff]
    simp only [List.head_eq_getElem, Bool.not_eq_true, List.length_pos_iff]
  have hback : trimEndChars cs = cs ↔ ∀ h : cs ≠ [], isBlank (cs.getLast h) = false := by
    have h : List.rdropWhile isBlank cs = cs ↔ _ := List.rdropWhile_eq_self_iff
    simp only [Bool.not_eq_true] at h
    exact h
  constructor
  · intro h
    -- neither of the two steps leaves out anything
    have hdrop : cs.dropWhile isBlank = cs := by
      refine (List.dropWhile_suffix isBlank).eq_of_length_le ?_
      have hlength := (List.rdropWhile_prefix isBlank (cs.dropWhile isBlank)).length_le
      exact (congrArg List.length h).symm.le.trans hlength
    rw [trimChars, hdrop] at h
    exact fun hne => ⟨hfront.1 hdrop hne, hback.1 h hne⟩
  · intro h
    rw [trimChars, hfront.2 fun hne => (h hne).1, hback.2 fun hne => (h hne).2]

theorem trim_eq_self_iff {s : String} : trim s = s ↔ trimChars s.toList = s.toList := by
  rw [← toList_trim, String.toList_inj]

end Text

namespace Rule

namespace Spacing

/-! ### What is wrong with a value -/

/-- A value that is set off by one space and by nothing else. -/
inductive WellSpaced : String → Prop where
  | empty : WellSpaced ""
  | space : WellSpaced " "
  | text (t : String) (hne : t ≠ "") (htight : Text.Tight t.toList) : WellSpaced (" " ++ t)

/-- A value that trimming does not leave as it is, apart from one space at the start. -/
def Padded (value : String) : Prop :=
  (∃ t, value = " " ++ t ∧ Text.trim t ≠ t) ∨ (∀ t, value ≠ " " ++ t) ∧ Text.trim value ≠ value

/-- A value that is not empty and does not begin with a space. -/
def Unspaced (value : String) : Prop :=
  value ≠ "" ∧ ∀ t, value ≠ " " ++ t

variable {value t : String} {f : Field}

theorem withoutSpace_space (t : String) : withoutSpace (" " ++ t).toList = t.toList := by
  rw [String.toList_append]
  rfl

theorem withoutSpace_of_ne (h : ∀ t, value ≠ " " ++ t) :
    withoutSpace value.toList = value.toList := by
  unfold withoutSpace
  split
  · rename_i rest hvalue
    exact absurd (String.toList_injective (by simpa using hvalue)) (h (String.ofList rest))
  · rfl

theorem hasExtra_iff : hasExtra f = true ↔ Padded f.value := by
  unfold hasExtra
  rw [bne_iff_ne, Ne]
  by_cases hspace : ∃ t, f.value = " " ++ t
  · obtain ⟨t, ht⟩ := hspace
    rw [ht, withoutSpace_space, ← Text.trim_eq_self_iff]
    constructor
    · intro h
      exact .inl ⟨t, rfl, h⟩
    · rintro (⟨u, hu, h⟩ | ⟨hne, -⟩)
      · rwa [(String.append_right_inj _).1 hu]
      · exact absurd rfl (hne t)
  · rw [not_exists] at hspace
    rw [withoutSpace_of_ne hspace, ← Text.trim_eq_self_iff]
    constructor
    · intro h
      exact .inr ⟨hspace, h⟩
    · rintro (⟨u, hu, -⟩ | ⟨-, h⟩)
      · exact absurd hu (hspace u)
      · exact h

theorem lacksSpace_iff : lacksSpace f = true ↔ Unspaced f.value := by
  unfold lacksSpace
  split
  · rename_i hvalue
    have hempty : f.value = "" := String.toList_injective hvalue
    simp [Unspaced, hempty]
  · rename_i c rest hvalue
    have hne : f.value ≠ "" := by
      rintro h
      simp [h] at hvalue
    rw [bne_iff_ne, Unspaced, and_iff_right hne]
    constructor
    · rintro hc t ht
      rw [ht, String.toList_append] at hvalue
      exact hc (List.cons.inj hvalue).1.symm
    · rintro h rfl
      exact h (String.ofList rest) (String.toList_injective (by simpa using hvalue))

instance : DecidablePred fun f : Field => Padded f.value :=
  fun _ => decidable_of_iff _ hasExtra_iff

instance : DecidablePred fun f : Field => Unspaced f.value :=
  fun _ => decidable_of_iff _ lacksSpace_iff

/-- A value is set off well if neither complaint is true of it. -/
theorem wellSpaced_iff : WellSpaced value ↔ ¬ Padded value ∧ ¬ Unspaced value := by
  have hspaced (t : String) (h : Text.trim t = t) : ¬ Padded (" " ++ t) ∧ ¬ Unspaced (" " ++ t) := by
    refine ⟨?_, fun hunspaced => hunspaced.2 t rfl⟩
    rintro (⟨u, hu, hne⟩ | ⟨hne, -⟩)
    · obtain rfl := (String.append_right_inj _).1 hu
      exact hne h
    · exact hne t rfl
  constructor
  · intro h
    cases h with
    | empty =>
      refine ⟨?_, fun hunspaced => hunspaced.1 rfl⟩
      rintro (⟨t, ht, -⟩ | ⟨-, hne⟩)
      · simpa using congrArg String.toList ht
      · exact hne rfl
    | space => exact hspaced "" rfl
    | text t _ htight =>
      exact hspaced t (Text.trim_eq_self_iff.2 (Text.trimChars_eq_self_iff.2 htight))
  · rintro ⟨hpadded, hunspaced⟩
    by_cases hempty : value = ""
    · rw [hempty]
      exact .empty
    obtain ⟨t, rfl⟩ : ∃ t, value = " " ++ t := by
      by_contra hspace
      exact hunspaced ⟨hempty, not_exists.1 hspace⟩
    have htrim : Text.trim t = t := by
      by_contra hne
      exact hpadded (.inl ⟨t, rfl, hne⟩)
    by_cases hblank : t = ""
    · rw [hblank]
      exact .space
    · exact .text t hblank (Text.trimChars_eq_self_iff.1 (Text.trim_eq_self_iff.1 htrim))

/-! ### Messages -/

/-- A message that a value has blanks around it, or others than one space in front. It shows the
field and marks the value. -/
structure ReportsPadded (slug : String) (level : Level) (f : Field) (m : Message) : Prop where
  id : m.id = some slug
  level : m.level = level
  title : m.title = "preamble header \x60" ++ f.name ++ "\x60 has extra whitespace"
  snippet : ∃ x, m.snippets = [x] ∧ x.Marks f "value has extra whitespace" (f.name ++ ":") f.value

/-- A message that values do not begin with a space. It shows their fields in order and marks the
first character of each value. -/
structure ReportsUnspaced (slug : String) (level : Level) (fs : List Field) (m : Message) :
    Prop where
  id : m.id = some slug
  level : m.level = level
  title : m.title = "preamble header values must begin with a space"
  snippets : List.Forall₂ MarksStart fs m.snippets

theorem filter_padded (fs : List Field) : fs.filter (fun f => Padded f.value) = fs.filter hasExtra :=
  List.filter_congr fun f _ => by rw [Bool.eq_iff_iff, decide_eq_true_iff, hasExtra_iff]

theorem filter_unspaced (fs : List Field) :
    fs.filter (fun f => Unspaced f.value) = fs.filter lacksSpace :=
  List.filter_congr fun f _ => by rw [Bool.eq_iff_iff, decide_eq_true_iff, lacksSpace_iff]

theorem filter_lacksSpace_eq_nil {fs : List Field} :
    fs.filter lacksSpace = [] ↔ ∀ f ∈ fs, ¬ Unspaced f.value := by
  rw [List.filter_eq_nil_iff]
  simp only [lacksSpace_iff]

theorem extraMessage_reports (slug : String) (c : Context) (f : Field) :
    ReportsPadded slug c.level f ((extraMessage c f).withId slug) := by
  have h := mark_marks c f f.value.length "value has extra whitespace"
  rw [← String.length_toList, List.take_length, String.ofList_toList, String.length_toList] at h
  exact ⟨rfl, rfl, rfl, _, rfl, h⟩

theorem spaceMessage_reports (slug : String) (c : Context) {fs : List Field}
    (h : ∀ f ∈ fs, Unspaced f.value) :
    ReportsUnspaced slug c.level fs ((spaceMessage c fs).withId slug) := by
  refine ⟨rfl, rfl, rfl, List.forall₂_map_right_iff.2 (List.forall₂_same.2 fun f hf => ?_)⟩
  exact mark_start (lacksSpace_iff.2 (h f hf))

/-- There is nothing to say exactly about the values that are set off well. -/
theorem messages_eq_nil_iff {c : Context} :
    messages c = [] ↔ ∀ f ∈ c.preamble.fields, WellSpaced f.value := by
  have hpadded : c.preamble.fields.filter hasExtra = [] ↔
      ∀ f ∈ c.preamble.fields, ¬ Padded f.value := by
    rw [List.filter_eq_nil_iff]
    simp only [hasExtra_iff]
  simp only [wellSpaced_iff, forall_and, ← hpadded, ← filter_lacksSpace_eq_nil]
  unfold messages
  rw [List.append_eq_nil_iff, List.map_eq_nil_iff]
  simp

end Spacing

open Spacing in
/-- The rule about blanks accepts the preambles whose values are empty or set off by one space. Of
the others it reports the values with further blanks one by one, and then those that do not begin
with a space together. -/
theorem spacing_reports (slug : String) (c : Context) :
    (spacing.check slug c).stop = none ∧
    ((spacing.check slug c).messages = [] ↔ ∀ f ∈ c.preamble.fields, WellSpaced f.value) ∧
    ∃ each last, (spacing.check slug c).messages = each ++ last ∧
      List.Forall₂ (ReportsPadded slug c.level) (c.preamble.fields.filter fun f => Padded f.value)
        each ∧
      (((∀ f ∈ c.preamble.fields, ¬ Unspaced f.value) ∧ last = []) ∨
        (∃ f ∈ c.preamble.fields, Unspaced f.value) ∧ ∃ m, last = [m] ∧
          ReportsUnspaced slug c.level (c.preamble.fields.filter fun f => Unspaced f.value) m) := by
  have hmessages : (spacing.check slug c).messages = (messages c).map (·.withId slug) := rfl
  refine ⟨rfl, ?_,
    (c.preamble.fields.filter hasExtra).map fun f => (extraMessage c f).withId slug, ?_⟩
  · rw [hmessages, List.map_eq_nil_iff, messages_eq_nil_iff]
  rw [hmessages, messages, List.map_append, List.map_map, filter_padded, filter_unspaced]
  refine ⟨_, rfl, List.forall₂_map_right_iff.2 (List.forall₂_same.2 fun f _ =>
    extraMessage_reports slug c f), ?_⟩
  by_cases hnone : ∀ f ∈ c.preamble.fields, ¬ Unspaced f.value
  · left
    refine ⟨hnone, ?_⟩
    rw [filter_lacksSpace_eq_nil.2 hnone]
    rfl
  · right
    have hsome := mt filter_lacksSpace_eq_nil.1 hnone
    refine ⟨by simpa using hnone, (spaceMessage c (c.preamble.fields.filter lacksSpace)).withId slug,
      ?_, spaceMessage_reports slug c fun f hf => lacksSpace_iff.1 (List.mem_filter.1 hf).2⟩
    rw [if_neg (by simpa using hsome)]
    rfl

end Rule

end ProposalCheck
