import Mathlib.Data.List.TakeDrop
import ProposalCheck.Document.Fence

/-!
# Lines and texts

A text and its lines determine each other: `Fence.unlines_charLines` for every text, and
`Fence.charLines_unlines` for lines in which no line feed is.
-/

namespace ProposalCheck

/-- The items in front of the first one that equals a given item. -/
theorem span_eq_iff {α : Type} [BEq α] [LawfulBEq α] {a : α} {l before rest : List α} :
    l.span (· != a) = (before, rest) ↔
      l = before ++ rest ∧ a ∉ before ∧ ∀ x ∈ rest.head?, x = a := by
  rw [List.span_eq_takeWhile_dropWhile]
  constructor
  · intro h
    obtain ⟨rfl, rfl⟩ := Prod.mk.inj h
    refine ⟨List.takeWhile_append_dropWhile.symm, fun ha => ?_, fun x hx => ?_⟩
    · simpa using List.all_eq_true.1 List.all_takeWhile a ha
    · have hnot := List.head?_dropWhile_not (· != a) l
      rw [hx] at hnot
      simpa using hnot
  · rintro ⟨rfl, hbefore, hrest⟩
    have hpos : ∀ x ∈ before, (x != a) = true := fun x hx => by
      rw [bne_iff_ne]
      rintro rfl
      exact hbefore hx
    rw [List.takeWhile_append_of_pos hpos, List.dropWhile_append_of_pos hpos]
    cases rest with
    | nil => simp
    | cons x xs =>
      obtain rfl : x = a := hrest x rfl
      simp

namespace Text

theorem split_eq_splitOn (sep : Char) (cs : List Char) : split sep cs = cs.splitOn sep := by
  induction cs with
  | nil => rw [split, List.splitOn_nil]
  | cons c rest ih =>
    rw [split, List.splitOn_cons_eq_if_modifyHead, ih, ← ih]
    simp only [beq_iff_eq]
    split
    · rfl
    · cases h : split sep rest with
      | nil => exact absurd h (split_ne_nil sep rest)
      | cons p ps => rfl

theorem not_mem_of_mem_split {sep : Char} {cs l : List Char} (h : l ∈ split sep cs) : sep ∉ l := by
  induction cs generalizing l with
  | nil =>
    obtain rfl := List.mem_singleton.1 h
    exact List.not_mem_nil
  | cons c rest ih =>
    rw [split] at h
    split at h
    · rcases List.mem_cons.1 h with rfl | h
      · exact List.not_mem_nil
      · exact ih h
    · rename_i hc
      cases hrest : split sep rest with
      | nil => exact absurd hrest (split_ne_nil sep rest)
      | cons p ps =>
        simp only [hrest] at h ih
        rcases List.mem_cons.1 h with rfl | h
        · rw [List.mem_cons, not_or]
          exact ⟨Ne.symm hc, ih List.mem_cons_self⟩
        · exact ih (List.mem_cons_of_mem _ h)

theorem charLines_lineFeed (rest : List Char) : charLines ('\n' :: rest) = [] :: charLines rest := rfl

/-- A character that is no line feed belongs to the first line. -/
theorem charLines_cons {c : Char} {rest l : List Char} {ls : List (List Char)} (hc : c ≠ '\n')
    (h : charLines rest = l :: ls) : charLines (c :: rest) = (c :: l) :: ls := by
  unfold charLines at h ⊢
  rw [split, if_neg hc, h]

theorem charLines_of_not_mem {l : List Char} (hl : '\n' ∉ l) : charLines l = [l] := by
  induction l with
  | nil => rfl
  | cons c rest ih =>
    obtain ⟨hc, hrest⟩ := not_or.1 (mt List.mem_cons.2 hl)
    exact charLines_cons (Ne.symm hc) (ih hrest)

theorem exists_charLines (cs : List Char) : ∃ l ls, charLines cs = l :: ls :=
  List.exists_cons_of_ne_nil (split_ne_nil _ cs)

theorem charLines_append_lineFeed (cs rest : List Char) :
    charLines (cs ++ '\n' :: rest) = charLines cs ++ charLines rest := by
  induction cs with
  | nil => rfl
  | cons c cs ih =>
    by_cases hc : c = '\n'
    · rw [hc, List.cons_append, charLines_lineFeed, charLines_lineFeed, ih, List.cons_append]
    · obtain ⟨l, ls, hl⟩ := exists_charLines cs
      rw [charLines_cons hc hl]
      rw [hl] at ih
      exact charLines_cons hc ih

theorem charLines_append_lineFeeds (cs : List Char) (count : Nat) :
    charLines (cs ++ List.replicate count '\n') = charLines cs ++ List.replicate count [] := by
  induction count generalizing cs with
  | zero => simp
  | succ count ih =>
    have h := ih []
    rw [List.nil_append] at h
    rw [List.replicate_succ, charLines_append_lineFeed, h]
    rfl

theorem charLines_append {l : List Char} (hl : '\n' ∉ l) (rest : List Char) :
    charLines (l ++ '\n' :: rest) = l :: charLines rest := by
  rw [charLines_append_lineFeed, charLines_of_not_mem hl]
  rfl

end Text

namespace Fence

theorem unlines_charLines (cs : List Char) : unlines (Text.charLines cs) = cs := by
  rw [Text.charLines, Text.split_eq_splitOn]
  exact List.intercalate_splitOn _

theorem charLines_unlines {ls : List (List Char)} (hls : ls ≠ []) (h : ∀ l ∈ ls, '\n' ∉ l) :
    Text.charLines (unlines ls) = ls := by
  rw [Text.charLines, Text.split_eq_splitOn]
  exact List.splitOn_intercalate _ h hls

@[simp] theorem unlines_nil : unlines [] = [] := rfl

@[simp] theorem unlines_singleton (l : List Char) : unlines [l] = l := List.intercalate_singleton

@[simp] theorem unlines_cons_cons (l l' : List Char) (ls : List (List Char)) :
    unlines (l :: l' :: ls) = l ++ '\n' :: unlines (l' :: ls) := by
  unfold unlines
  rw [List.intercalate_cons_cons, List.append_assoc, List.singleton_append]

theorem unlines_cons_append (c : Char) (l : List Char) (ls : List (List Char)) :
    unlines ((c :: l) :: ls) = c :: unlines (l :: ls) := by
  cases ls <;> simp

theorem unlines_eq_nil {ls : List (List Char)} : unlines ls = [] ↔ ls = [] ∨ ls = [[]] := by
  rcases ls with _ | ⟨l, _ | ⟨l', ls⟩⟩ <;> simp

theorem unlines_cons (l : List Char) {ls : List (List Char)} (hls : ls ≠ []) :
    unlines (l :: ls) = l ++ '\n' :: unlines ls := by
  obtain ⟨l', ls, rfl⟩ := List.exists_cons_of_ne_nil hls
  exact unlines_cons_cons l l' ls

theorem unlines_append {ls ms : List (List Char)} (hls : ls ≠ []) (hms : ms ≠ []) :
    unlines (ls ++ ms) = unlines ls ++ '\n' :: unlines ms := by
  induction ls with
  | nil => exact absurd rfl hls
  | cons l rest ih =>
    rw [List.cons_append]
    by_cases hrest : rest = []
    · rw [hrest, List.nil_append, unlines_cons l hms, unlines_singleton]
    · have hne : rest ++ ms ≠ [] := List.append_ne_nil_of_left_ne_nil hrest ms
      rw [unlines_cons l hne, unlines_cons l hrest, ih hrest, List.append_assoc, List.cons_append]

/-- There is one line more than there are line breaks. -/
theorem count_unlines {ls : List (List Char)} (hls : ls ≠ []) (h : ∀ l ∈ ls, '\n' ∉ l) :
    Text.count '\n' (String.ofList (unlines ls)) + 1 = ls.length := by
  rw [Text.count, String.toList_ofList]
  induction ls with
  | nil => exact absurd rfl hls
  | cons l rest ih =>
    obtain ⟨hl, hrest⟩ := List.forall_mem_cons.1 h
    by_cases hne : rest = []
    · rw [hne, unlines_singleton, List.count_eq_zero.2 hl]
      rfl
    · rw [unlines_cons l hne, List.count_append, List.count_cons_self, List.count_eq_zero.2 hl,
        Nat.zero_add, ih hne hrest, List.length_cons]

theorem toList_unlines (ss : List String) :
    (Text.unlines ss).toList = unlines (ss.map String.toList) :=
  String.toList_intercalate

/-! ### Cutting lines -/

theorem cut_cons (l : List Char) (ls : List (List Char)) :
    cut (l :: ls) = if isFence l then ([], some ls) else (l :: (cut ls).1, (cut ls).2) := by
  simp only [cut, List.span_eq_takeWhile_dropWhile]
  cases h : isFence l <;> simp [h]

theorem cut_of_mem {before after : List (List Char)} (h : ['-', '-', '-'] ∉ before) :
    cut (before ++ ['-', '-', '-'] :: after) = (before, some after) := by
  have hspan : (before ++ ['-', '-', '-'] :: after).span (fun l => !isFence l)
      = (before, ['-', '-', '-'] :: after) :=
    span_eq_iff.2 ⟨rfl, h, fun x hx => (Option.some.inj hx).symm⟩
  simp only [cut, hspan]

theorem cut_of_not_mem {ls : List (List Char)} (h : ['-', '-', '-'] ∉ ls) : cut ls = (ls, none) := by
  have hspan : ls.span (fun l => !isFence l) = (ls, []) :=
    span_eq_iff.2 ⟨(List.append_nil ls).symm, h, fun x hx => by cases hx⟩
  simp only [cut, hspan]

end Fence

end ProposalCheck
