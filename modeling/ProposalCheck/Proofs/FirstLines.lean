import ProposalCheck.Proofs.LineAccess

/-!
# The first line with some characters

`Document.FirstWith` is the first one of some lines of a document that has some characters in it, or else the
first one of all. Among the lines of a place, `Document.firstWith_findIdx?` finds it in what is shown of the
place, which has no empty lines at its end.
-/

namespace ProposalCheck

namespace Text

theorem startsWith_iff {needle hay : List Char} : startsWith needle hay = true ↔ needle <+: hay := by
  fun_induction startsWith needle hay with
  | case1 hay => simp
  | case2 needle hne => simpa [List.prefix_nil] using hne
  | case3 a as b bs ih => rw [Bool.and_eq_true, beq_iff_eq, ih, List.cons_prefix_cons]

theorem isSome_indexOf?_iff {needle hay : List Char} :
    (indexOf? needle hay).isSome = true ↔ needle <:+: hay := by
  induction hay with
  | nil => cases needle <;> simp [indexOf?]
  | cons c rest ih =>
    rw [indexOf?, List.infix_cons_iff, ← startsWith_iff, ← ih]
    split <;> simp_all

theorem occursIn_iff {needle hay : String} : occursIn needle hay = true ↔ needle.toList <:+: hay.toList :=
  isSome_indexOf?_iff

end Text

namespace Document

variable {d : Document} {cs : List Char} {start count n m : Nat}

/-- A line of the document has some characters in it. -/
def Has (d : Document) (n : Nat) (cs : List Char) : Prop :=
  ∃ shown, d.line n = .ok shown ∧ cs <:+: shown.toList

theorem line_succ {k : Nat} {shown : String} :
    d.line (k + 1 : Nat) = .ok shown ↔ d.lines[k]? = some shown.toList := by
  have hk : ((k + 1 : Nat) : Int).toNat - 1 = k := by omega
  rw [line_eq, if_neg (by omega), hk]
  cases d.lines[k]? with
  | none => simp
  | some l =>
    rw [Except.ok.injEq, Option.some.injEq]
    exact ⟨fun h => by rw [← h, String.toList_ofList], fun h => by rw [h, String.ofList_toList]⟩

theorem has_succ {k : Nat} : d.Has (k + 1) cs ↔ ∃ l, d.lines[k]? = some l ∧ cs <:+: l := by
  constructor
  · rintro ⟨shown, hshown, hcs⟩
    exact ⟨shown.toList, line_succ.1 hshown, hcs⟩
  · rintro ⟨l, hl, hcs⟩
    refine ⟨String.ofList l, line_succ.2 ?_, ?_⟩
    · rw [String.toList_ofList, hl]
    · rwa [String.toList_ofList]

/-- Of some lines of the document, the first one that has some characters in it, or the first one of all if
none has them. -/
structure FirstWith (d : Document) (start count : Nat) (cs : List Char) (n : Nat) : Prop where
  start_le : start ≤ n
  before : ∀ j, start ≤ j → j < n → ¬ d.Has j cs
  found : n < start + count ∧ d.Has n cs ∨
    n = start ∧ ∀ j, start ≤ j → j < start + count → ¬ d.Has j cs

namespace FirstWith

theorem le (h : d.FirstWith start count cs n) (hm : start ≤ m) (hhas : d.Has m cs) : n ≤ m :=
  Nat.le_of_not_lt fun hlt => h.before m hm hlt hhas

theorem eq_iff (h : d.FirstWith start count cs n) (hstart : start ≤ m) (hm : m < start + count)
    (hhas : d.Has m cs) : n = m ↔ ∀ j, start ≤ j → j < m → ¬ d.Has j cs := by
  constructor
  · rintro rfl
    exact h.before
  · intro hnone
    refine Nat.le_antisymm (h.le hstart hhas) (Nat.le_of_not_lt fun hlt => ?_)
    rcases h.found with ⟨-, hn⟩ | ⟨-, hn⟩
    · exact hnone n h.start_le hlt hn
    · exact hn m hstart hm hhas

/-- There is no choice if there is one line only. -/
theorem eq_start (h : d.FirstWith start 1 cs n) : n = start := by
  rcases h.found with ⟨hlt, -⟩ | ⟨hn, -⟩
  · exact Nat.le_antisymm (Nat.le_of_lt_succ hlt) h.start_le
  · exact hn

end FirstWith

/-- What is shown of a place are its lines in order, up to the last one that is not empty. -/
theorem shown_lines {p : Markup.Place} {first last : Nat} {shown : String}
    (hp : p.lines = some (first, last)) (h : d.nodeText p = .ok shown) :
    (∀ i l, (Text.charLines shown.toList)[i]? = some l →
      i < Nat.max last (first + 1) - first ∧ d.lines[first + d.bodyLine + i]? = some l) ∧
    ∀ i l, i < Nat.max last (first + 1) - first → d.lines[first + d.bodyLine + i]? = some l → l ≠ [] →
      l ∈ Text.charLines shown.toList := by
  have hcount : 1 ≤ Nat.max last (first + 1) - first :=
    Nat.le_sub_of_add_le' (Nat.le_max_right last (first + 1))
  rw [nodeText_of_some d hp] at h
  generalize Nat.max last (first + 1) - first = count at h hcount
  split at h
  · cases h
  · rename_i hlt
    obtain rfl := Except.ok.inj h
    obtain ⟨blanks, hblanks⟩ := exists_charLines_trimLineFeeds
      ((d.lines.drop (first + d.bodyLine)).take count)
      (by rw [Ne, List.take_eq_nil_iff, List.drop_eq_nil_iff]; omega)
      fun l hl => d.lineFeed_not_mem l (List.mem_of_mem_drop (List.mem_of_mem_take hl))
    have hget (i : Nat) := List.getElem?_take (l := d.lines.drop (first + d.bodyLine)) (i := count) (j := i)
    simp only [List.getElem?_drop] at hget
    rw [hblanks] at hget
    rw [String.toList_ofList]
    constructor
    · intro i l hl
      have hi := hget i
      rw [List.getElem?_append_left (List.getElem?_eq_some_iff.1 hl).1, hl] at hi
      split at hi
      · rename_i hlt
        exact ⟨hlt, hi.symm⟩
      · cases hi
    · intro i l hi hl hl'
      have hmem := List.mem_of_getElem? ((hget i).trans (by rw [if_pos hi, hl]))
      exact (List.mem_append.1 hmem).resolve_right fun h => hl' (List.eq_of_mem_replicate h)

section

variable {p : Markup.Place} {first last : Nat} {shown : String}

theorem firstWith_nil (hp : p.lines = some (first, last)) (h : d.nodeText p = .ok shown) :
    d.FirstWith (first + d.bodyLine + 1) (Nat.max last (first + 1) - first) []
      (first + d.bodyLine + 1) := by
  obtain ⟨l, ls, hl⟩ := Text.exists_charLines shown.toList
  obtain ⟨hlt, hline⟩ := (shown_lines hp h).1 0 l (by rw [hl]; rfl)
  refine ⟨Nat.le_refl _, fun j hj hlt => absurd hj (Nat.not_le_of_lt hlt), .inl ⟨by omega, ?_⟩⟩
  exact has_succ.2 ⟨l, hline, List.nil_infix⟩

/-- The first one of the lines of a place that has some characters in it can be found in what is shown of
the place. -/
theorem firstWith_findIdx? (hp : p.lines = some (first, last)) (h : d.nodeText p = .ok shown)
    (hne : cs ≠ []) {test : List Char → Bool} (htest : ∀ l, test l = true ↔ cs <:+: l) :
    d.FirstWith (first + d.bodyLine + 1) (Nat.max last (first + 1) - first) cs
      (first + d.bodyLine + 1 + ((Text.charLines shown.toList).findIdx? test).getD 0) := by
  obtain ⟨hget, hmem⟩ := shown_lines hp h
  have hhas {i : Nat} : d.Has (first + d.bodyLine + 1 + i) cs ↔
      ∃ l, d.lines[first + d.bodyLine + i]? = some l ∧ cs <:+: l := by
    rw [Nat.add_right_comm]
    exact has_succ
  have htested {i : Nat} {l : List Char} (hl : (Text.charLines shown.toList)[i]? = some l) :
      d.Has (first + d.bodyLine + 1 + i) cs ↔ test l = true := by
    rw [hhas, (hget i l hl).2, htest]
    exact ⟨fun ⟨_, heq, hcs⟩ => Option.some.inj heq ▸ hcs, fun hcs => ⟨l, rfl, hcs⟩⟩
  cases hfind : (Text.charLines shown.toList).findIdx? test with
  | none =>
    refine ⟨Nat.le_refl _, fun j hj hlt => absurd hj (Nat.not_le_of_lt hlt), .inr ⟨rfl, ?_⟩⟩
    intro j hj hlt hin
    obtain ⟨i, rfl⟩ := Nat.exists_eq_add_of_le hj
    obtain ⟨l, hl, hcs⟩ := hhas.1 hin
    have hl' : l ≠ [] := by
      rintro rfl
      exact hne (List.infix_nil.1 hcs)
    have hnot := List.findIdx?_eq_none_iff.1 hfind l (hmem i l (by omega) hl hl')
    exact Bool.eq_false_iff.1 hnot ((htest l).2 hcs)
  | some i =>
    obtain ⟨hi, hin, hbefore⟩ := List.findIdx?_eq_some_iff_getElem.1 hfind
    have hlt := (hget i _ (List.getElem?_eq_getElem hi)).1
    refine ⟨Nat.le_add_right _ _, fun j hj hlt hin => ?_, .inl ⟨Nat.add_lt_add_left hlt _, ?_⟩⟩
    · obtain ⟨k, rfl⟩ := Nat.exists_eq_add_of_le hj
      rw [Option.getD_some] at hlt
      have hk : k < i := by omega
      exact hbefore k hk ((htested (List.getElem?_eq_getElem (Nat.lt_trans hk hi))).1 hin)
    · exact (htested (List.getElem?_eq_getElem hi)).2 hin

end

end Document

end ProposalCheck
