import ProposalCheck.Proofs.Markers

/-!
# The grammar of fences

What `Fence.split` gives is said in terms of the lines of the text, `Fence.Reads`: the first fence,
the next one that is not right behind it, and where the first fence may be. `Fence.split_eq_iff`
says so for every text. An empty first line does not count as text in front of the first fence,
although the lines behind it are then one further down than they should be; without such a line the
first fence has to be in the first line.
-/

namespace ProposalCheck

namespace Fence

/-- The first fence among some lines from the line `start` on. Lines are counted from zero. -/
structure NextFence (ls : List (List Char)) (start i : Nat) : Prop where
  le : start ≤ i
  fence : ls[i]? = some ['-', '-', '-']
  first : ∀ k, start ≤ k → k < i → ls[k]? ≠ some ['-', '-', '-']

variable {ls : List (List Char)} {start i j : Nat}

theorem NextFence.unique (hi : NextFence ls start i) (hj : NextFence ls start j) : i = j := by
  rcases Nat.lt_trichotomy i j with h | h | h
  · exact absurd hi.fence (hj.first i hi.le h)
  · exact h
  · exact absurd hj.fence (hi.first j hj.le h)

/-- The first fence behind some lines. -/
theorem NextFence.of_drop {k : Nat} (h : NextFence (ls.drop k) 0 i) : NextFence ls k (k + i) := by
  obtain ⟨-, hfence, hfirst⟩ := h
  rw [List.getElem?_drop] at hfence
  refine ⟨Nat.le_add_right k i, hfence, fun m hm hlt => ?_⟩
  obtain ⟨n, rfl⟩ := Nat.exists_eq_add_of_le hm
  rw [← List.getElem?_drop]
  exact hfirst n (Nat.zero_le n) (Nat.lt_of_add_lt_add_left hlt)

/-! ### Where the fences are -/

/-- Lines with no fence, with one that counts, or with two. What is right behind the first fence
does not count. -/
inductive Layout : List (List Char) → Prop
  | noFence {ls : List (List Char)} (h : ['-', '-', '-'] ∉ ls) : Layout ls
  | oneFence {before after : List (List Char)} (hbefore : ['-', '-', '-'] ∉ before)
      (hafter : ['-', '-', '-'] ∉ after.tail) : Layout (before ++ ['-', '-', '-'] :: after)
  | twoFences {before inner body : List (List Char)} {first : List Char}
      (hbefore : ['-', '-', '-'] ∉ before) (hinner : ['-', '-', '-'] ∉ inner) :
      Layout (before ++ ['-', '-', '-'] :: first :: (inner ++ ['-', '-', '-'] :: body))

theorem layout (ls : List (List Char)) : Layout ls := by
  by_cases hmem : ['-', '-', '-'] ∈ ls
  · obtain ⟨before, after, rfl, hbefore⟩ := List.eq_append_cons_of_mem hmem
    cases after with
    | nil => exact .oneFence hbefore List.not_mem_nil
    | cons first rest =>
      by_cases hrest : ['-', '-', '-'] ∈ rest
      · obtain ⟨inner, body, rfl, hinner⟩ := List.eq_append_cons_of_mem hrest
        exact .twoFences hbefore hinner
      · exact .oneFence hbefore hrest
  · exact .noFence hmem

theorem splitLines_noFence (h : ['-', '-', '-'] ∉ ls) : splitLines ls = .error .missingStart := by
  rw [splitLines, cut_of_not_mem h]

theorem splitLines_oneFence {before after : List (List Char)} (hbefore : ['-', '-', '-'] ∉ before)
    (hafter : ['-', '-', '-'] ∉ after.tail) :
    splitLines (before ++ ['-', '-', '-'] :: after) = .error .missingEnd := by
  rw [splitLines, cut_of_mem hbefore]
  cases after with
  | nil => rfl
  | cons first rest =>
    have hrest : ['-', '-', '-'] ∉ rest := hafter
    simp only [cut_of_not_mem hrest]

theorem splitLines_twoFences {before inner body : List (List Char)} {first : List Char}
    (hbefore : ['-', '-', '-'] ∉ before) (hinner : ['-', '-', '-'] ∉ inner) :
    splitLines (before ++ ['-', '-', '-'] :: first :: (inner ++ ['-', '-', '-'] :: body))
      = if before = [] ∨ before = [[]] then .ok (first :: inner, body) else .error .leadingText := by
  rw [splitLines, cut_of_mem hbefore]
  simp only [cut_of_mem hinner, Bool.or_eq_true, beq_iff_eq]

/-- The lines of the preamble and of the body, behind the lines in front of the first fence. -/
theorem exists_lines_of_split {source preamble body : String}
    (h : split source = .ok (preamble, body)) :
    ∃ lead ps rest, (lead = [] ∨ lead = [[]]) ∧ ps ≠ [] ∧
      Text.charLines source.toList
        = lead ++ ['-', '-', '-'] :: (ps ++ ['-', '-', '-'] :: rest) ∧
      preamble = String.ofList (unlines ps) ∧ body = String.ofList (unlines rest) := by
  rw [split] at h
  have hlayout := layout (Text.charLines source.toList)
  generalize Text.charLines source.toList = ls at h hlayout
  cases hlayout with
  | noFence hnone =>
    rw [splitLines_noFence hnone] at h
    cases h
  | oneFence hbefore hafter =>
    rw [splitLines_oneFence hbefore hafter] at h
    cases h
  | @twoFences before inner rest first hbefore hinner =>
    rw [splitLines_twoFences hbefore hinner] at h
    split at h
    · rename_i hlead
      obtain ⟨rfl, rfl⟩ := Prod.mk.inj (Except.ok.inj h)
      exact ⟨before, first :: inner, rest, hlead, List.cons_ne_nil _ _, rfl, rfl, rfl⟩
    · cases h

/-! ### The grammar -/

/-- How a text of some lines is read; `opening` says in which line the first fence may be. -/
inductive Reads (ls : List (List Char)) (opening : Nat → Prop) :
    Except FenceError (String × String) → Prop
  | missingStart (h : ∀ i, ¬ NextFence ls 0 i) : Reads ls opening (.error .missingStart)
  | missingEnd {i : Nat} (hi : NextFence ls 0 i) (h : ∀ j, ¬ NextFence ls (i + 2) j) :
      Reads ls opening (.error .missingEnd)
  | leadingText {i j : Nat} (hi : NextFence ls 0 i) (hj : NextFence ls (i + 2) j)
      (h : ¬ opening i) : Reads ls opening (.error .leadingText)
  | parts {i j : Nat} (hi : NextFence ls 0 i) (hj : NextFence ls (i + 2) j) (h : opening i) :
      Reads ls opening (.ok (String.ofList (unlines ((ls.take j).drop (i + 1))),
        String.ofList (unlines (ls.drop (j + 1)))))

/-- Where the first fence may be: in the first line, or in the second one behind an empty line. -/
def MayOpen (ls : List (List Char)) (i : Nat) : Prop :=
  i = 0 ∨ i = 1 ∧ ls.head? = some []

theorem Reads.unique {opening : Nat → Prop} {x y : Except FenceError (String × String)}
    (hx : Reads ls opening x) (hy : Reads ls opening y) : x = y := by
  cases hx with
  | missingStart h =>
    cases hy with
    | missingStart => rfl
    | missingEnd hi => exact absurd hi (h _)
    | leadingText hi => exact absurd hi (h _)
    | parts hi => exact absurd hi (h _)
  | missingEnd hi h =>
    cases hy with
    | missingStart h' => exact absurd hi (h' _)
    | missingEnd => rfl
    | leadingText hi' hj => exact absurd (hi.unique hi' ▸ hj) (h _)
    | parts hi' hj => exact absurd (hi.unique hi' ▸ hj) (h _)
  | leadingText hi hj h =>
    cases hy with
    | missingStart h' => exact absurd hi (h' _)
    | missingEnd hi' h' => exact absurd (hi'.unique hi ▸ hj) (h' _)
    | leadingText => rfl
    | parts hi' _ h' => exact absurd (hi'.unique hi ▸ h') h
  | parts hi hj h =>
    cases hy with
    | missingStart h' => exact absurd hi (h' _)
    | missingEnd hi' h' => exact absurd (hi'.unique hi ▸ hj) (h' _)
    | leadingText hi' _ h' => exact absurd (hi.unique hi' ▸ h) h'
    | parts hi' hj' =>
      obtain rfl := hi.unique hi'
      obtain rfl := hj.unique hj'
      rfl

theorem nextFence_of_append {before : List (List Char)} (after : List (List Char))
    (h : ['-', '-', '-'] ∉ before) :
    NextFence (before ++ ['-', '-', '-'] :: after) 0 before.length := by
  refine ⟨Nat.zero_le _, by simp, fun k _ hk hfence => h ?_⟩
  rw [List.getElem?_append_left hk] at hfence
  exact List.mem_of_getElem? hfence

theorem not_nextFence_of_drop (h : ['-', '-', '-'] ∉ ls.drop start) : ¬ NextFence ls start i := by
  intro hi
  obtain ⟨k, rfl⟩ := Nat.exists_eq_add_of_le hi.le
  exact h (List.mem_of_getElem? (by rw [List.getElem?_drop, hi.fence]))

theorem reads_splitLines (ls : List (List Char)) :
    Reads ls (MayOpen ls) ((splitLines ls).map fun p =>
      (String.ofList (unlines p.1), String.ofList (unlines p.2))) := by
  cases layout ls with
  | noFence h =>
    rw [splitLines_noFence h]
    exact .missingStart fun i => not_nextFence_of_drop (by rwa [List.drop_zero])
  | @oneFence before after hbefore hafter =>
    rw [splitLines_oneFence hbefore hafter]
    refine .missingEnd (nextFence_of_append after hbefore) fun j => not_nextFence_of_drop ?_
    rw [← List.drop_drop, List.drop_left]
    simpa using hafter
  | @twoFences before inner body first hbefore hinner =>
    have hi := nextFence_of_append (first :: (inner ++ ['-', '-', '-'] :: body)) hbefore
    have hj := nextFence_of_append body hinner
    have hdrop : (before ++ ['-', '-', '-'] :: first :: (inner ++ ['-', '-', '-'] :: body)).drop
        (before.length + 2) = inner ++ ['-', '-', '-'] :: body := by
      rw [← List.drop_drop, List.drop_left]
      rfl
    rw [← hdrop] at hj
    have hpreamble : ((before ++ ['-', '-', '-'] :: first :: (inner ++ ['-', '-', '-'] :: body)).take
        (before.length + 2 + inner.length)).drop (before.length + 1) = first :: inner := by
      have hlength : before.length + 2 + inner.length - (before.length + 1) = inner.length + 1 := by
        omega
      rw [List.drop_take, hlength, ← List.drop_drop, List.drop_left, List.drop_one, List.tail_cons,
        List.take_succ_cons, List.take_left]
    have hbody : (before ++ ['-', '-', '-'] :: first :: (inner ++ ['-', '-', '-'] :: body)).drop
        (before.length + 2 + inner.length + 1) = body := by
      rw [Nat.add_assoc, ← List.drop_drop, hdrop, ← List.drop_drop, List.drop_left]
      rfl
    have hopening : before = [] ∨ before = [[]] ↔
        MayOpen (before ++ ['-', '-', '-'] :: first :: (inner ++ ['-', '-', '-'] :: body))
          before.length := by
      rcases before with _ | ⟨l, _ | ⟨l', ls⟩⟩ <;> simp [MayOpen]
    rw [splitLines_twoFences hbefore hinner]
    split
    · rename_i hlead
      have hparts := Reads.parts hi hj.of_drop (hopening.1 hlead)
      rwa [hpreamble, hbody] at hparts
    · rename_i hlead
      exact .leadingText hi hj.of_drop (mt hopening.2 hlead)

/-- A text is cut at its first two fences, where the line right behind the first one does not count;
the first fence has to be in the first line, or in the second one behind an empty line. The texts
that have the latter and a second fence are all that sets this apart from asking for a fence in the
first line. -/
theorem split_eq_iff (source : String) :
    let ls := Text.charLines source.toList
    splitAtMarkers source = split source ∧
      (∀ x, split source = x ↔ Reads ls (MayOpen ls) x) ∧
      ((∀ x, split source = x ↔ Reads ls (· = 0) x) ↔
        ¬ (ls.head? = some [] ∧ NextFence ls 0 1 ∧ ∃ j, NextFence ls 3 j)) := by
  intro ls
  have hreads : Reads ls (MayOpen ls) (split source) := reads_splitLines ls
  have hiff {opening : Nat → Prop} (h : Reads ls opening (split source)) :
      ∀ x, split source = x ↔ Reads ls opening x := fun x =>
    ⟨fun hx => hx ▸ h, fun hx => h.unique hx⟩
  refine ⟨splitAtMarkers_eq_split source, hiff hreads, fun hfirst => ?_, fun hlead => hiff ?_⟩
  · rintro ⟨hempty, hi, j, hj⟩
    have herror := (hfirst _).2 (.leadingText hi hj Nat.one_ne_zero)
    have hok := hreads.unique (.parts hi hj (.inr ⟨rfl, hempty⟩))
    cases hok.symm.trans herror
  · generalize split source = x at hreads
    cases hreads with
    | missingStart h => exact .missingStart h
    | missingEnd hi h => exact .missingEnd hi h
    | leadingText hi hj h => exact .leadingText hi hj fun h0 => h (.inl h0)
    | parts hi hj h =>
      rcases h with rfl | ⟨rfl, hempty⟩
      · exact .parts hi hj rfl
      · exact absurd ⟨hempty, hi, _, hj⟩ hlead

/-- A text with an empty line in front of its first fence is cut all the same. -/
theorem split_behind_empty_line :
    ¬ ∀ source x, split source = x ↔ Reads (Text.charLines source.toList) (· = 0) x := by
  intro h
  have hlines : Text.charLines "\n---\na:b\n---\n".toList
      = [[], ['-', '-', '-'], ['a', ':', 'b'], ['-', '-', '-'], []] := by decide +kernel
  have hi : NextFence (Text.charLines "\n---\na:b\n---\n".toList) 0 1 := by
    rw [hlines]
    exact nextFence_of_append _ (by decide : ['-', '-', '-'] ∉ [[]])
  have hj : NextFence (Text.charLines "\n---\na:b\n---\n".toList) 3 (3 + 0) := by
    rw [hlines]
    refine NextFence.of_drop ?_
    exact nextFence_of_append [[]] List.not_mem_nil
  have herror := (h _ _).2 (.leadingText hi hj Nat.one_ne_zero)
  have hok : split "\n---\na:b\n---\n" = .ok ("a:b", "") := by decide +kernel
  cases hok.symm.trans herror

end Fence

end ProposalCheck
