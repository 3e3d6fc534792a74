import Mathlib.Algebra.GroupWithZero.Nat
import Mathlib.Data.List.DropRight
import ProposalCheck.Document.Location
import ProposalCheck.Proofs.Lines

/-!
# Lines that are found by their line feeds

A line of a document is found by going from line feed to line feed. `Document.lines_access`: what is
found so is what cutting the text at its line feeds gives, for every number of a line and for the
lines of a node of the body.

A scan stands at the start of a line (`LineStart.IsAt`); a step leads to the start of the next line as
long as there is one.
-/

namespace ProposalCheck.Document

/-! ### Line feeds at the end of a text -/

theorem trimLineFeeds_concat (cs : List Char) : trimLineFeeds (cs ++ ['\n']) = trimLineFeeds cs :=
  List.rdropWhile_concat_pos _ _ _ rfl

theorem trimLineFeeds_of_not_mem (cs : List Char) {l : List Char} (hl : l ≠ []) (h : '\n' ∉ l) :
    trimLineFeeds (cs ++ l) = cs ++ l := by
  obtain ⟨init, c, rfl⟩ := (List.eq_nil_or_concat' l).resolve_left hl
  have hc : ¬(c == '\n') = true := by
    rw [beq_iff_eq]
    rintro rfl
    exact h (List.mem_append_right _ List.mem_cons_self)
  rw [← List.append_assoc]
  exact List.rdropWhile_concat_neg _ _ _ hc

/-- A text is what is left of it when the line feeds at its end are taken away, and these line feeds. -/
theorem exists_trimLineFeeds_append (cs : List Char) :
    ∃ count, cs = trimLineFeeds cs ++ List.replicate count '\n' := by
  induction cs using List.reverseRecOn with
  | nil => exact ⟨0, rfl⟩
  | append_singleton init c ih =>
    by_cases hc : c = '\n'
    · obtain ⟨count, hcount⟩ := ih
      refine ⟨count + 1, ?_⟩
      rw [hc, trimLineFeeds_concat, List.replicate_succ', ← List.append_assoc, ← hcount]
    · refine ⟨0, ?_⟩
      rw [trimLineFeeds_of_not_mem init (List.cons_ne_nil c []) (by simpa using Ne.symm hc),
        List.replicate_zero, List.append_nil]

/-- Trimming takes empty lines off the end. -/
theorem exists_charLines_trimLineFeeds (ls : List (List Char)) (hne : ls ≠ [])
    (h : ∀ l ∈ ls, '\n' ∉ l) :
    ∃ count, ls = Text.charLines (trimLineFeeds (Fence.unlines ls)) ++ List.replicate count [] := by
  obtain ⟨count, hcount⟩ := exists_trimLineFeeds_append (Fence.unlines ls)
  exact ⟨count, by rw [← Text.charLines_append_lineFeeds, ← hcount, Fence.charLines_unlines hne h]⟩

theorem getLast?_trimLineFeeds (cs : List Char) : (trimLineFeeds cs).getLast? ≠ some '\n' := by
  intro hlast
  obtain ⟨init, hinit⟩ := List.getLast?_eq_some_iff.1 hlast
  have htwice : trimLineFeeds (trimLineFeeds cs) = trimLineFeeds cs := List.rdropWhile_idempotent _ _
  rw [hinit, trimLineFeeds_concat] at htwice
  have hlength := congrArg List.length htwice
  have hle : (trimLineFeeds init).length ≤ init.length := (List.rdropWhile_prefix _ _).length_le
  rw [List.length_append, List.length_singleton] at hlength
  omega

/-! ### Starts of lines -/

/-- The number of characters in front of a line, line feeds included. -/
def offsetOf (ls : List (List Char)) (k : Nat) : Nat :=
  ((ls.take k).map List.length).sum + k

namespace LineStart

variable {ls : List (List Char)} {k n : Nat} {s : LineStart}

/-- The start of line `k` of some lines, counted from zero. -/
structure IsAt (ls : List (List Char)) (k : Nat) (s : LineStart) : Prop where
  lt : k < ls.length
  index : s.index = offsetOf ls k
  rest : s.rest = Fence.unlines (ls.drop k)

theorem isAt_zero (cs : List Char) : IsAt (Text.charLines cs) 0 { index := 0, rest := cs } where
  lt := List.length_pos_of_ne_nil (Text.split_ne_nil _ cs)
  index := rfl
  rest := (Fence.unlines_charLines cs).symm

section

variable (hls : ∀ l ∈ ls, '\n' ∉ l) (h : IsAt ls k s)

include hls h

theorem IsAt.line_eq (hk : k < ls.length) : s.line = ls[k] := by
  have hpos : ∀ c ∈ ls[k], (c != '\n') = true := fun c hc => by
    rw [bne_iff_ne]
    rintro rfl
    exact hls _ (List.getElem_mem hk) hc
  rw [line, h.rest, List.drop_eq_getElem_cons hk]
  by_cases hrest : ls.drop (k + 1) = []
  · rw [hrest, Fence.unlines_singleton, List.takeWhile_eq_self_iff]
    exact hpos
  · rw [Fence.unlines_cons _ hrest, List.takeWhile_append_of_pos hpos]
    simp

/-- A step leads to the start of the next line. -/
theorem IsAt.exists_next? (hk : k + 1 < ls.length) : ∃ s', s.next? = some s' ∧ IsAt ls (k + 1) s' := by
  have hrest : ls.drop (k + 1) ≠ [] := by
    rw [Ne, List.drop_eq_nil_iff]
    omega
  have hdrop : s.rest.drop s.line.length = '\n' :: Fence.unlines (ls.drop (k + 1)) := by
    rw [h.line_eq hls h.lt, h.rest, List.drop_eq_getElem_cons h.lt, Fence.unlines_cons _ hrest]
    simp
  refine ⟨_, by rw [next?, hdrop], hk, ?_, rfl⟩
  change s.index + s.line.length + 1 = _
  rw [h.index, h.line_eq hls h.lt, offsetOf, offsetOf, List.take_add_one, List.getElem?_eq_getElem h.lt,
    List.map_append, List.sum_append]
  simp only [Option.toList_some, List.map_cons, List.map_nil, List.sum_cons, List.sum_nil]
  omega

theorem IsAt.next?_eq_none (hk : k + 1 = ls.length) : s.next? = none := by
  have hdrop : s.rest.drop s.line.length = [] := by
    rw [h.line_eq hls h.lt, h.rest, List.drop_eq_getElem_cons h.lt, List.drop_of_length_le hk.ge,
      Fence.unlines_singleton, List.drop_length]
  rw [next?, hdrop]

/-- Going on by some lines ends at the start of a line exactly if there are as many. -/
theorem IsAt.skip?_cases (n : Nat) :
    (k + n < ls.length ∧ ∃ s', skip? n s = some s' ∧ IsAt ls (k + n) s') ∨
      (ls.length ≤ k + n ∧ skip? n s = none) := by
  induction n generalizing k s with
  | zero => exact .inl ⟨h.lt, s, rfl, h⟩
  | succ n ih =>
    by_cases hk : k + 1 < ls.length
    · obtain ⟨next, hnext, hat⟩ := h.exists_next? hls hk
      have hskip : skip? (n + 1) s = skip? n next := by
        rw [skip?, hnext]
      rw [hskip, Nat.add_comm n, ← Nat.add_assoc]
      exact ih hat
    · have hlt := h.lt
      refine .inr ⟨by omega, ?_⟩
      rw [skip?, h.next?_eq_none hls (by omega)]

/-- Taking some lines ends behind a line feed, unless the text ends first. -/
theorem IsAt.take_eq (n : Nat) : s.take (n + 1) =
    Fence.unlines ((ls.drop k).take (n + 1)) ++ if k + n + 1 < ls.length then ['\n'] else [] := by
  induction n generalizing k s with
  | zero =>
    rw [List.drop_eq_getElem_cons h.lt, List.take_succ_cons, List.take_zero, Fence.unlines_singleton]
    by_cases hk : k + 1 < ls.length
    · obtain ⟨next, hnext, -⟩ := h.exists_next? hls hk
      rw [take, hnext, if_pos hk, h.line_eq hls]
      rfl
    · have hlt := h.lt
      rw [take, h.next?_eq_none hls (by omega), if_neg hk, h.rest, List.drop_eq_getElem_cons h.lt,
        List.drop_of_length_le (by omega), Fence.unlines_singleton, List.append_nil]
  | succ n ih =>
    by_cases hk : k + 1 < ls.length
    · obtain ⟨next, hnext, hat⟩ := h.exists_next? hls hk
      have hne : (ls.drop (k + 1)).take (n + 1) ≠ [] := by
        rw [Ne, List.take_eq_nil_iff, List.drop_eq_nil_iff]
        omega
      have hshift : k + 1 + n + 1 = k + (n + 1) + 1 := by omega
      rw [take, hnext]
      dsimp only
      rw [ih hat, h.line_eq hls h.lt, List.drop_eq_getElem_cons h.lt, List.take_succ_cons,
        Fence.unlines_cons _ hne, hshift, List.append_assoc, List.cons_append]
    · have hlt := h.lt
      rw [take, h.next?_eq_none hls (by omega), if_neg (by omega), List.append_nil,
        List.take_of_length_le (by simp; omega)]
      exact h.rest

end

end LineStart

/-! ### Lines of a document -/

variable (d : Document)

theorem lineFeed_not_mem : ∀ l ∈ d.lines, '\n' ∉ l :=
  fun _ hl => Text.not_mem_of_mem_split hl

/-- The start of a line is found exactly if the document has this line. -/
theorem startOf_cases (n : Int) :
    (n < 1 ∧ d.startOf n = .error (.belowOne n)) ∨
    (d.lines.length < n ∧ d.startOf n = .error (.pastEnd n)) ∨
    ∃ k : Nat, n = k + 1 ∧ ∃ s, d.startOf n = .ok s ∧ LineStart.IsAt d.lines k s := by
  unfold startOf
  by_cases hn : n < 1
  · exact .inl ⟨hn, if_pos hn⟩
  · obtain ⟨k, rfl⟩ : ∃ k : Nat, n = k + 1 := ⟨(n - 1).toNat, by omega⟩
    have hk : ((k : Int) + 1 - 1).toNat = k := by omega
    rw [if_neg hn, hk]
    rcases (LineStart.isAt_zero d.source.toList).skip?_cases d.lineFeed_not_mem k with
      ⟨hlt, s, hs, hat⟩ | ⟨hle, hs⟩
    · rw [Nat.zero_add] at hat
      exact .inr (.inr ⟨k, rfl, s, by rw [hs], hat⟩)
    · rw [Nat.zero_add] at hle
      exact .inr (.inl ⟨Int.lt_add_one_of_le (Int.ofNat_le.2 hle), by rw [hs]⟩)

theorem exists_error_map {α β ε : Type} {x : Except ε α} {f : α → β} :
    (∃ e, x.map f = .error e) ↔ ∃ e, x = .error e := by
  cases x with
  | error e => exact ⟨fun _ => ⟨e, rfl⟩, fun _ => ⟨e, rfl⟩⟩
  | ok a =>
    constructor
    · rintro ⟨e, he⟩
      cases he
    · rintro ⟨e, he⟩
      cases he

theorem startOf_isError (n : Int) :
    (∃ e, d.startOf n = .error e) ↔ n < 1 ∨ d.lines.length < n := by
  rcases d.startOf_cases n with ⟨hn, hs⟩ | ⟨hn, hs⟩ | ⟨k, rfl, s, hs, hat⟩
  · exact ⟨fun _ => .inl hn, fun _ => ⟨_, hs⟩⟩
  · exact ⟨fun _ => .inr hn, fun _ => ⟨_, hs⟩⟩
  · have hlt := hat.lt
    rw [hs]
    constructor
    · rintro ⟨e, he⟩
      cases he
    · intro hn
      omega

theorem exists_startOf {k : Nat} (hk : k < d.lines.length) :
    ∃ s, d.startOf (k + 1) = .ok s ∧ LineStart.IsAt d.lines k s := by
  rcases d.startOf_cases (k + 1) with ⟨hn, -⟩ | ⟨hn, -⟩ | ⟨j, hj, s, hs, hat⟩
  · omega
  · omega
  · obtain rfl : k = j := by omega
    exact ⟨s, hs, hat⟩

theorem line_eq (n : Int) :
    d.line n = if n < 1 then .error (.belowOne n) else match d.lines[n.toNat - 1]? with
      | some l => .ok (String.ofList l)
      | none => .error (.pastEnd n) := by
  unfold line
  rcases d.startOf_cases n with ⟨hn, hs⟩ | ⟨hn, hs⟩ | ⟨k, rfl, s, hs, hat⟩
  · rw [hs, if_pos hn]
    rfl
  · rw [hs, if_neg (by omega), List.getElem?_eq_none (by omega)]
    rfl
  · have hk : ((k : Int) + 1).toNat - 1 = k := by omega
    rw [hs, if_neg (by omega), hk, List.getElem?_eq_getElem hat.lt]
    exact congrArg (fun l => Except.ok (String.ofList l)) (hat.line_eq d.lineFeed_not_mem hat.lt)

theorem nodeText_of_some {p : Markup.Place} {first last : Nat} (hp : p.lines = some (first, last)) :
    d.nodeText p =
      if d.lines.length ≤ first + d.bodyLine then .error (.pastEnd (first + d.bodyLine + 1))
      else .ok (String.ofList (trimLineFeeds (Fence.unlines
        ((d.lines.drop (first + d.bodyLine)).take (Nat.max last (first + 1) - first))))) := by
  rw [nodeText, hp]
  dsimp only
  rcases d.startOf_cases (first + d.bodyLine + 1) with ⟨hn, hs⟩ | ⟨hn, hs⟩ | ⟨k, hk, s, hs, hat⟩
  · omega
  · rw [hs, if_pos (by omega)]
    rfl
  · have hlt := hat.lt
    obtain rfl : k = first + d.bodyLine := by omega
    obtain ⟨n, hn⟩ : ∃ n, Nat.max last (first + 1) - first = n + 1 := by
      have hle : first + 1 ≤ Nat.max last (first + 1) := Nat.le_max_right _ _
      exact ⟨Nat.max last (first + 1) - first - 1, by omega⟩
    have htrim : trimLineFeeds (s.take (n + 1))
        = trimLineFeeds (Fence.unlines ((d.lines.drop (first + d.bodyLine)).take (n + 1))) := by
      rw [hat.take_eq d.lineFeed_not_mem]
      split
      · exact trimLineFeeds_concat _
      · rw [List.append_nil]
    rw [hs, if_neg (by omega), hn, ← htrim]
    rfl

/-- A line is found exactly if the document has one with this number, and then it is where and what
cutting the text at its line feeds gives. So are the lines of a node that starts on one, up to the
last one that is not empty. -/
theorem lines_access (d : Document) :
    (∀ n : Int,
      ((∃ e, d.lineStart n = .error e) ↔ n < 1 ∨ d.lines.length < n) ∧
      ((∃ e, d.line n = .error e) ↔ n < 1 ∨ d.lines.length < n) ∧
      ∀ (k : Nat) (hk : k < d.lines.length), n = k + 1 →
        d.lineStart n = .ok (((d.lines.take k).map List.length).sum + k) ∧
          d.line n = .ok (String.ofList d.lines[k])) ∧
    ∀ (p : Markup.Place) (first last : Nat), p.lines = some (first, last) →
      first + d.bodyLine < d.lines.length → ∃ shown count, d.nodeText p = .ok shown ∧
        Fence.unlines ((d.lines.take (max last (first + 1) + d.bodyLine)).drop (first + d.bodyLine))
          = shown.toList ++ List.replicate count '\n' ∧
        shown.toList.getLast? ≠ some '\n' := by
  refine ⟨fun n => ?_, fun p first last hp hfirst => ?_⟩
  · refine ⟨exists_error_map.trans (d.startOf_isError n), exists_error_map.trans (d.startOf_isError n),
      fun k hk hn => ?_⟩
    obtain ⟨s, hs, hat⟩ := d.exists_startOf hk
    rw [hn, lineStart, line, hs]
    exact ⟨congrArg Except.ok hat.index,
      congrArg (fun l => Except.ok (String.ofList l)) (hat.line_eq d.lineFeed_not_mem hk)⟩
  · have hslice : (d.lines.take (max last (first + 1) + d.bodyLine)).drop (first + d.bodyLine)
        = (d.lines.drop (first + d.bodyLine)).take (Nat.max last (first + 1) - first) := by
      rw [List.drop_take, Nat.add_sub_add_right]
    rw [hslice, d.nodeText_of_some hp, if_neg (Nat.not_le_of_lt hfirst)]
    obtain ⟨count, hcount⟩ := exists_trimLineFeeds_append (Fence.unlines
      ((d.lines.drop (first + d.bodyLine)).take (Nat.max last (first + 1) - first)))
    exact ⟨_, count, rfl, by rw [String.toList_ofList]; exact hcount,
      by rw [String.toList_ofList]; exact getLast?_trimLineFeeds _⟩

theorem lines_access_quoted :
    ∃ d, parse "---\na: b\n---\n> one\n> two\n" none none = .ok d ∧
      d.lineStart 5 = .ok 19 ∧ d.line 5 = .ok "> two" ∧ (∃ e, d.line 7 = .error e) ∧
      ∃ p ∈ d.body.places, p.lines = some (0, 2) ∧ ∃ shown count, d.nodeText p = .ok shown ∧
        "> one\n> two".toList = shown.toList ++ List.replicate count '\n' ∧
        shown.toList.getLast? ≠ some '\n' := by
  have hread : (parse "---\na: b\n---\n> one\n> two\n" none none).toOption.map (fun d =>
      (d.bodyLine, d.lines, d.body.places.any fun p => p.lines == some (0, 2)))
      = some (3, ["---".toList, "a: b".toList, "---".toList, "> one".toList, "> two".toList, []],
        true) := by decide +kernel
  cases hparse : parse "---\na: b\n---\n> one\n> two\n" none none with
  | error e =>
    rw [hparse] at hread
    cases hread
  | ok d =>
    rw [hparse] at hread
    simp only [Except.toOption, Option.map_some, Option.some.injEq, Prod.mk.injEq] at hread
    obtain ⟨hbody, hlines, hplace⟩ := hread
    obtain ⟨p, hp, hspan⟩ := List.any_eq_true.1 hplace
    obtain ⟨haccess, hnode⟩ := lines_access d
    obtain ⟨hstart, hline⟩ := (haccess 5).2.2 4 (by rw [hlines]; decide) rfl
    obtain ⟨shown, count, hshown, htext, hlast⟩ :=
      hnode p 0 2 (beq_iff_eq.1 hspan) (by rw [hlines, hbody]; decide)
    simp only [hlines, hbody] at hstart hline htext
    exact ⟨d, rfl, hstart, hline, (haccess 7).2.1.2 (.inr (by rw [hlines]; decide)), p, hp,
      beq_iff_eq.1 hspan, shown, count, hshown, htext, hlast⟩

end ProposalCheck.Document
