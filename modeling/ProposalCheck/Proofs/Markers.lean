import ProposalCheck.Proofs.Lines
import ProposalCheck.Pattern.Matching
import ProposalCheck.Pattern.Reading

/-!
# Fences as markers

A text is cut into preamble and body where a pattern matches, `Fence.marker`: a fence with the line
breaks around it. `Fence.splitAtMarkers_eq_split` says that this comes to the same as cutting the
lines of the text at its first two fences.

A match takes the line break behind the fence, so that the next match can begin no earlier than at
the end of the line after it. It takes the line break in front of the fence as well. So what is in
front of the first match is without the line break that ends it, and nothing is left of a single
line that is empty.

`Fence.atMarker?` describes the search by what is in front of a match and what follows it. The
engine is compared with it position by position (`Fence.findFrom_marker`), and it with the lines of
the text (`Fence.atMarker?_false`, `Fence.atMarker?_true`).
-/

namespace ProposalCheck

namespace Pattern

/-- Where a match stops. -/
def Outcome.stop? : Outcome → Option Nat
  | .matched stop _ => some stop
  | .failed _ => none

namespace Outcome

@[simp] theorem stop?_matched (stop : Nat) (m : Marks) : (matched stop m).stop? = some stop := rfl

@[simp] theorem stop?_failed (m : Marks) : (failed m).stop? = none := rfl

theorem stop?_orElse {o : Outcome} {next : Marks → Outcome} {x : Option Nat}
    (h : ∀ left, (next left).stop? = x) : (o.orElse next).stop? = o.stop?.or x := by
  cases o with
  | matched stop m => rfl
  | failed left => exact h left

end Outcome

theorem takeOne_append {pre cs : List Char} {test : Char → Bool} (i : Nat) (m : Marks)
    (k : Continuation) :
    takeOne (pre ++ cs).toArray test (pre.length + i) m k
      = match cs[i]? with
        | some c => if test c then k (pre.length + (i + 1)) m else .failed m
        | none => .failed m := by
  have hget : (pre ++ cs).toArray[pre.length + i]? = cs[i]? := by
    simp [List.getElem?_append_right]
  simp only [takeOne, hget]
  rfl

/-- The positions of the first character of a match and past its last one. -/
def Match.span (m : Match) : Nat × Nat := (m.start, m.stop)

theorem span_matchAt? {r : Pattern} {text : Array Char} {start : Nat} :
    (r.matchAt? text start false).map Match.span
      = (r.node.run text false start {} .matched).stop?.map fun stop => (start, stop) := by
  unfold matchAt?
  simp only [Bool.false_and, Bool.false_eq_true, if_false]
  cases r.node.run text false start {} .matched <;> rfl

end Pattern

namespace Fence

/-- The pattern of a fence with the line breaks around it. -/
@[irreducible]
def marker : Pattern := .ofText "(^|\\n)---(\\n|$)"

/-- Cuts a text at the first two markers in it. -/
def splitAtMarkers (source : String) : Except FenceError (String × String) :=
  match marker.findAll source.toList.toArray with
  | [] => .error .missingStart
  | [_] => .error .missingEnd
  | first :: second :: _ =>
    if first.start != 0 then .error .leadingText
    else .ok (String.ofList ((source.toList.take second.start).drop first.stop),
      String.ofList (source.toList.drop second.stop))

/-! ### Markers in a text -/

/-- What follows a fence at the start of a text. -/
def afterFence? : List Char → Option (List Char)
  | ['-', '-', '-'] => some []
  | '-' :: '-' :: '-' :: '\n' :: rest => some rest
  | _ => none

/-- What follows a line break and a fence at the start of a text. -/
def afterNextFence? : List Char → Option (List Char)
  | '\n' :: rest => afterFence? rest
  | _ => none

/-- What follows a marker at the start of a text; `whole` tells that nothing is in front of the
text. -/
def afterMarker? (whole : Bool) (cs : List Char) : Option (List Char) :=
  (if whole then afterFence? cs else none).or (afterNextFence? cs)

/-- What is in front of the first marker in a text, and what follows it. -/
def atMarker? (whole : Bool) (cs : List Char) : Option (List Char × List Char) :=
  match afterMarker? whole cs with
  | some after => some ([], after)
  | none =>
    match cs with
    | [] => none
    | c :: rest => (atMarker? false rest).map fun p => (c :: p.1, p.2)

open Pattern

/-- The marker behind its first group. -/
def dashes : Node :=
  .cat (.char .exact false 45) (.cat (.char .exact false 45) (.cat (.char .exact false 45)
    (.group (some 2) (.alt (.char .exact false 10) (.anchor .finish)))))

theorem node_marker :
    marker.node = .cat (.group (some 1) (.alt (.anchor .start) (.char .exact false 10))) dashes := by
  decide +kernel

theorem same_dash (c : Char) : (Comparison.exact.same 45 c != false) = ('-' == c) := by
  simp [Comparison.same]

theorem same_lineFeed (c : Char) : (Comparison.exact.same 10 c != false) = ('\n' == c) := by
  simp [Comparison.same]

theorem dashes_stop? (pre cs : List Char) (m : Marks) :
    (dashes.run (pre ++ cs).toArray false (pre.length + 0) m .matched).stop?
      = (afterFence? cs).map fun after => (pre ++ cs).length - after.length := by
  simp only [dashes, Node.run, takeOne_append, same_dash, same_lineFeed]
  -- three characters decide about the dashes, and the one behind them about the line break
  rcases cs with _ | ⟨a, _ | ⟨b, _ | ⟨c, cs⟩⟩⟩
  · rfl
  · by_cases ha : '-' = a <;> simp [ha, afterFence?]
  · by_cases ha : '-' = a <;> by_cases hb : '-' = b <;> simp [ha, hb, afterFence?]
  · by_cases h : '-' = a ∧ '-' = b ∧ '-' = c
    · obtain ⟨rfl, rfl, rfl⟩ := h
      rcases cs with _ | ⟨d, cs⟩
      · simp [Anchor.holds, Outcome.orElse, afterFence?]
      · by_cases hd : '\n' = d
        · subst hd
          simp only [List.length_append, List.length_cons, Outcome.orElse, afterFence?]
          simp
          omega
        · simp [Anchor.holds, Outcome.orElse, afterFence?, hd, Ne.symm hd]
    · have hnone : afterFence? (a :: b :: c :: cs) = none := by
        unfold afterFence?
        split <;> simp_all
      rw [hnone]
      by_cases ha : '-' = a
      · by_cases hb : '-' = b
        · have hc : '-' ≠ c := fun hc => h ⟨ha, hb, hc⟩
          simp [hc]
        · simp [hb]
      · simp [ha]

theorem nextFence_stop? (pre cs : List Char) (m : Marks) (f : Nat → Marks → Marks) :
    (takeOne (pre ++ cs).toArray (fun c => Comparison.exact.same 10 c != false) pre.length m
        fun q m => dashes.run (pre ++ cs).toArray false q (f q m) .matched).stop?
      = (afterNextFence? cs).map fun after => (pre ++ cs).length - after.length := by
  simp only [same_lineFeed]
  rw [← Nat.add_zero pre.length, takeOne_append]
  rcases cs with _ | ⟨c, rest⟩
  · rfl
  · by_cases hc : '\n' = c
    · subst hc
      have hfence := dashes_stop? (pre ++ ['\n']) rest (f (pre.length + 1) m)
      simpa [afterNextFence?] using hfence
    · have hnone : afterNextFence? (c :: rest) = none := by
        unfold afterNextFence?
        split <;> simp_all
      rw [hnone]
      simp [hc]

theorem span_matchAt?_marker (pre cs : List Char) :
    (marker.matchAt? (pre ++ cs).toArray pre.length false).map Match.span
      = (afterMarker? pre.isEmpty cs).map fun after =>
          (pre.length, (pre ++ cs).length - after.length) := by
  rw [span_matchAt?, node_marker]
  simp only [Node.run]
  rw [Outcome.stop?_orElse (x := (afterNextFence? cs).map fun after =>
    (pre ++ cs).length - after.length)]
  · have hstart : Anchor.start.holds (pre ++ cs).toArray pre.length = pre.isEmpty := by
      cases pre <;> rfl
    have hfence := dashes_stop? pre cs
    simp only [Nat.add_zero] at hfence
    rw [hstart, afterMarker?]
    cases pre.isEmpty with
    | true => simp [hfence, Option.map_or, Function.comp_def]
    | false => simp [Function.comp_def]
  · intro left
    rw [Outcome.stop?_orElse (x := none) fun _ => rfl, Option.or_none]
    exact nextFence_stop? pre cs _ _

theorem mayStart_marker (c : Option Char) : marker.mayStart c = true := by
  unfold mayStart
  rw [node_marker]
  rfl

theorem findFrom_marker (pre cs : List Char) :
    (marker.findFrom (pre ++ cs).toArray false cs.length pre.length).map Match.span
      = (atMarker? pre.isEmpty cs).map fun p =>
          (pre.length + p.1.length, (pre ++ cs).length - p.2.length) := by
  -- a character with which no marker starts joins what is in front
  induction cs generalizing pre with
  | nil =>
    rw [List.length_nil, findFrom, mayStart_marker, if_pos rfl, span_matchAt?_marker]
    cases h : afterMarker? pre.isEmpty [] <;> simp [atMarker?, h]
  | cons c cs ih =>
    have hspan := span_matchAt?_marker pre (c :: cs)
    rw [List.length_cons, findFrom, mayStart_marker, if_pos rfl]
    cases h : afterMarker? pre.isEmpty (c :: cs) with
    | some after =>
      rw [h] at hspan
      obtain ⟨m, hm, hspan⟩ := Option.map_eq_some_iff.1 hspan
      simp [hm, atMarker?, h, hspan]
    | none =>
      rw [h, Option.map_none, Option.map_eq_none_iff] at hspan
      have hpre : (pre ++ [c]).isEmpty = false := by cases pre <;> rfl
      have hnext := ih (pre ++ [c])
      rw [hpre] at hnext
      simp only [List.append_assoc, List.singleton_append, List.length_append,
        List.length_singleton] at hnext
      rw [hspan, atMarker?, h]
      refine hnext.trans ?_
      cases atMarker? false cs with
      | none => rfl
      | some p =>
        simp only [Option.map_some, List.length_append, List.length_cons]
        congr 2
        omega

theorem eq_append_of_afterFence? {cs after : List Char} (h : afterFence? cs = some after) :
    ∃ mark, mark ≠ [] ∧ cs = mark ++ after := by
  unfold afterFence? at h
  split at h
  · exact ⟨_, List.cons_ne_nil _ _, by rw [← Option.some.inj h, List.append_nil]⟩
  · obtain rfl := Option.some.inj h
    exact ⟨['-', '-', '-', '\n'], List.cons_ne_nil _ _, rfl⟩
  · cases h

theorem eq_append_of_afterMarker? {whole : Bool} {cs after : List Char}
    (h : afterMarker? whole cs = some after) : ∃ mark, mark ≠ [] ∧ cs = mark ++ after := by
  unfold afterMarker? at h
  rcases Option.or_eq_some_iff.1 h with h | ⟨-, h⟩
  · cases whole with
    | true => exact eq_append_of_afterFence? h
    | false => cases h
  · unfold afterNextFence? at h
    split at h
    · obtain ⟨mark, -, rfl⟩ := eq_append_of_afterFence? h
      exact ⟨'\n' :: mark, List.cons_ne_nil _ _, rfl⟩
    · cases h

theorem atMarker?_cons {whole : Bool} {c : Char} {rest : List Char}
    (h : afterMarker? whole (c :: rest) = none) :
    atMarker? whole (c :: rest) = (atMarker? false rest).map fun p => (c :: p.1, p.2) := by
  rw [atMarker?, h]

theorem atMarker?_of_some {whole : Bool} {cs after : List Char}
    (h : afterMarker? whole cs = some after) : atMarker? whole cs = some ([], after) := by
  cases cs <;> rw [atMarker?, h]

theorem atMarker?_whole {whole whole' : Bool} {cs : List Char}
    (h : afterMarker? whole cs = afterMarker? whole' cs) :
    atMarker? whole cs = atMarker? whole' cs := by
  cases cs <;> rw [atMarker?, atMarker?, h]

theorem eq_append_of_atMarker? {whole : Bool} {cs before after : List Char}
    (h : atMarker? whole cs = some (before, after)) :
    ∃ mark, mark ≠ [] ∧ cs = before ++ (mark ++ after) := by
  induction cs generalizing whole before with
  | nil =>
    cases hafter : afterMarker? whole [] with
    | none => simp [atMarker?, hafter] at h
    | some rest =>
      obtain ⟨rfl, rfl⟩ := Prod.mk.inj (Option.some.inj ((atMarker?_of_some hafter).symm.trans h))
      exact eq_append_of_afterMarker? hafter
  | cons c cs ih =>
    cases hafter : afterMarker? whole (c :: cs) with
    | none =>
      rw [atMarker?_cons hafter] at h
      obtain ⟨⟨before', after'⟩, hnext, heq⟩ := Option.map_eq_some_iff.1 h
      obtain ⟨rfl, rfl⟩ := Prod.mk.inj heq
      obtain ⟨mark, hmark, hcs⟩ := ih hnext
      exact ⟨mark, hmark, by rw [hcs, List.cons_append]⟩
    | some rest =>
      obtain ⟨rfl, rfl⟩ := Prod.mk.inj (Option.some.inj ((atMarker?_of_some hafter).symm.trans h))
      exact eq_append_of_afterMarker? hafter

theorem findAllFrom_marker_of_none (pre cs : List Char) (fuel : Nat)
    (h : atMarker? pre.isEmpty cs = none) :
    marker.findAllFrom (pre ++ cs).toArray (fuel + 1) false pre.length = [] := by
  have hfind := findFrom_marker pre cs
  rw [h, Option.map_none, Option.map_eq_none_iff] at hfind
  have hsize : (pre ++ cs).toArray.size - pre.length = cs.length := by simp
  rw [findAllFrom, hsize, hfind]
  split <;> rfl

theorem findAllFrom_marker_of_some (pre cs : List Char) (fuel : Nat) {before after : List Char}
    (h : atMarker? pre.isEmpty cs = some (before, after)) :
    ∃ m mark, mark ≠ [] ∧ cs = before ++ (mark ++ after) ∧ m.start = (pre ++ before).length ∧
      m.stop = (pre ++ (before ++ mark)).length ∧
      marker.findAllFrom (pre ++ cs).toArray (fuel + 1) false pre.length
        = m :: marker.findAllFrom (pre ++ cs).toArray fuel false m.stop := by
  obtain ⟨mark, hmark, hcs⟩ := eq_append_of_atMarker? h
  have hfind := findFrom_marker pre cs
  rw [h, Option.map_some] at hfind
  obtain ⟨m, hm, hspan⟩ := Option.map_eq_some_iff.1 hfind
  obtain ⟨hstart, hstop⟩ := Prod.mk.inj hspan
  have hlength : 0 < mark.length := List.length_pos_iff.2 hmark
  have hsize : (pre ++ cs).toArray.size - pre.length = cs.length := by simp
  have hlt : ¬ (pre ++ cs).toArray.size < pre.length := by simp
  have hne : (m.stop == m.start) = false := by
    rw [hstart, hstop, hcs, beq_eq_false_iff_ne]
    simp only [List.length_append]
    omega
  refine ⟨m, mark, hmark, hcs, by simpa using hstart, ?_, ?_⟩
  · rw [hstop, hcs]
    simp only [List.length_append]
    omega
  · rw [findAllFrom, if_neg hlt, hsize, hm]
    simp only [hne]

/-- The texts in front of the first fence, between the fences and behind them. -/
theorem splitAtMarkers_eq (source : String) :
    splitAtMarkers source
      = match atMarker? true source.toList with
        | none => .error .missingStart
        | some (before, rest) =>
          match atMarker? false rest with
          | none => .error .missingEnd
          | some (inner, body) =>
            if before = [] then .ok (String.ofList inner, String.ofList body)
            else .error .leadingText := by
  unfold splitAtMarkers findAll
  generalize source.toList = cs
  cases hfirst : atMarker? true cs with
  | none =>
    have hfind := findAllFrom_marker_of_none [] cs (2 * cs.toArray.size + 1) hfirst
    rw [List.nil_append, List.length_nil] at hfind
    rw [hfind]
  | some p =>
    obtain ⟨before, rest⟩ := p
    obtain ⟨m, mark, hmark, hcs, hstart, hstop, hfind⟩ :=
      findAllFrom_marker_of_some [] cs (2 * cs.toArray.size + 1) hfirst
    have hpre : (before ++ mark).isEmpty = false := by simp [hmark]
    rw [← List.append_assoc] at hcs
    subst hcs
    rw [List.nil_append, List.length_nil] at hfind
    simp only [List.nil_append] at hstart hstop
    rw [hfind, hstop]
    simp only
    cases hsecond : atMarker? false rest with
    | none =>
      rw [← hpre] at hsecond
      rw [findAllFrom_marker_of_none _ _ _ hsecond]
    | some q =>
      obtain ⟨inner, body⟩ := q
      rw [← hpre] at hsecond
      obtain ⟨m', mark', -, rfl, hstart', hstop', hfind'⟩ :=
        findAllFrom_marker_of_some _ _ (2 * (before ++ mark ++ rest).toArray.size) hsecond
      rw [hfind']
      have hinner : ((before ++ mark ++ (inner ++ (mark' ++ body))).take
          (before ++ mark ++ inner).length).drop (before ++ mark).length = inner := by
        rw [← List.append_assoc _ inner, List.take_left, List.drop_left]
      have hbody : (before ++ mark ++ (inner ++ (mark' ++ body))).drop
          (before ++ mark ++ (inner ++ mark')).length = body := by
        rw [← List.append_assoc inner, ← List.append_assoc _ (inner ++ mark'), List.drop_left]
      simp only [hstart, hstop, hstart', hstop', hinner, hbody, bne_iff_ne, ne_eq,
        List.length_eq_zero_iff, ite_not]

/-! ### Markers and lines -/

theorem charLines_fence : Text.charLines ['-', '-', '-'] = [['-', '-', '-']] := by decide

theorem charLines_fence_lineFeed (rest : List Char) :
    Text.charLines ('-' :: '-' :: '-' :: '\n' :: rest) = ['-', '-', '-'] :: Text.charLines rest := by
  rw [Text.charLines_cons (by decide) (Text.charLines_cons (by decide)
    (Text.charLines_cons (by decide) (Text.charLines_lineFeed rest)))]

theorem afterFence?_eq {cs l : List Char} {ls : List (List Char)} (h : Text.charLines cs = l :: ls) :
    afterFence? cs = if isFence l then some (unlines ls) else none := by
  have hcs : cs = unlines (l :: ls) := by rw [← h, unlines_charLines]
  by_cases hl : l = ['-', '-', '-']
  · subst hl
    cases ls with
    | nil => rw [hcs, unlines_singleton]; rfl
    | cons f fs => rw [hcs, unlines_cons_cons]; rfl
  · have hfence : isFence l = false := by simpa [isFence] using hl
    rw [hfence, if_neg Bool.false_ne_true]
    unfold afterFence?
    split
    · rw [charLines_fence] at h
      exact absurd (List.cons.inj h).1.symm hl
    · rw [charLines_fence_lineFeed] at h
      exact absurd (List.cons.inj h).1.symm hl
    · rfl

/-- The first marker behind the first line of a text is the first fence among the other lines. -/
theorem atMarker?_false {cs l : List Char} {ls : List (List Char)} (h : Text.charLines cs = l :: ls) :
    atMarker? false cs = (cut ls).2.map fun after => (unlines (l :: (cut ls).1), unlines after) := by
  induction cs generalizing l ls with
  | nil =>
    obtain ⟨rfl, rfl⟩ := List.cons.inj h
    rfl
  | cons c rest ih =>
    obtain ⟨f, fs, hrest⟩ := Text.exists_charLines rest
    by_cases hc : c = '\n'
    · subst hc
      rw [Text.charLines_lineFeed, hrest] at h
      obtain ⟨rfl, rfl⟩ := List.cons.inj h
      have hmarker : afterMarker? false ('\n' :: rest) = afterFence? rest := rfl
      rw [afterFence?_eq hrest] at hmarker
      rw [cut_cons]
      cases hf : isFence f with
      | true =>
        rw [hf, if_pos rfl] at hmarker
        rw [atMarker?_of_some hmarker]
        rfl
      | false =>
        rw [hf, if_neg Bool.false_ne_true] at hmarker
        rw [atMarker?_cons hmarker, ih hrest]
        cases (cut fs).2 <;> simp
    · rw [Text.charLines_cons hc hrest] at h
      obtain ⟨rfl, rfl⟩ := List.cons.inj h
      have hmarker : afterMarker? false (c :: rest) = none := by
        simp [afterMarker?, afterNextFence?, hc]
      rw [atMarker?_cons hmarker, ih hrest]
      cases (cut fs).2 <;> simp [unlines_cons_append]

/-- The first marker in a whole text is the first fence among its lines. -/
theorem atMarker?_true (cs : List Char) :
    atMarker? true cs = (cut (Text.charLines cs)).2.map fun after =>
      (unlines (cut (Text.charLines cs)).1, unlines after) := by
  obtain ⟨l, ls, h⟩ := Text.exists_charLines cs
  have hfence := afterFence?_eq h
  rw [h, cut_cons]
  cases hl : isFence l with
  | true =>
    rw [hl, if_pos rfl] at hfence
    have hmarker : afterMarker? true cs = some (unlines ls) := by simp [afterMarker?, hfence]
    rw [atMarker?_of_some hmarker]
    rfl
  | false =>
    rw [hl, if_neg Bool.false_ne_true] at hfence
    have hmarker : afterMarker? true cs = afterMarker? false cs := by simp [afterMarker?, hfence]
    rw [atMarker?_whole hmarker, atMarker?_false h]
    rfl

theorem not_mem_of_mem_cut {ls after : List (List Char)} (h : (cut ls).2 = some after) :
    ∀ l ∈ after, l ∈ ls := by
  induction ls with
  | nil => cases h
  | cons f fs ih =>
    rw [cut_cons] at h
    intro l hl
    split at h
    · obtain rfl := Option.some.inj h
      exact List.mem_cons_of_mem _ hl
    · exact List.mem_cons_of_mem _ (ih h l hl)

/-- Cutting a text at its first two markers is cutting it at its first two fences. -/
theorem splitAtMarkers_eq_split (source : String) : splitAtMarkers source = split source := by
  rw [splitAtMarkers_eq, atMarker?_true, split, splitLines]
  cases hcut : cut (Text.charLines source.toList) with
  | mk before after? =>
    rcases after? with _ | _ | ⟨first, rest⟩
    · rfl
    · rfl
    · have hlines : Text.charLines (unlines (first :: rest)) = first :: rest := by
        have hafter : (cut (Text.charLines source.toList)).2 = some (first :: rest) := by rw [hcut]
        exact charLines_unlines (List.cons_ne_nil _ _) fun l hl =>
          Text.not_mem_of_mem_split (not_mem_of_mem_cut hafter l hl)
      simp only [Option.map_some, atMarker?_false hlines]
      cases hrest : cut rest with
      | mk inner body? =>
        cases body? with
        | none => rfl
        | some body =>
          by_cases hbefore : before = [] ∨ before = [[]]
          · simp [unlines_eq_nil, hbefore, Except.map]
          · simp [unlines_eq_nil, hbefore, Except.map]

end Fence

end ProposalCheck
