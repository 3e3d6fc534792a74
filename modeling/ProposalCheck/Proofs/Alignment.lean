import ProposalCheck.Proofs.Views

/-!
# Lines of a text below each other

A text that is read from several lines is made of what is left of each of them when its indentation is
taken away. So its lines stand on lines that follow each other (`LinedUp`), where white space in front
of the text may take up some lines and put a space in the place of a tab
(`Block.Context.Views.linedUp_block`).
-/

namespace ProposalCheck

namespace Text

/-- With more text behind, only the last line may get longer. -/
theorem exists_line_append_right (cs after : List Char) {k : Nat} {l : List Char}
    (h : (charLines cs)[k]? = some l) : ∃ l', (charLines (cs ++ after))[k]? = some l' ∧ l <+: l' := by
  induction cs generalizing k l with
  | nil =>
    obtain ⟨first, more, hlines⟩ := exists_charLines after
    cases k with
    | zero =>
      obtain rfl := Option.some.inj h
      exact ⟨first, by rw [List.nil_append, hlines]; rfl, List.nil_prefix⟩
    | succ k => cases h
  | cons c rest ih =>
    by_cases hc : c = '\n'
    · rw [hc, charLines_lineFeed] at h
      rw [hc, List.cons_append, charLines_lineFeed]
      cases k with
      | zero =>
        obtain rfl := Option.some.inj h
        exact ⟨[], rfl, List.nil_prefix⟩
      | succ k => exact ih h
    · obtain ⟨first, more, hlines⟩ := exists_charLines rest
      obtain ⟨first', more', hlines'⟩ := exists_charLines (rest ++ after)
      rw [charLines_cons hc hlines] at h
      rw [List.cons_append, charLines_cons hc hlines']
      rw [hlines, hlines'] at ih
      cases k with
      | zero =>
        obtain rfl := Option.some.inj h
        obtain ⟨l', hl', hprefix⟩ := ih (k := 0) rfl
        obtain rfl := Option.some.inj hl'
        exact ⟨_, rfl, List.cons_prefix_cons.2 ⟨rfl, hprefix⟩⟩
      | succ k => exact ih (k := k + 1) h

/-- With more text in front, the lines move down by its line breaks, and only the first one may get
longer. -/
theorem exists_line_append_left (before cs : List Char) {k : Nat} {l : List Char}
    (h : (charLines cs)[k]? = some l) :
    ∃ l', (charLines (before ++ cs))[before.count '\n' + k]? = some l' ∧ l <:+ l' := by
  induction before with
  | nil => exact ⟨l, by simpa using h, List.suffix_refl l⟩
  | cons c rest ih =>
    obtain ⟨l', hl', hsuffix⟩ := ih
    by_cases hc : c = '\n'
    · rw [hc, List.cons_append, charLines_lineFeed, List.count_cons_self, Nat.add_right_comm]
      exact ⟨l', hl', hsuffix⟩
    · obtain ⟨first, more, hlines⟩ := exists_charLines (rest ++ cs)
      rw [hlines] at hl'
      rw [List.cons_append, charLines_cons hc hlines, List.count_cons_of_ne hc]
      generalize rest.count '\n' + k = n at hl'
      cases n with
      | zero =>
        obtain rfl := Option.some.inj hl'
        exact ⟨_, rfl, hsuffix.trans (List.suffix_cons c _)⟩
      | succ n => exact ⟨l', hl', hsuffix⟩

/-- The lines of a part of a text are parts of lines of the text, from the line on in which the part
starts. -/
theorem exists_line_append (before cs after : List Char) {k : Nat} {l : List Char}
    (h : (charLines cs)[k]? = some l) :
    ∃ l', (charLines (before ++ cs ++ after))[before.count '\n' + k]? = some l' ∧ l <:+: l' := by
  obtain ⟨l', hl', hprefix⟩ := exists_line_append_right cs after h
  obtain ⟨l'', hl'', hsuffix⟩ := exists_line_append_left before (cs ++ after) hl'
  rw [List.append_assoc]
  exact ⟨l'', hl'', hprefix.isInfix.trans hsuffix.isInfix⟩

end Text

theorem Fence.unlines_map_range (f : Nat → List Char) (n : Nat) :
    unlines ((List.range n).map f)
      = (List.range n).flatMap fun k => f k ++ if k + 1 < n then ['\n'] else [] := by
  induction n generalizing f with
  | zero => rfl
  | succ n ih =>
    rw [List.range_succ_eq_map, List.map_cons, List.flatMap_cons, List.map_map, List.flatMap_map]
    have hrest := ih (f ∘ Nat.succ)
    by_cases hn : n = 0
    · subst hn
      simp
    · rw [unlines_cons _ (by simpa using hn), hrest, if_pos (by omega), List.append_assoc]
      simp

namespace Markup

theorem infix_trimWhite (cs : List Char) : trimWhite cs <:+: cs := by
  have hback := List.dropWhile_suffix isWhite (l := (cs.dropWhile isWhite).reverse)
  have hfront : trimWhite cs <+: cs.dropWhile isWhite := by
    rw [← List.reverse_suffix]
    simpa [trimWhite] using hback
  exact hfront.isInfix.trans (List.dropWhile_suffix isWhite).isInfix

theorem infix_dropWhile (test : Char → Bool) {l l' : List Char} (h : l' <:+: l) :
    l'.dropWhile test <:+: l.dropWhile test := by
  obtain ⟨before, after, rfl⟩ := h
  rw [List.append_assoc, List.dropWhile_append]
  split
  · rw [List.dropWhile_append]
    split
    · rename_i hnone
      rw [List.isEmpty_iff.1 hnone]
      exact List.nil_infix
    · exact (List.prefix_append _ after).isInfix
  · exact ((List.dropWhile_suffix test).isInfix.trans (List.prefix_append _ after).isInfix).trans
      (List.suffix_append _ _).isInfix

/-- The lines of a text stand on lines that follow each other, behind some of the lines it is read from:
each of them is a part of its line, but for spaces in front. -/
def LinedUp (ls : List (List Char)) (span : LineSpan) (skipped : Nat) (cs : List Char) : Prop :=
  ∀ (k : Nat) (l : List Char), (Text.charLines cs)[k]? = some l →
    span.1 + skipped + k < span.2 ∧
      l.dropWhile (· == ' ') <:+: ls[span.1 + skipped + k]?.getD []

theorem LinedUp.of_infix {ls : List (List Char)} {span : LineSpan} {skipped : Nat} {cs cs' : List Char}
    (h : LinedUp ls span skipped cs) (hcs : cs' <:+: cs) : ∃ skipped', LinedUp ls span skipped' cs' := by
  obtain ⟨before, after, rfl⟩ := hcs
  refine ⟨skipped + before.count '\n', fun k l hl => ?_⟩
  obtain ⟨l', hl', hinfix⟩ := Text.exists_line_append before cs' after hl
  obtain ⟨hlt, hpart⟩ := h _ _ hl'
  have hline : span.1 + (skipped + before.count '\n') + k
      = span.1 + skipped + (before.count '\n' + k) := by omega
  rw [hline]
  exact ⟨hlt, (infix_dropWhile _ hinfix).trans hpart⟩

namespace Block

variable {text : Array Char} {ls : List (List Char)} {ctx : Context}

/-- What is left of a line, perhaps with spaces in front of it. -/
def IsRow (source row : List Char) : Prop :=
  ∃ count s, row = List.replicate count ' ' ++ s ∧ s <:+ source

theorem IsRow.lineFeed_not_mem {source row : List Char} (h : IsRow source row) (hsource : '\n' ∉ source) :
    '\n' ∉ row := by
  obtain ⟨count, s, rfl, hs⟩ := h
  rw [List.mem_append, not_or]
  exact ⟨fun hmem => absurd (List.eq_of_mem_replicate hmem) (by decide), fun hmem => hsource (hs.mem hmem)⟩

theorem IsRow.infix_dropWhile {source row : List Char} (h : IsRow source row) :
    row.dropWhile (· == ' ') <:+: source := by
  obtain ⟨count, s, rfl, hs⟩ := h
  rw [List.dropWhile_append_of_pos fun c hc => by simp [List.eq_of_mem_replicate hc]]
  exact ((List.dropWhile_suffix _).trans hs).isInfix

namespace Context

/-- Taking away indentation stops at the end of the line. -/
theorem unindent_le (ctx : Context) {l : Line} (hcontent : l.content ≤ l.stop)
    (hend : ∀ c, ctx.text[l.stop]? = some c → isSpace c = false) (indent : Int) (last fuel : Nat)
    {p : Nat} (column : Int) (hp : p ≤ l.stop) :
    (ctx.unindent l indent last fuel p column).1 ≤ l.stop := by
  induction fuel generalizing p column with
  | zero => exact hp
  | succ fuel ih =>
    have hlt {c : Char} (hc : ctx.text[p]? = some c) (hspace : isSpace c = true) : p < l.stop := by
      refine Nat.lt_of_le_of_ne hp ?_
      rintro rfl
      rw [hend c hc] at hspace
      cases hspace
    unfold unindent
    split
    · exact hp
    · split
      · rename_i hc
        exact ih _ (hlt hc rfl)
      · rename_i hc
        exact ih _ (hlt hc rfl)
      · split
        · rename_i hmasked
          exact ih _ (Nat.lt_of_lt_of_le hmasked hcontent)
        · exact hp

theorem Views.exists_unindented (h : ctx.Views text ls) (i : Nat) (indent : Int) (ending : Bool)
    (hending : ending = true → i + 1 < ls.length) :
    ∃ row, IsRow (ls[i]?.getD []) row ∧
      ctx.unindented i indent ending = row ++ if ending then ['\n'] else [] := by
  have hline := h.line i
  have hle := unindent_le ctx hline.content_le (fun c hc => hline.not_isSpace (h.text_eq ▸ hc))
    indent (if ending then (ctx.line i).stop + 1 else (ctx.line i).stop)
    ((if ending then (ctx.line i).stop + 1 else (ctx.line i).stop) - (ctx.line i).start) 0
    (Nat.le_trans (ctx.line i).start_le hline.content_le)
  have hge := le_unindent ctx (ctx.line i) indent
    (if ending then (ctx.line i).stop + 1 else (ctx.line i).stop)
    ((if ending then (ctx.line i).stop + 1 else (ctx.line i).stop) - (ctx.line i).start)
    (ctx.line i).start 0
  unfold Context.unindented
  dsimp only
  generalize ctx.unindent _ _ _ _ _ _ = reached at hle hge
  obtain ⟨p, column⟩ := reached
  refine ⟨_, ⟨(column - indent).toNat, slice text p (ctx.line i).stop, rfl,
    (suffix_slice text hge _).trans hline.suffix⟩, ?_⟩
  rw [h.text_eq, List.append_assoc]
  cases ending with
  | false => simp
  | true =>
    rw [if_pos rfl, slice_succ text hle, hline.ending, if_pos (hending rfl)]
    rfl

/-- The text of some lines has a row for each of them. -/
theorem Views.exists_rows (h : ctx.Views text ls) (start : Nat) {stop : Nat} (hstop : stop ≤ ls.length)
    (indent : Int) : ∃ rows : Nat → List Char,
      ctx.block start stop indent false = Fence.unlines ((List.range (stop - start)).map rows) ∧
        ∀ k, IsRow (ls[start + k]?.getD []) (rows k) := by
  have hrow (k : Nat) := h.exists_unindented (start + k) indent
    (decide (start + k + 1 < stop) || false) fun hlt => by
      simp only [Bool.or_false, decide_eq_true_eq] at hlt
      omega
  choose rows hrows hblock using hrow
  refine ⟨rows, ?_, hrows⟩
  rw [Fence.unlines_map_range, block]
  refine congrArg (List.flatMap · _) (funext fun k => ?_)
  rw [hblock]
  have hlast : (decide (start + k + 1 < stop) || false) = true ↔ k + 1 < stop - start := by
    simp only [Bool.or_false, decide_eq_true_eq]
    omega
  simp only [hlast]

/-- The text of some lines, less the white space at its ends, stands on lines that follow each other. -/
theorem Views.linedUp_block (h : ctx.Views text ls) {start stop : Nat} (hlt : start < stop)
    (hstop : stop ≤ ls.length) (indent : Int) :
    ∃ skipped, LinedUp ls (start, stop) skipped (trimWhite (ctx.block start stop indent false)) := by
  obtain ⟨rows, hblock, hrows⟩ := h.exists_rows start hstop indent
  suffices hlined : LinedUp ls (start, stop) 0 (ctx.block start stop indent false) from
    hlined.of_infix (infix_trimWhite _)
  intro k l hl
  have hsource (k : Nat) : '\n' ∉ ls[start + k]?.getD [] := by
    cases hl : ls[start + k]? with
    | none => exact List.not_mem_nil
    | some l => exact h.lineFeed_not_mem l (List.mem_of_getElem? hl)
  have hlines : Text.charLines (ctx.block start stop indent false)
      = (List.range (stop - start)).map rows := by
    rw [hblock, Fence.charLines_unlines]
    · simpa using Nat.sub_ne_zero_of_lt hlt
    · exact List.forall_mem_map.2 fun k _ => (hrows k).lineFeed_not_mem (hsource k)
  rw [hlines, List.getElem?_map] at hl
  obtain ⟨j, hj, rfl⟩ := Option.map_eq_some_iff.1 hl
  obtain ⟨hk, rfl⟩ := List.getElem?_eq_some_iff.1 hj
  rw [List.length_range] at hk
  rw [List.getElem_range]
  exact ⟨by dsimp only; omega, (hrows k).infix_dropWhile⟩

end Context

end Block

end Markup

end ProposalCheck
