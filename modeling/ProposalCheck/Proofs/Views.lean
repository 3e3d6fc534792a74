import Mathlib.Data.List.Flatten
import ProposalCheck.Markup.Block.Reading
import ProposalCheck.Proofs.Lines

/-!
# Views of lines

Inside quotes, items of lists and footnotes, blocks are read from views of the lines of a text. Each
line of a view is what is behind the markers on the line of the text with the same number
(`Views`), so that what a reader cuts out of some lines of a view is written on these lines of the
text (`Context.Views.writtenOn_block`, `Context.Views.writtenOn_line`). Spaces may be put in the place
of a tab, and backslashes and blanks may be left out.
-/

namespace ProposalCheck.Markup

theorem slice_eq (text : Array Char) (start stop : Nat) :
    slice text start stop = (text.toList.drop start).take (stop - start) := by
  rw [slice, Array.toList_extract, List.extract_eq_take_drop]

theorem slice_sublist (text : Array Char) {start p : Nat} (h : start ≤ p) {stop stop' : Nat}
    (hstop : stop ≤ stop') : (slice text p stop).Sublist (slice text start stop') := by
  rw [slice_eq, slice_eq]
  have hdrop : text.toList.drop p = (text.toList.drop start).drop (p - start) := by
    rw [List.drop_drop, Nat.add_sub_cancel' h]
  have hcount : stop' - p = stop' - start - (p - start) := by omega
  refine (List.take_sublist_take_left (Nat.sub_le_sub_right hstop p)).trans ?_
  rw [hdrop, hcount, ← List.drop_take]
  exact List.drop_sublist _ _

theorem suffix_slice (text : Array Char) {start p : Nat} (h : start ≤ p) (stop : Nat) :
    slice text p stop <:+ slice text start stop := by
  rw [slice_eq, slice_eq, ← List.drop_take, ← List.drop_take]
  exact List.drop_suffix_drop_left _ h

theorem slice_succ (text : Array Char) {start stop : Nat} (h : start ≤ stop) :
    slice text start (stop + 1) = slice text start stop ++ text[stop]?.toList := by
  rw [slice_eq, slice_eq, Nat.sub_add_comm h, List.take_add_one, List.getElem?_drop, Nat.add_sub_cancel' h,
    Array.getElem?_toList]

theorem trimWhite_sublist (cs : List Char) : (trimWhite cs).Sublist cs := by
  have hback := (List.dropWhile_sublist isWhite (l := (cs.dropWhile isWhite).reverse)).reverse
  rw [List.reverse_reverse] at hback
  exact hback.trans (List.dropWhile_sublist isWhite)

/-- Characters without spaces and line feeds. -/
def ink (cs : List Char) : List Char :=
  cs.filter fun c => c != ' ' && c != '\n'

@[simp] theorem ink_append (a b : List Char) : ink (a ++ b) = ink a ++ ink b := by
  rw [ink, List.filter_append, ink, ink]

theorem ink_sublist (cs : List Char) : (ink cs).Sublist cs :=
  List.filter_sublist

@[simp] theorem ink_ink (cs : List Char) : ink (ink cs) = ink cs := by
  simp [ink]

theorem ink_mono {a b : List Char} (h : a.Sublist b) : (ink a).Sublist (ink b) :=
  h.filter _

theorem ink_replicate_space (count : Nat) : ink (List.replicate count ' ') = [] := by
  simp [ink]

/-- Everything in a text but spaces and line feeds stands on some lines, in the same order. -/
def WrittenOn (ls : List (List Char)) (span : LineSpan) (cs : List Char) : Prop :=
  (ink cs).Sublist ((ls.drop span.1).take (span.2 - span.1)).flatten

section

variable {ls : List (List Char)} {cs : List Char}

theorem WrittenOn.mono {span : LineSpan} {a : List Char} (h : WrittenOn ls span cs)
    (ha : a.Sublist cs) : WrittenOn ls span a :=
  (ink_mono ha).trans h

theorem flatten_take_drop (ls : List (List Char)) (start count : Nat) :
    ((ls.drop start).take count).flatten
      = (List.range count).flatMap fun k => ls[start + k]?.getD [] := by
  induction count with
  | zero => rfl
  | succ count ih =>
    rw [List.take_add_one, List.flatten_append, ih, List.range_succ, List.flatMap_append,
      List.flatMap_singleton, List.getElem?_drop]
    cases ls[start + count]? <;> simp

theorem writtenOn_line {i : Nat} (h : (ink cs).Sublist (ls[i]?.getD [])) :
    WrittenOn ls (i, i + 1) cs := by
  rw [WrittenOn, flatten_take_drop, Nat.add_sub_cancel_left]
  simpa using h

end

namespace Block

variable {text : Array Char} {ls : List (List Char)} {source : List Char}

/-- A line of a view is behind the markers on the line of the text with the same number, and ends where
that one ends. -/
structure Line.IsOn (text : Array Char) (ls : List (List Char)) (i : Nat) (l : Line) : Prop where
  suffix : slice text l.start l.stop <:+ ls[i]?.getD []
  content_le : l.content ≤ l.stop
  ending : text[l.stop]? = if i + 1 < ls.length then some '\n' else none

namespace Line

variable {i : Nat} {l l' : Line}

theorem start_le (l : Line) : l.start ≤ l.content :=
  Nat.le_add_right _ _

theorem IsOn.of_le (h : l.IsOn text ls i) (hstart : l.start ≤ l'.start)
    (hcontent : l'.content ≤ l'.stop) (hstop : l'.stop = l.stop) : l'.IsOn text ls i where
  suffix := by
    rw [hstop]
    exact (suffix_slice text hstart _).trans h.suffix
  content_le := hcontent
  ending := by rw [hstop, h.ending]

/-- What is cut out of a line, perhaps with its ending, is written on it. -/
theorem IsOn.slice (h : l.IsOn text ls i) {p stop : Nat} (hp : l.start ≤ p)
    (hstop : stop ≤ l.stop + 1) : (ink (Markup.slice text p stop)).Sublist (ls[i]?.getD []) := by
  have hending : ink text[l.stop]?.toList = [] := by
    rw [h.ending]
    split <;> rfl
  refine (ink_mono (slice_sublist text hp hstop)).trans ?_
  rw [slice_succ text (Nat.le_trans l.start_le h.content_le), ink_append, hending, List.append_nil]
  exact (ink_sublist _).trans h.suffix.sublist

/-- There are blanks no more where a line ends. -/
theorem IsOn.not_isSpace (h : l.IsOn text ls i) {c : Char} (hc : text[l.stop]? = some c) :
    isSpace c = false := by
  rw [h.ending] at hc
  split at hc
  · obtain rfl := Option.some.inj hc
    rfl
  · cases hc

end Line

/-- The lines of a view are on the lines of a text with the same numbers. Only the last one may be
missing. -/
structure Views (text : Array Char) (ls : List (List Char)) (lines : Array Line) : Prop where
  isOn : ∀ (i : Nat) (l : Line), lines[i]? = some l → l.IsOn text ls i
  length_le : ls.length ≤ lines.size + 1

theorem Views.set {lines : Array Line} {i : Nat} {l : Line} (h : Views text ls lines)
    (hl : l.IsOn text ls i) : Views text ls (lines.setIfInBounds i l) where
  isOn j l' hl' := by
    rw [Array.getElem?_setIfInBounds] at hl'
    split at hl'
    · rename_i hij
      subst hij
      split at hl'
      · obtain rfl := Option.some.inj hl'
        exact hl
      · cases hl'
    · exact h.isOn j l' hl'
  length_le := by
    rw [Array.size_setIfInBounds]
    exact h.length_le

/-- A reader of blocks looks at a view of a text, and goes no further than its lines. -/
structure Context.Views (text : Array Char) (ls : List (List Char)) (ctx : Context) : Prop where
  text_eq : ctx.text = text
  lines : Block.Views text ls ctx.lines
  limit_le : ctx.limit ≤ ls.length
  lineFeed_not_mem : ∀ l ∈ ls, '\n' ∉ l

namespace Context

variable {ctx : Context}

theorem Views.line (h : ctx.Views text ls) (i : Nat) : (ctx.line i).IsOn text ls i := by
  unfold Context.line
  cases hl : ctx.lines[i]? with
  | none =>
    have hlast : ¬ i + 1 < ls.length := by
      have hsize := Array.getElem?_eq_none_iff.1 hl
      have hlength := h.lines.length_le
      omega
    refine ⟨?_, Nat.le_refl _, ?_⟩
    · rw [Option.getD_none, slice_eq, Nat.sub_self, List.take_zero]
      exact List.nil_suffix
    · rw [Option.getD_none, h.text_eq, if_neg hlast]
      exact Array.getElem?_eq_none (Nat.le_refl _)
  | some l => exact h.lines.isOn i l hl

theorem Views.lineText (h : ctx.Views text ls) (i : Nat) :
    (ink (ctx.lineText i)).Sublist (ls[i]?.getD []) := by
  rw [Context.lineText, h.text_eq]
  exact (h.line i).slice (Nat.le_add_right _ _) (Nat.le_succ _)

/-- What is cut out of a line of a view is written on this line. -/
theorem Views.writtenOn_line (h : ctx.Views text ls) {i : Nat} {cs : List Char}
    (hcs : cs.Sublist (ctx.lineText i)) : WrittenOn ls (i, i + 1) cs :=
  Markup.writtenOn_line ((ink_mono hcs).trans (h.lineText i))

theorem le_unindent (ctx : Context) (l : Line) (indent : Int) (last fuel p : Nat) (column : Int) :
    p ≤ (ctx.unindent l indent last fuel p column).1 := by
  induction fuel generalizing p column with
  | zero => exact Nat.le_refl p
  | succ fuel ih =>
    unfold unindent
    split
    · exact Nat.le_refl p
    · split
      · exact Nat.le_of_succ_le (ih _ _)
      · exact Nat.le_of_succ_le (ih _ _)
      · split
        · exact Nat.le_of_succ_le (ih _ _)
        · exact Nat.le_refl p

theorem Views.unindented (h : ctx.Views text ls) (i : Nat) (indent : Int) (ending : Bool) :
    (ink (ctx.unindented i indent ending)).Sublist (ls[i]?.getD []) := by
  unfold Context.unindented
  dsimp only
  rw [ink_append, ink_replicate_space, List.nil_append, h.text_eq]
  refine (h.line i).slice (le_unindent ctx _ _ _ _ _ _) ?_
  split
  · exact Nat.le_refl _
  · exact Nat.le_succ _

/-- What is cut out of some lines of a view is written on these lines. -/
theorem Views.writtenOn_block (h : ctx.Views text ls) {start stop : Nat} {indent : Int} {ending : Bool}
    {cs : List Char} (hcs : cs.Sublist (ctx.block start stop indent ending)) :
    WrittenOn ls (start, stop) cs := by
  refine WrittenOn.mono ?_ hcs
  rw [WrittenOn, flatten_take_drop, block, ink, List.filter_flatMap]
  exact List.Sublist.flatMap_right _ fun k _ => h.unindented _ _ _

end Context

/-! ### The lines of a text -/

theorem le_skipColumns (text : Array Char) (base : Int) (stop fuel p : Nat) (column : Int) :
    p ≤ (skipColumns text base stop fuel p column).1 := by
  induction fuel generalizing p column with
  | zero => exact Nat.le_refl p
  | succ fuel ih =>
    unfold skipColumns
    split
    · exact Nat.le_refl p
    · split
      · exact Nat.le_of_succ_le (ih _ _)
      · exact Nat.le_of_succ_le (ih _ _)
      · exact Nat.le_refl p

theorem skipColumns_le (text : Array Char) (base : Int) {stop : Nat} (fuel : Nat) {p : Nat}
    (column : Int) (h : p ≤ stop) : (skipColumns text base stop fuel p column).1 ≤ stop := by
  induction fuel generalizing p column with
  | zero => exact h
  | succ fuel ih =>
    unfold skipColumns
    split
    · exact h
    · rename_i hp
      split
      · exact ih _ (Nat.lt_of_not_le hp)
      · exact ih _ (Nat.lt_of_not_le hp)
      · exact h

/-- Content that is found by going on over blanks starts on its line. -/
theorem content_of_skipColumns_le (text : Array Char) (base column : Int) {start stop p : Nat}
    (fuel : Nat) (hstart : start ≤ stop) (hp : p ≤ stop) :
    start + ((skipColumns text base stop fuel p column).1 - start) ≤ stop := by
  have hle := skipColumns_le text base fuel column hp
  omega

theorem IsOn.shift {i : Nat} {l : Line} (h : l.IsOn text ls i) : l.IsOn text (source :: ls) (i + 1) where
  suffix := h.suffix
  content_le := h.content_le
  ending := by simp only [h.ending, List.length_cons, Nat.add_lt_add_iff_right]

theorem isOn_lineBetween {start : Nat} {line rest : List Char} {more : List (List Char)}
    (h : text.toList.drop start = line ++ rest)
    (hrest : rest.head? = if more = [] then none else some '\n') :
    (lineBetween text start (start + line.length)).IsOn text (line :: more) 0 where
  suffix := by
    have hslice : slice text start (start + line.length) = line := by
      rw [slice_eq, h, Nat.add_sub_cancel_left, List.take_left]
    exact ⟨[], hslice⟩
  content_le := by
    have hle := le_skipColumns text 0 (start + line.length) (start + line.length - start) start 0
    have hge := skipColumns_le text 0 (start + line.length - start) 0 (Nat.le_add_right start line.length)
    simp only [lineBetween, Line.content]
    omega
  ending := by
    change text[start + line.length]? = _
    rw [← Array.getElem?_toList, ← List.getElem?_drop, h, List.getElem?_append_right (Nat.le_refl _),
      Nat.sub_self, ← List.head?_eq_getElem?, hrest]
    cases more <;> simp

/-- The lines in the table are those of the text, but for blanks behind the last line break. -/
theorem isOn_linesFrom {start p : Nat} {line rest : List Char}
    (h : text.toList.drop start = line ++ rest) (hp : p = start + line.length) (hline : '\n' ∉ line)
    {i : Nat} {l : Line} (hl : (linesFrom text start p rest)[i]? = some l) :
    l.IsOn text (Text.charLines (line ++ rest)) i := by
  subst hp
  -- `line` is what has been read of the current line
  induction rest generalizing start line i with
  | nil =>
    rw [List.append_nil, Text.charLines_of_not_mem hline]
    rw [linesFrom] at hl
    split at hl
    · cases i with
      | zero =>
        obtain rfl := Option.some.inj hl
        exact isOn_lineBetween h rfl
      | succ i => cases hl
    · cases hl
  | cons c rest ih =>
    rw [linesFrom] at hl
    by_cases hc : c = '\n'
    · subst hc
      rw [Text.charLines_append hline]
      rw [if_pos (beq_self_eq_true _)] at hl
      cases i with
      | zero =>
        obtain rfl := Option.some.inj hl
        exact isOn_lineBetween h (if_neg (Text.split_ne_nil _ rest)).symm
      | succ i =>
        have hdrop : text.toList.drop (start + line.length + 1) = [] ++ rest := by
          rw [Nat.add_assoc, ← List.drop_drop, h]
          simp
        exact IsOn.shift (ih hdrop List.not_mem_nil hl)
    · rw [if_neg (by simpa using hc)] at hl
      have happend : line ++ c :: rest = line ++ [c] ++ rest := by simp
      rw [happend] at h ⊢
      refine ih h ?_ ?_
      · simp [hline, Ne.symm hc]
      · simpa [Nat.add_assoc] using hl

theorem length_linesFrom (text : Array Char) (start p : Nat) (line rest : List Char)
    (hline : '\n' ∉ line) :
    (linesFrom text start p rest).length ≤ (Text.charLines (line ++ rest)).length ∧
      (Text.charLines (line ++ rest)).length ≤ (linesFrom text start p rest).length + 1 := by
  induction rest generalizing start p line with
  | nil =>
    rw [List.append_nil, Text.charLines_of_not_mem hline, linesFrom]
    split
    · exact ⟨Nat.le_refl 1, Nat.le_succ 1⟩
    · exact ⟨Nat.zero_le 1, Nat.le_refl 1⟩
  | cons c rest ih =>
    rw [linesFrom]
    by_cases hc : c = '\n'
    · subst hc
      obtain ⟨hle, hge⟩ := ih (p + 1) (p + 1) [] List.not_mem_nil
      rw [Text.charLines_append hline, if_pos (beq_self_eq_true _), List.length_cons, List.length_cons]
      exact ⟨Nat.succ_le_succ hle, Nat.succ_le_succ hge⟩
    · rw [if_neg (by simpa using hc)]
      have happend : line ++ c :: rest = line ++ [c] ++ rest := by simp
      rw [happend]
      exact ih start (p + 1) _ (by simp [hline, Ne.symm hc])

theorem size_ofText_le (cs : List Char) :
    (Context.ofText cs.toArray).lines.size ≤ (Text.charLines cs).length := by
  rw [Context.ofText, List.size_toArray]
  exact (length_linesFrom cs.toArray 0 0 [] cs List.not_mem_nil).1

theorem views_ofText (cs : List Char) :
    (Context.ofText cs.toArray).Views cs.toArray (Text.charLines cs) where
  text_eq := rfl
  lines := {
    isOn := fun i l hl => by
      simp only [Context.ofText, List.getElem?_toArray] at hl
      have hdrop : cs.toArray.toList.drop 0 = [] ++ cs := rfl
      exact isOn_linesFrom hdrop rfl List.not_mem_nil hl
    length_le := by
      rw [Context.ofText, List.size_toArray]
      exact (length_linesFrom cs.toArray 0 0 [] cs List.not_mem_nil).2 }
  limit_le := size_ofText_le cs
  lineFeed_not_mem _ hl := Text.not_mem_of_mem_split hl

/-! ### Inside quotes, items and footnotes -/

section

variable {ctx : Context} {i stop : Nat}

theorem length_slice_le (text : Array Char) (start stop : Nat) :
    (slice text start stop).length ≤ stop - start := by
  rw [slice_eq]
  exact List.length_take_le _ _

theorem length_lineText_le (h : ctx.Views text ls) (i : Nat) :
    (ctx.line i).content + (ctx.lineText i).length ≤ (ctx.line i).stop := by
  have hle := (h.line i).content_le
  have hlength := length_slice_le ctx.text (ctx.line i).content (ctx.line i).stop
  rw [Context.lineText]
  omega

/-- The content of a line has the character at which it starts, unless it is the line ending. -/
theorem content_lt_of_first? (h : ctx.Views text ls) {c : Char} (hc : ctx.first? i = some c)
    (hfeed : c ≠ '\n') : (ctx.line i).content < (ctx.line i).stop := by
  refine Nat.lt_of_le_of_ne (h.line i).content_le fun heq => hfeed ?_
  rw [Context.first?, heq, h.text_eq, (h.line i).ending] at hc
  split at hc
  · exact (Option.some.inj hc).symm
  · cases hc

theorem isOn_unquoted (h : ctx.Views text ls) (hquote : ctx.first? i = some '>') :
    (unquoted ctx i).1.IsOn text ls i := by
  have hline := h.line i
  have hstart := (ctx.line i).start_le
  have hcontent := content_lt_of_first? h hquote (by decide)
  have hinside {p : Nat} (hp : p ≤ (ctx.line i).stop) (base column : Int) :=
    content_of_skipColumns_le ctx.text base column ((ctx.line i).stop - p) hp hp
  have hblank {c : Char} (hc : ctx.text[(ctx.line i).content + 1]? = some c) (hspace : isSpace c = true) :
      (ctx.line i).content + 1 < (ctx.line i).stop := by
    refine Nat.lt_of_le_of_ne hcontent fun heq => ?_
    rw [heq, h.text_eq] at hc
    rw [hline.not_isSpace hc] at hspace
    cases hspace
  unfold unquoted
  dsimp only
  split
  · rename_i hspace
    exact hline.of_le (by dsimp only; omega) (hinside (hblank hspace rfl) _ _) rfl
  · rename_i htab
    split
    · exact hline.of_le (by dsimp only; omega) (hinside (hblank htab rfl) _ _) rfl
    · exact hline.of_le (by dsimp only; omega) (hinside hcontent _ _) rfl
  · exact hline.of_le (by dsimp only; omega) (hinside hcontent _ _) rfl

theorem views_quoteLines (h : ctx.Views text ls) (fuel i : Nat) (lastEmpty : Bool)
    {lines : Array Line} (limit : Nat) (hlines : Views text ls lines) :
    Views text ls (quoteLines ctx stop fuel i lastEmpty lines limit).1 := by
  induction fuel generalizing i lastEmpty lines limit with
  | zero => exact hlines
  | succ fuel ih =>
    have hline := h.line i
    unfold quoteLines
    dsimp only
    split
    · exact hlines
    · split
      · rename_i hquote
        refine ih _ _ _ (hlines.set (isOn_unquoted h ?_))
        exact beq_iff_eq.1 (Bool.and_eq_true_iff.1 hquote).1
      · split
        · exact hlines
        · split
          · exact hlines.set (hline.of_le (Nat.le_refl _) hline.content_le rfl)
          · exact ih _ _ _ (hlines.set (hline.of_le (Nat.le_refl _) hline.content_le rfl))

/-- A quote ends where it has to stop, or before, and so does what may be read inside it. -/
theorem quoteLines_le (ctx : Context) (fuel : Nat) (lastEmpty : Bool) (lines : Array Line) {n limit : Nat}
    (hi : i ≤ stop) (hstop : stop ≤ n) (hlimit : limit ≤ n) :
    (quoteLines ctx stop fuel i lastEmpty lines limit).2.1 ≤ stop ∧
      (quoteLines ctx stop fuel i lastEmpty lines limit).2.2 ≤ n := by
  induction fuel generalizing i lastEmpty lines with
  | zero => exact ⟨hi, hlimit⟩
  | succ fuel ih =>
    unfold quoteLines
    dsimp only
    split
    · exact ⟨hi, hlimit⟩
    · rename_i hgoes
      have hlt : i < stop := by
        by_contra hle
        exact hgoes (by simp [Nat.le_of_not_lt hle])
      split
      · exact ih _ _ hlt
      · split
        · exact ⟨hi, hlimit⟩
        · split
          · exact ⟨hi, Nat.le_trans hi hstop⟩
          · exact ih _ _ hlt

/-- The marker of an item stands on its line. -/
def ListMarker.StandsOn (ctx : Context) (i : Nat) (m : ListMarker) : Prop :=
  m.after ≤ (ctx.line i).stop

theorem standsOn_of_bullet? (h : ctx.Views text ls) {m : ListMarker} (hm : ctx.bullet? i = some m) :
    m.StandsOn ctx i := by
  unfold Context.bullet? at hm
  dsimp only at hm
  split at hm
  · rename_i c hc
    split at hm
    · rename_i hmark
      obtain rfl := Option.some.inj hm
      refine content_lt_of_first? h hc ?_
      rintro rfl
      exact absurd hmark (by simp)
    · cases hm
  · cases hm

theorem standsOn_of_number? (h : ctx.Views text ls) {m : ListMarker} (hm : ctx.number? i = some m) :
    m.StandsOn ctx i := by
  unfold Context.number? at hm
  dsimp only at hm
  split at hm
  · rename_i c hc
    split at hm
    · obtain rfl := Option.some.inj hm
      obtain ⟨hlt, -⟩ := List.getElem?_eq_some_iff.1 hc
      have hlength := length_lineText_le h i
      simp only [ListMarker.StandsOn]
      omega
    · cases hm
  · cases hm

theorem standsOn_of_list? (h : ctx.Views text ls) {inParagraph : Bool} {m : ListMarker}
    (hm : ctx.list? i inParagraph = some m) : m.StandsOn ctx i := by
  unfold Context.list? at hm
  split at hm
  · cases hm
  · split at hm
    · cases hm
    · rename_i m' hmarker
      dsimp only at hm
      have hmarked : m'.StandsOn ctx i := by
        unfold Context.marker? at hmarker
        split at hmarker
        · rename_i hnumber
          obtain rfl := Option.some.inj hmarker
          exact standsOn_of_number? h hnumber
        · exact standsOn_of_bullet? h hmarker
      obtain ⟨-, hm⟩ := Option.ite_none_left_eq_some.1 hm
      exact Option.some.inj hm ▸ hmarked

theorem views_itemContext (h : ctx.Views text ls) {m : ListMarker} (hm : m.StandsOn ctx i) :
    (itemContext ctx i m).1.Views text ls where
  text_eq := h.text_eq
  lines := by
    refine h.lines.set ((h.line i).of_le (Nat.le_refl _) ?_ rfl)
    exact content_of_skipColumns_le _ _ _ _
      (Nat.le_trans (ctx.line i).start_le (h.line i).content_le) hm
  limit_le := h.limit_le
  lineFeed_not_mem := h.lineFeed_not_mem

/-- The label of a footnote stands on its line. -/
theorem noteLabel?_le (h : ctx.Views text ls) {label : List Char} {p : Nat}
    (hlabel : ctx.noteLabel? i = some (label, p)) :
    (ctx.line i).start ≤ p ∧ p ≤ (ctx.line i).stop := by
  unfold Context.noteLabel? at hlabel
  split at hlabel
  · cases hlabel
  · split at hlabel
    · rename_i r hr
      dsimp only at hlabel
      split at hlabel
      · rename_i rest hrest
        split at hlabel
        · cases hlabel
        · obtain ⟨-, rfl⟩ := Prod.mk.inj (Option.some.inj hlabel)
          have hlength := length_lineText_le h i
          have hdrop := congrArg List.length hrest
          rw [hr] at hlength
          simp only [List.length_drop, List.length_cons] at hlength hdrop
          have hstart := (ctx.line i).start_le
          omega
      · cases hlabel
    · cases hlabel

end

/-! ### Parts of lines -/

theorem headingText_sublist (cs : List Char) : (headingText cs).Sublist cs := by
  have hbody : (cs.reverse.dropWhile isSpace).Sublist cs.reverse := List.dropWhile_sublist _
  have hrest := (List.dropWhile_sublist (· == '#')).trans hbody
  have hreverse {body : List Char} (h : body.Sublist cs.reverse) :
      (trimWhite body.reverse).Sublist cs := by
    have hback := (trimWhite_sublist _).trans h.reverse
    rwa [List.reverse_reverse] at hback
  unfold headingText
  dsimp only
  split
  · split
    · exact hreverse hrest
    · exact hreverse hbody
  · exact hreverse hbody

/-- The backslash in front of a vertical line is left out. -/
theorem sublist_of_mem_splitCells {cell : List Char} {escaped : Bool} {row c : List Char}
    (h : c ∈ Context.splitCells cell escaped row) : c.Sublist (cell.reverse ++ row) := by
  induction row generalizing cell escaped with
  | nil =>
    rw [List.mem_singleton.1 h]
    exact List.sublist_append_left _ _
  | cons d rest ih =>
    rw [Context.splitCells] at h
    split at h
    · rename_i hd
      obtain rfl : d = '|' := by simpa using hd
      split at h
      · refine (ih h).trans ?_
        rw [List.reverse_cons, List.append_assoc, List.singleton_append]
        exact (List.tail_sublist cell).reverse.append_right _
      · rcases List.mem_cons.1 h with rfl | h
        · exact List.sublist_append_left _ _
        · exact (ih h).trans ((List.sublist_cons_self _ _).trans (List.sublist_append_right _ _))
    · have hrest := ih h
      rwa [List.reverse_cons, List.append_assoc, List.singleton_append] at hrest

theorem sublist_of_mem_rowCells {row c : List Char} (h : c ∈ Context.rowCells row) : c.Sublist row := by
  have hlast (cells : List (List Char))
      (h : c ∈ if cells.getLast? == some [] then cells.dropLast else cells) : c ∈ cells := by
    split at h
    · exact (List.dropLast_sublist _).mem h
    · exact h
  have hfirst (cells : List (List Char))
      (h : c ∈ if cells.head? == some [] then cells.tail else cells) : c ∈ cells := by
    split at h
    · exact List.mem_of_mem_tail h
    · exact h
  have hsplit : c ∈ Context.splitCells [] false row := hfirst _ (hlast _ h)
  simpa using sublist_of_mem_splitCells hsplit

theorem sublist_of_mem_tableHeader? {ctx : Context} {i stop : Nat} {header : List (List Char)}
    (h : ctx.tableHeader? i stop = some header) : ∀ c ∈ header, c.Sublist (ctx.lineText i) := by
  unfold Context.tableHeader? at h
  dsimp only at h
  split at h
  · cases h
  · split at h
    · cases h
    · split at h
      · obtain rfl := Option.some.inj h
        exact fun c hc => (sublist_of_mem_rowCells hc).trans (trimWhite_sublist _)
      · cases h

end Block

end ProposalCheck.Markup
