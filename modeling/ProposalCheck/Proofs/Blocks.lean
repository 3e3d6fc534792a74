import ProposalCheck.Proofs.Alignment
import ProposalCheck.Proofs.Flats

/-!
# Blocks start on lines of the text

Blocks inside blocks are read from views of the lines in which the markers are taken off. A view has
as many lines as the text, and no reader goes past the line at which it has to stop. Each reader adds
constructs that it closes again, with texts that are written on their lines, so that the marks of all
blocks are a flat form whose lines are there (`Block.flat_readBlocks`). With the lines that a carriage
return ends counted too, these are no more than the lines of the text (`Markup.within_read_lines`).
-/

namespace ProposalCheck.Markup

/-- A text that is written on its lines, of which the first one is there. -/
def Placed (ls : List (List Char)) (content : String) (l : Option LineSpan) : Prop :=
  ∃ s ∈ l, s.1 < ls.length ∧ WrittenOn ls s content.toList

/-- A text that is written on its lines, and if these are more than one, then each line of the text stands
on one of them. -/
def Laid (ls : List (List Char)) (content : String) (l : Option LineSpan) : Prop :=
  ∃ s ∈ l, s.1 < ls.length ∧ WrittenOn ls s content.toList ∧
    (s.2 = s.1 + 1 ∨ ∃ skipped, LinedUp ls s skipped content.toList)

theorem Laid.placed {ls : List (List Char)} {content : String} {l : Option LineSpan}
    (h : Laid ls content l) : Placed ls content l := by
  obtain ⟨s, hs, hlt, hwritten, -⟩ := h
  exact ⟨s, hs, hlt, hwritten⟩

theorem Node.isBlock_some {n : Nat} {c : Construct} {span : LineSpan} (hc : c.isBlock = true)
    (h : span.1 < n) : Node.IsBlock n c (some span) :=
  ⟨hc, fun s hs => by
    obtain rfl := Option.mem_some_iff.1 hs
    exact h⟩

theorem Node.isContainer_some {n : Nat} {c : Construct} {span : LineSpan} (hc : c.isContainer = true)
    (h : span.1 < n) : Node.IsContainer n c (some span) :=
  ⟨hc, (isBlock_some (Construct.isBlock_of_isContainer hc) h).2⟩

theorem Mark.Flat.flatMap {α β : Type} {n : Nat} {P : α → Option LineSpan → Prop} {notes : Bool}
    {f : β → List (Mark α)} {xs : List β} (h : ∀ x ∈ xs, Flat P n notes (f x)) :
    Flat P n notes (xs.flatMap f) := by
  induction xs with
  | nil => exact .nil
  | cons x rest ih =>
    obtain ⟨hx, hrest⟩ := List.forall_mem_cons.1 h
    exact .append hx (ih hrest)

namespace Block

open Mark (Flat)

/-- Marks that are a flat form, with texts that are written on their lines. -/
abbrev FlatOn (ls : List (List Char)) (ms : List (Mark String)) : Prop :=
  Mark.Flat (Laid ls) ls.length true ms

/-- The marks of a result are a flat form, and its texts are written on their lines. -/
def Result.Flat (ls : List (List Char)) (r : Result) : Prop :=
  FlatOn ls r.marks.toList

/-- A reader of views keeps the form, if it has to stop at the end of the lines or before. -/
def Reader.Flat (text : Array Char) (ls : List (List Char)) (nested : Reader) : Prop :=
  ∀ ctx i stop r, ctx.Views text ls → stop ≤ ls.length → r.Flat ls → (nested ctx i stop r).Flat ls

variable {text : Array Char} {ls : List (List Char)} {ctx : Context} {i stop : Nat}
  {r r' : Result} {nested : Reader} {c : Construct}

/-- What is cut out of a line of a view is laid on this line. -/
theorem laid_line (hctx : ctx.Views text ls) (hi : i < ls.length) {cs : List Char}
    (hcs : cs.Sublist (ctx.lineText i)) : Laid ls (String.ofList cs) (some (i, i + 1)) := by
  refine ⟨_, rfl, hi, ?_, .inl rfl⟩
  rw [String.toList_ofList]
  exact hctx.writtenOn_line hcs

/-- What is cut out of some lines of a view is laid on these lines. -/
theorem laid_block (hctx : ctx.Views text ls) (hlt : i < stop) (hstop : stop ≤ ls.length) (indent : Int) :
    Laid ls (String.ofList (trimWhite (ctx.block i stop indent false))) (some (i, stop)) := by
  refine ⟨_, rfl, Nat.lt_of_lt_of_le hlt hstop, ?_, .inr ?_⟩
  · rw [String.toList_ofList]
    exact hctx.writtenOn_block (trimWhite_sublist _)
  · rw [String.toList_ofList]
    exact hctx.linedUp_block hlt hstop indent

namespace Result

theorem Flat.of_eq (h : r.Flat ls) (hmarks : r'.marks = r.marks) : r'.Flat ls := by
  rwa [Result.Flat, hmarks]

theorem Flat.append {ms : List (Mark String)} (h : r.Flat ls)
    (hms : FlatOn ls ms) : FlatOn ls (r.marks ++ ms.toArray).toList := by
  rw [Array.toList_append]
  exact Mark.Flat.append h hms

theorem Flat.pushLeaf {span : LineSpan} (hc : c.isBlock = true) (h : r.Flat ls)
    (hspan : span.1 < ls.length) : (r.push (.leaf c (some span))).Flat ls := by
  rw [Result.Flat, Result.push, Array.toList_push]
  exact Mark.Flat.append h (.leaf (Node.isBlock_some hc hspan))

theorem Flat.pushProse {lines proseLines : LineSpan} {content : List Char} (hc : c.isContainer = true)
    (h : r.Flat ls) (hlines : lines.1 < ls.length)
    (hcontent : Laid ls (String.ofList content) (some proseLines)) :
    (r.pushProse c content lines proseLines).Flat ls :=
  h.append (.around (Node.isContainer_some hc hlines) (.prose hcontent))

theorem Flat.define (key : String) (ref : Reference) (h : r.Flat ls) : (r.define key ref).Flat ls := by
  unfold Result.define
  split
  · exact h
  · exact h

theorem flat_inner (ls : List (List Char)) (r : Result) : r.inner.Flat ls :=
  Mark.Flat.nil

theorem toList_wrap (r : Result) (earlier : Array (Mark String)) (opening closing : Mark String) :
    (r.wrap earlier opening closing).marks.toList
      = earlier.toList ++ (opening :: r.marks.toList ++ [closing]) := by
  simp [Result.wrap]

theorem Flat.wrap {earlier : Array (Mark String)} {span : LineSpan} (hc : c.isContainer = true)
    (h : r.Flat ls) (hearlier : FlatOn ls earlier.toList) (hspan : span.1 < ls.length) :
    (r.wrap earlier (.opening c (some span)) (.closing c)).Flat ls := by
  rw [Result.Flat, toList_wrap]
  exact .append hearlier (.around (Node.isContainer_some hc hspan) h)

theorem Flat.wrapNote {earlier : Array (Mark String)} (label : String) (h : r.Flat ls)
    (hearlier : FlatOn ls earlier.toList) :
    (r.wrap earlier (.noteOpening label) .noteClosing).Flat ls := by
  rw [Result.Flat, toList_wrap]
  exact .append hearlier (.note rfl h)

end Result

/-! ### Blocks without blocks inside -/

theorem flat_readCode? (h : r.Flat ls) (hi : i < ls.length) (hr : readCode? ctx i stop r = some r') :
    r'.Flat ls := by
  unfold readCode? at hr
  split at hr
  · obtain rfl := Option.some.inj hr
    exact h.pushLeaf rfl hi
  · cases hr

theorem flat_readFence? (h : r.Flat ls) (hi : i < ls.length) (hr : readFence? ctx i stop r = some r') :
    r'.Flat ls := by
  unfold readFence? at hr
  split at hr
  · cases hr
  · obtain rfl := Option.some.inj hr
    exact h.pushLeaf rfl hi

theorem flat_readThematicBreak? (h : r.Flat ls) (hi : i < ls.length)
    (hr : readThematicBreak? ctx i r = some r') : r'.Flat ls := by
  unfold readThematicBreak? at hr
  split at hr
  · obtain rfl := Option.some.inj hr
    exact h.pushLeaf rfl hi
  · cases hr

theorem flat_readHtml? (h : r.Flat ls) (hi : i < ls.length) (hr : readHtml? ctx i stop r = some r') :
    r'.Flat ls := by
  unfold readHtml? at hr
  split at hr
  · cases hr
  · obtain rfl := Option.some.inj hr
    exact h.pushLeaf rfl hi

theorem flat_readHeading? (hctx : ctx.Views text ls) (h : r.Flat ls) (hi : i < ls.length)
    (hr : readHeading? ctx i r = some r') : r'.Flat ls := by
  unfold readHeading? at hr
  split at hr
  · cases hr
  · obtain rfl := Option.some.inj hr
    refine h.pushProse rfl hi (laid_line hctx hi ?_)
    exact (headingText_sublist _).trans (List.drop_sublist _ _)

/-- The line that underlines a heading is one of those that follow. -/
theorem underline?_bounds {fuel last : Nat} (h : underline? ctx stop fuel i = some last) :
    i ≤ last ∧ last < stop := by
  induction fuel generalizing i with
  | zero => cases h
  | succ fuel ih =>
    have hnext (h : underline? ctx stop fuel (i + 1) = some last) : i ≤ last ∧ last < stop :=
      ⟨Nat.le_of_succ_le (ih h).1, (ih h).2⟩
    unfold underline? at h
    split at h
    · cases h
    · rename_i hgoes
      split at h
      · exact hnext h
      · split at h
        · obtain rfl := Option.some.inj h
          refine ⟨Nat.le_refl i, ?_⟩
          by_contra hle
          exact hgoes (by simp [Nat.le_of_not_lt hle])
        · split at h
          · exact hnext h
          · split at h
            · cases h
            · exact hnext h

theorem flat_readUnderlined? (hctx : ctx.Views text ls) (hstop : stop ≤ ls.length) (h : r.Flat ls)
    (hi : i < ls.length) (hr : readUnderlined? ctx i stop r = some r') : r'.Flat ls := by
  unfold readUnderlined? at hr
  split at hr
  · cases hr
  · split at hr
    · cases hr
    · rename_i hlast
      obtain rfl := Option.some.inj hr
      obtain ⟨hle, hlt⟩ := underline?_bounds hlast
      exact h.pushProse rfl hi (laid_block hctx hle (Nat.le_trans (Nat.le_of_lt hlt) hstop) _)

/-- A search that starts before the line at which it has to stop ends there, or before. -/
theorem findLine_bounds (test : Nat → Bool) {n : Nat} (hstop : stop ≤ n) (fuel : Nat) (hi : i ≤ n) :
    i ≤ findLine test stop fuel i ∧ findLine test stop fuel i ≤ n := by
  induction fuel generalizing i with
  | zero => exact ⟨Nat.le_refl i, hi⟩
  | succ fuel ih =>
    unfold findLine
    split
    · rename_i hgoes
      have hlt : i < stop := by
        by_contra hle
        simp [hle] at hgoes
      obtain ⟨hle, hbound⟩ := ih (Nat.le_trans hlt hstop)
      exact ⟨Nat.le_of_succ_le hle, hbound⟩
    · exact ⟨Nat.le_refl i, hi⟩

theorem flat_readParagraph (hctx : ctx.Views text ls) (h : r.Flat ls) (hi : i < ls.length) :
    (readParagraph ctx i r).Flat ls := by
  obtain ⟨hle, hbound⟩ := findLine_bounds (endsParagraph ctx) hctx.limit_le (ctx.limit - i) hi
  exact h.pushProse rfl hi (laid_block hctx hle hbound _)

theorem flat_readDefinition? (h : r.Flat ls) (hr : readDefinition? ctx i r = some r') :
    r'.Flat ls := by
  unfold readDefinition? at hr
  split at hr
  · cases hr
  · obtain rfl := Option.some.inj hr
    exact h.define _ _

/-! ### Tables -/

theorem flat_rowMarks (hctx : ctx.Views text ls) (hc : c.isContainer = true) {cells : List (List Char)}
    (hcells : ∀ cell ∈ cells, cell.Sublist (ctx.lineText i)) (hi : i < ls.length) :
    FlatOn ls (rowMarks c cells i) := by
  refine .around (Node.isContainer_some rfl hi) (Flat.flatMap fun cell hcell => ?_)
  refine .around ⟨hc, fun s hs => by cases hs⟩ (.prose (laid_line hctx hi ?_))
  exact (trimWhite_sublist cell).trans (hcells cell hcell)

/-- A row is read only before the line at which the table has to stop. -/
theorem lt_of_continues {columns fuel : Nat} {missing : Int} {ms : List (Mark String)}
    (h : (readRows ctx columns stop fuel missing i ms).1 ≠ ms) : i < stop := by
  cases fuel with
  | zero => exact absurd rfl h
  | succ fuel =>
    by_cases hstop : stop ≤ i
    · refine absurd ?_ h
      rw [readRows, if_pos (by simp [hstop])]
    · exact Nat.lt_of_not_le hstop

theorem flat_readRows (hctx : ctx.Views text ls) (hstop : stop ≤ ls.length) (columns fuel : Nat)
    (missing : Int) (i : Nat) {ms : List (Mark String)} (h : FlatOn ls ms) :
    FlatOn ls (readRows ctx columns stop fuel missing i ms).1 := by
  induction fuel generalizing missing i ms with
  | zero => exact h
  | succ fuel ih =>
    unfold readRows
    split
    · exact h
    · rename_i hgoes
      have hi : i < ls.length := by
        by_contra hle
        exact hgoes (by simp [Nat.le_trans hstop (Nat.le_of_not_lt hle)])
      dsimp only
      split
      · exact h
      · split
        · exact h
        · refine ih _ _ (.append h (flat_rowMarks hctx rfl (List.forall_mem_map.2 fun k _ => ?_) hi))
          cases hk : (Context.rowCells (trimWhite (ctx.lineText i)))[k]? with
          | none => exact List.nil_sublist _
          | some cell =>
            exact (sublist_of_mem_rowCells (List.mem_of_getElem? hk)).trans (trimWhite_sublist _)

/-- The marks of a table's rows below its head, if there are any. -/
theorem flat_tableBody {rows : List (Mark String)} (next : Nat)
    (hrows : FlatOn ls rows) (hline : rows ≠ [] → i < ls.length) :
    FlatOn ls (if rows.isEmpty then []
      else .opening .tableBody (some (i, next)) :: rows ++ [.closing .tableBody]) := by
  split
  · exact .nil
  · rename_i hne
    have hi : i < ls.length := hline fun hnil => hne (List.isEmpty_iff.2 hnil)
    exact .around (Node.isContainer_some rfl hi) hrows

theorem flat_readTable? (hctx : ctx.Views text ls) (hstop : stop ≤ ls.length) (h : r.Flat ls)
    (hi : i < ls.length) (hr : readTable? ctx i stop r = some r') : r'.Flat ls := by
  unfold readTable? at hr
  split at hr
  · cases hr
  · rename_i header hheader
    obtain rfl := Option.some.inj hr
    have hhead : FlatOn ls (.opening .tableHead (some (i, i + 1)) :: rowMarks .headerCell header i
          ++ [.closing .tableHead]) :=
      .around (Node.isContainer_some rfl hi)
        (flat_rowMarks hctx rfl (sublist_of_mem_tableHeader? hheader) hi)
    have hrows := flat_readRows hctx hstop header.length (stop - i) 0 (i + 2) .nil
    have hline (hsome : (readRows ctx header.length stop (stop - i) 0 (i + 2) []).1 ≠ []) :
        i + 2 < ls.length :=
      Nat.lt_of_lt_of_le (lt_of_continues hsome) hstop
    exact h.append (.around (Node.isContainer_some rfl hi) (.append hhead (flat_tableBody _ hrows hline)))

/-! ### Blocks with blocks inside -/

theorem flat_readQuote? (hnested : Reader.Flat text ls nested) (hctx : ctx.Views text ls)
    (hstop : stop ≤ ls.length) (h : r.Flat ls) (hi : i < stop)
    (hr : readQuote? nested ctx i stop r = some r') : r'.Flat ls := by
  unfold readQuote? at hr
  split at hr
  · obtain rfl := Option.some.inj hr
    have hopening : i < ls.length := Nat.lt_of_lt_of_le hi hstop
    have hquote : ctx.first? i = some '>' := beq_iff_eq.1 (Bool.and_eq_true_iff.1 ‹_›).2
    have hfirst := hctx.lines.set (isOn_unquoted hctx hquote)
    obtain ⟨hlast, hlimit⟩ := quoteLines_le ctx (stop - i) (unquoted ctx i).2
      (ctx.lines.setIfInBounds i (unquoted ctx i).1) hi hstop hctx.limit_le
    exact Result.Flat.wrap rfl (hnested _ _ _ _ ⟨hctx.text_eq, views_quoteLines hctx _ _ _ _ hfirst,
      hlimit, hctx.lineFeed_not_mem⟩ (Nat.le_trans hlast hstop) (r.flat_inner ls)) h hopening
  · cases hr

theorem flat_readItem (hnested : Reader.Flat text ls nested) (hctx : ctx.Views text ls)
    (hstop : stop ≤ ls.length) {m : ListMarker} (hm : m.StandsOn ctx i) (h : r.Flat ls)
    (hi : i < ls.length) : (readItem nested ctx i stop m r).Flat ls := by
  unfold readItem
  refine Result.Flat.wrap rfl ?_ h hi
  split
  · exact (r.flat_inner ls).of_eq rfl
  · exact hnested _ _ _ _ (views_itemContext hctx hm) hstop (r.flat_inner ls)

theorem flat_readItems (hnested : Reader.Flat text ls nested) (hctx : ctx.Views text ls)
    (hstop : stop ≤ ls.length) (fuel i : Nat) {m : ListMarker} (hm : m.StandsOn ctx i) (h : r.Flat ls)
    (hi : i < ls.length) : (readItems nested ctx stop fuel i m r).Flat ls := by
  induction fuel generalizing i m r with
  | zero => exact h
  | succ fuel ih =>
    have hitem := flat_readItem hnested hctx hstop hm h hi
    unfold readItems
    dsimp only
    split
    · exact hitem
    · rename_i hgoes
      have hnext : (readItem nested ctx i stop m r).line < ls.length := by
        by_contra hle
        exact hgoes (by simp [Nat.le_trans hstop (Nat.le_of_not_lt hle)])
      split
      · rename_i m' hmarker
        have hm' : m'.StandsOn ctx (readItem nested ctx i stop m r).line := by
          split at hmarker
          · exact standsOn_of_number? hctx hmarker
          · exact standsOn_of_bullet? hctx hmarker
        split
        · exact ih _ hm' hitem hnext
        · exact hitem
      · exact hitem

theorem flat_readList? (hnested : Reader.Flat text ls nested) (hctx : ctx.Views text ls)
    (hstop : stop ≤ ls.length) (h : r.Flat ls) (hi : i < ls.length)
    (hr : readList? nested ctx i stop r = some r') : r'.Flat ls := by
  unfold readList? at hr
  split at hr
  · cases hr
  · rename_i m hmarker
    obtain rfl := Option.some.inj hr
    have hitems := flat_readItems hnested hctx hstop (stop - i + 1) i
      (standsOn_of_list? hctx hmarker) (r.flat_inner ls) hi
    refine Result.Flat.wrap ?_ hitems h hi
    split
    · rfl
    · rfl

theorem flat_readNote? (hnested : Reader.Flat text ls nested) (hctx : ctx.Views text ls)
    (hstop : stop ≤ ls.length) (h : r.Flat ls) (hr : readNote? nested ctx i stop r = some r') :
    r'.Flat ls := by
  unfold readNote? at hr
  split at hr
  · cases hr
  · rename_i hlabel
    obtain rfl := Option.some.inj hr
    obtain ⟨hstart, hend⟩ := noteLabel?_le hctx hlabel
    refine Result.Flat.wrapNote _ (hnested _ _ _ _ ⟨hctx.text_eq, hctx.lines.set ?_, hctx.limit_le,
      hctx.lineFeed_not_mem⟩ hstop (Result.flat_inner ls _)) h
    exact (hctx.line i).of_le hstart (content_of_skipColumns_le _ _ _ _ hend hend) rfl

/-! ### All blocks -/

theorem flat_orElse {a b : Option Result} (ha : ∀ x ∈ a, x.Flat ls) (hb : ∀ x ∈ b, x.Flat ls) :
    ∀ x ∈ a <|> b, x.Flat ls := by
  cases a with
  | none => exact hb
  | some x => exact ha

theorem flat_readBlock (hnested : Reader.Flat text ls nested) (hctx : ctx.Views text ls)
    (hstop : stop ≤ ls.length) (h : r.Flat ls) (hi : i < stop) :
    (readBlock nested ctx i stop r).Flat ls := by
  have hlt : i < ls.length := Nat.lt_of_lt_of_le hi hstop
  have hkinds : ∀ x ∈ (readTable? ctx i stop r <|> readCode? ctx i stop r <|> readFence? ctx i stop r
      <|> readQuote? nested ctx i stop r <|> readThematicBreak? ctx i r
      <|> readList? nested ctx i stop r <|> readNote? nested ctx i stop r <|> readDefinition? ctx i r
      <|> readHtml? ctx i stop r <|> readHeading? ctx i r <|> readUnderlined? ctx i stop r),
      x.Flat ls := by
    refine flat_orElse (fun _ => flat_readTable? hctx hstop h hlt) ?_
    refine flat_orElse (fun _ => flat_readCode? h hlt) ?_
    refine flat_orElse (fun _ => flat_readFence? h hlt) ?_
    refine flat_orElse (fun _ => flat_readQuote? hnested hctx hstop h hi) ?_
    refine flat_orElse (fun _ => flat_readThematicBreak? h hlt) ?_
    refine flat_orElse (fun _ => flat_readList? hnested hctx hstop h hlt) ?_
    refine flat_orElse (fun _ => flat_readNote? hnested hctx hstop h) ?_
    refine flat_orElse (fun _ => flat_readDefinition? h) ?_
    refine flat_orElse (fun _ => flat_readHtml? h hlt) ?_
    refine flat_orElse (fun _ => flat_readHeading? hctx h hlt) ?_
    exact fun _ => flat_readUnderlined? hctx hstop h hlt
  unfold readBlock
  generalize (readTable? ctx i stop r <|> _) = o at hkinds
  cases o with
  | none => exact flat_readParagraph hctx h hlt
  | some x => exact hkinds x rfl

theorem flat_readFrom (hnested : Reader.Flat text ls nested) (hctx : ctx.Views text ls)
    (hstop : stop ≤ ls.length) (fuel i : Nat) (h : r.Flat ls) :
    (readFrom nested ctx stop fuel i r).Flat ls := by
  induction fuel generalizing i r with
  | zero => exact h
  | succ fuel ih =>
    unfold readFrom
    dsimp only
    split
    · exact h
    · split
      · exact h.of_eq rfl
      · rename_i hgoes
        split
        · exact h.of_eq rfl
        · have hi : ctx.skipEmpty i < stop := by
            by_contra hle
            exact hgoes (by simp [Nat.le_of_not_lt hle])
          have hfrom : Result.Flat ls { r with line := ctx.skipEmpty i } := h.of_eq rfl
          have hblock := flat_readBlock hnested hctx hstop hfrom hi
          split
          · exact ih _ (hblock.of_eq rfl)
          · exact ih _ hblock

theorem flat_readNested (text : Array Char) (ls : List (List Char)) (room : Nat) :
    Reader.Flat text ls (readNested room) := by
  induction room with
  | zero => exact fun ctx i stop r _ _ h => h.of_eq rfl
  | succ room ih => exact fun ctx i stop r hctx hstop h => flat_readFrom ih hctx hstop _ _ h

/-- Every mark starts on a line that is there, and every text is written on its lines. -/
theorem flat_readBlocks (cs : List Char) : (readBlocks cs.toArray).Flat (Text.charLines cs) :=
  flat_readNested _ _ _ _ _ _ _ (views_ofText cs) (size_ofText_le cs) .nil

end Block

end ProposalCheck.Markup

namespace ProposalCheck

/-- The number of carriage returns that no line feed follows. -/
def Text.loneReturns : List Char → Nat
  | [] => 0
  | '\r' :: '\n' :: r => loneReturns r
  | c :: r => (if c == '\r' then 1 else 0) + loneReturns r

namespace Markup

/-- A carriage return ends a line of its own, unless it stands in front of a line feed. -/
theorem count_normalizeText (cs : List Char) :
    (normalizeText cs).count '\n' = cs.count '\n' + Text.loneReturns cs := by
  fun_induction normalizeText cs with
  | case1 => rfl
  | case2 r ih =>
    rw [Text.loneReturns]
    simp only [List.count_cons, ih]
    simp
    omega
  | case3 c r hpair ih =>
    have hreturns : Text.loneReturns (c :: r) = (if c == '\r' then 1 else 0) + Text.loneReturns r := by
      rw [Text.loneReturns]
      exact hpair
    rw [hreturns, List.count_cons, List.count_cons, ih]
    by_cases hreturn : c = '\r'
    · simp [hreturn]
      omega
    · by_cases hnull : c = '\x00'
      · simp [hnull]
      · simp [hreturn, hnull]
        omega

theorem length_charLines (cs : List Char) : (Text.charLines cs).length = cs.count '\n' + 1 := by
  obtain ⟨l, ls, hlines⟩ := Text.exists_charLines cs
  have hcount := Fence.count_unlines (List.cons_ne_nil l ls) fun line hline =>
    Text.not_mem_of_mem_split (hlines ▸ hline : line ∈ Text.charLines cs)
  rw [← hlines, Fence.unlines_charLines, Text.count, String.toList_ofList] at hcount
  exact hcount.symm

/-- The nodes of a tree start on lines of the text, where a carriage return ends a line as well. -/
theorem within_read_lines {source : String} {root : Node} (h : read source = .ok root) :
    root.Within (source.toList.count '\n' + Text.loneReturns source.toList + 1) := by
  obtain ⟨ns, rfl, hns⟩ := read_shape h (Block.flat_readBlocks _) (Inline.given_inner _)
  rw [← count_normalizeText, ← length_charLines]
  refine .node (fun s hs => by cases hs) fun m hm => (hns m hm).within fun x l hx s hs => ?_
  obtain ⟨s', hs', hlt, -⟩ := hx
  obtain rfl := Option.mem_unique hs hs'
  exact hlt

end Markup

end ProposalCheck
