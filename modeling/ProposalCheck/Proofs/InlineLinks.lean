import ProposalCheck.Markup.Reading
import ProposalCheck.Proofs.Views

/-!
# Links in a text

`InlineLink` is a link as it is written in a text, `[label](inside)`, by its positions. A link that reading a
text finds is one of those, or its target is that of a definition or an address that stands in the text
(`Comes`). What is written between the parentheses leads to the target (`LeadsTo`,
`Inline.View.leadsTo_of_parenthesized?`), which is stored in ASCII (`Url.plain_encode`).
-/

namespace ProposalCheck.Markup

/-! ### Slices -/

section

variable {text : Array Char} {test : Char → Bool} {start p q stop : Nat}

theorem slice_append (text : Array Char) (h : start ≤ p) (hp : p ≤ stop) :
    slice text start p ++ slice text p stop = slice text start stop := by
  have hdrop : text.toList.drop p = (text.toList.drop start).drop (p - start) := by
    rw [List.drop_drop, Nat.add_sub_cancel' h]
  have hcount : stop - start = (p - start) + (stop - p) := by omega
  rw [slice_eq, slice_eq, slice_eq, hdrop, hcount, List.take_add]

theorem slice_of_getElem? {c : Char} (hc : text[p]? = some c) : slice text p (p + 1) = [c] := by
  rw [slice_succ text (Nat.le_refl p), hc, slice_eq, Nat.sub_self]
  rfl

/-- A slice of a text that starts with a character. -/
theorem slice_cons {c : Char} (hc : text[p]? = some c) (hp : p < stop) :
    slice text p stop = c :: slice text (p + 1) stop := by
  rw [← slice_append text (Nat.le_succ p) hp, slice_of_getElem? hc]
  rfl

/-- A slice of a text that ends in a character. -/
theorem slice_concat {c : Char} (hc : text[q]? = some c) (hp : p ≤ q) :
    slice text p (q + 1) = slice text p q ++ [c] := by
  rw [slice_succ text hp, hc]
  rfl

theorem infix_slice (text : Array Char) (start stop : Nat) : slice text start stop <:+: text.toList := by
  rw [slice_eq]
  exact (List.take_prefix _ _).isInfix.trans (List.drop_suffix _ _).isInfix

theorem getElem?_slice {i : Nat} {c : Char} (h : (slice text start stop).toArray[i]? = some c) :
    text[start + i]? = some c ∧ start + i < stop := by
  rw [List.getElem?_toArray, slice_eq, List.getElem?_take, List.getElem?_drop] at h
  split at h
  · exact ⟨by simpa using h, by omega⟩
  · cases h

theorem slice_slice (text : Array Char) {a b : Nat} (hb : start + b ≤ stop) :
    slice (slice text start stop).toArray a b = slice text (start + a) (start + b) := by
  have hcount : start + b - (start + a) = b - a := by omega
  have hfits : b - a ≤ stop - start - a := by omega
  rw [slice_eq, slice_eq, slice_eq, List.toList_toArray, List.drop_take, List.take_take, List.drop_drop,
    hcount, Nat.min_eq_left hfits]

theorem le_skipWhile (text : Array Char) (test : Char → Bool) (fuel p : Nat) :
    p ≤ skipWhile text test fuel p := by
  induction fuel generalizing p with
  | zero => exact Nat.le_refl p
  | succ fuel ih =>
    unfold skipWhile
    split
    · split
      · exact Nat.le_of_succ_le (ih (p + 1))
      · exact Nat.le_refl p
    · exact Nat.le_refl p

theorem le_skip (text : Array Char) (test : Char → Bool) (p stop : Nat) : p ≤ skip text test p stop :=
  le_skipWhile text test _ p

theorem all_slice_skipWhile (text : Array Char) (test : Char → Bool) (fuel p : Nat) :
    ∀ c ∈ slice text p (skipWhile text test fuel p), test c = true := by
  induction fuel generalizing p with
  | zero => simp [skipWhile, slice_eq]
  | succ fuel ih =>
    unfold skipWhile
    split
    · rename_i c hc
      split
      · rename_i htest
        rw [slice_cons hc (le_skipWhile text test fuel (p + 1))]
        exact List.forall_mem_cons.2 ⟨htest, ih (p + 1)⟩
      · simp [slice_eq]
    · simp [slice_eq]

end

/-! ### Links as they are written -/

/-- The positions at which a link is written: its opening bracket, the bracket behind its label, and its
closing parenthesis. -/
structure InlineLink where
  start : Nat
  labelStop : Nat
  stop : Nat
deriving DecidableEq, Repr, Inhabited

/-- A target is what the text between the parentheses of a link leads to. -/
inductive LeadsTo (inside : List Char) : List Char → Prop
  /-- There is no target, or links may not lead to it. -/
  | nowhere : LeadsTo inside []
  | plain {blanks raw rest target : List Char} (h : inside = blanks ++ raw ++ rest)
      (hblanks : ∀ c ∈ blanks, (isSpace c || c == '\n') = true)
      (htarget : allowedTarget? (unescape raw) = some target) : LeadsTo inside target
  /-- The target is written between angle brackets. -/
  | bracketed {blanks raw rest target : List Char} (h : inside = blanks ++ ('<' :: raw ++ ['>']) ++ rest)
      (hblanks : ∀ c ∈ blanks, (isSpace c || c == '\n') = true)
      (htarget : allowedTarget? (unescape raw) = some target) : LeadsTo inside target

namespace InlineLink

variable {text : Array Char} {w : InlineLink}

/-- What is written between the brackets of a link. -/
def label (text : Array Char) (w : InlineLink) : List Char :=
  slice text (w.start + 1) w.labelStop

/-- What is written between the parentheses of a link. -/
def inside (text : Array Char) (w : InlineLink) : List Char :=
  slice text (w.labelStop + 2) w.stop

/-- The link as it is written. -/
def source (text : Array Char) (w : InlineLink) : List Char :=
  slice text w.start (w.stop + 1)

/-- The link in a text of which the text is a part. -/
def behind (offset : Nat) (w : InlineLink) : InlineLink :=
  ⟨offset + w.start, offset + w.labelStop, offset + w.stop⟩

/-- Brackets and parentheses stand at the positions of the link. -/
structure StandsIn (text : Array Char) (w : InlineLink) : Prop where
  opening : text[w.start]? = some '['
  label_le : w.start + 1 ≤ w.labelStop
  closing : text[w.labelStop]? = some ']'
  parenthesis : text[w.labelStop + 1]? = some '('
  inside_le : w.labelStop + 2 ≤ w.stop
  ending : text[w.stop]? = some ')'

theorem StandsIn.source_eq (h : w.StandsIn text) :
    w.source text = '[' :: w.label text ++ "](".toList ++ w.inside text ++ [')'] := by
  have hlabel := h.label_le
  have hinside := h.inside_le
  rw [source, slice_concat h.ending (by omega), slice_cons h.opening (by omega),
    ← slice_append text hlabel (by omega), slice_cons h.closing (by omega),
    slice_cons h.parenthesis (by omega)]
  simp [label, inside]

theorem StandsIn.behind {start stop : Nat} (h : w.StandsIn (slice text start stop).toArray) :
    (w.behind start).StandsIn text where
  opening := (getElem?_slice h.opening).1
  label_le := Nat.add_le_add_left h.label_le start
  closing := (getElem?_slice h.closing).1
  parenthesis := (getElem?_slice h.parenthesis).1
  inside_le := Nat.add_le_add_left h.inside_le start
  ending := (getElem?_slice h.ending).1

theorem StandsIn.inside_behind {start stop : Nat} (h : w.StandsIn (slice text start stop).toArray) :
    w.inside (slice text start stop).toArray = (w.behind start).inside text := by
  rw [inside, slice_slice text (Nat.le_of_lt (getElem?_slice h.ending).2)]
  rfl

end InlineLink

/-- How a link with a target comes into a text: it is written there, or it has been written in some other
way, with a label that is defined or as an address. -/
inductive Comes (references : List (String × Reference)) (text : Array Char) (target : String) :
    Option InlineLink → Prop
  | written {w : InlineLink} (hw : w.StandsIn text) (h : LeadsTo (w.inside text) target.toList) :
      Comes references text target (some w)
  | defined {r : String × Reference} (hr : r ∈ references) (h : target = r.2.target) :
      Comes references text target none
  /-- An address or a mail address in angle brackets. -/
  | bracketed {url address : List Char} (hurl : '<' :: url ++ ['>'] <:+: text.toList)
      (haddress : address = url ∨ address = "mailto:".toList ++ url)
      (h : allowedTarget? address = some target.toList) : Comes references text target none
  /-- An address with its scheme, less the asterisks at its end. -/
  | address {part url : List Char} (hpart : part <:+: text.toList)
      (hurl : Autolink.atStart? part.toArray = some url)
      (h : allowedTarget? (url.reverse.dropWhile (· == '*')).reverse = some target.toList) :
      Comes references text target none

theorem Comes.behind {references : List (String × Reference)} {text : Array Char} {target : String}
    {o : Option InlineLink} {start stop : Nat}
    (h : Comes references (slice text start stop).toArray target o) :
    Comes references text target (o.map (InlineLink.behind start)) := by
  cases h with
  | written hw h => exact .written hw.behind (hw.inside_behind ▸ h)
  | defined hr h => exact .defined hr h
  | bracketed hurl haddress h => exact .bracketed (hurl.trans (infix_slice text start stop)) haddress h
  | address hpart hurl h => exact .address (hpart.trans (infix_slice text start stop)) hurl h

/-! ### Targets -/

section

variable {text : Array Char} {p q stop : Nat} {target : List Char}

theorem angleEnd?_bounds {fuel : Nat} (h : angleEnd? text stop fuel p = some q) :
    p ≤ q ∧ text[q]? = some '>' := by
  induction fuel generalizing p with
  | zero => cases h
  | succ fuel ih =>
    unfold angleEnd? at h
    split at h
    · cases h
    · split at h
      · cases h
      · cases h
      · rename_i hend
        obtain rfl := Option.some.inj h
        exact ⟨Nat.le_refl p, hend⟩
      · obtain ⟨hle, hend⟩ := ih h
        refine ⟨Nat.le_trans ?_ hle, hend⟩
        split <;> omega
      · obtain ⟨hle, hend⟩ := ih h
        exact ⟨Nat.le_of_succ_le hle, hend⟩

theorem le_of_plainEnd? {fuel level level' : Nat} (h : plainEnd? text stop fuel level p = some (q, level')) :
    p ≤ q := by
  induction fuel generalizing level p with
  | zero =>
    obtain ⟨rfl, -⟩ := Prod.mk.inj (Option.some.inj h)
    exact Nat.le_refl p
  | succ fuel ih =>
    have hstay (h : some (p, level) = some (q, level')) : p ≤ q := by
      obtain ⟨rfl, -⟩ := Prod.mk.inj (Option.some.inj h)
      exact Nat.le_refl p
    unfold plainEnd? at h
    split at h
    · exact hstay h
    · split at h
      · exact hstay h
      · split at h
        · exact hstay h
        · split at h
          · split at h
            · exact hstay h
            · exact Nat.le_trans (Nat.le_add_right p 2) (ih h)
          · split at h
            · split at h
              · cases h
              · exact Nat.le_of_succ_le (ih h)
            · split at h
              · split at h
                · exact hstay h
                · exact Nat.le_of_succ_le (ih h)
              · exact Nat.le_of_succ_le (ih h)

/-- A target is what it is written as, without escapes and perhaps between angle brackets. -/
theorem exists_raw_of_target? (h : target? text p stop = some (target, q)) :
    p ≤ q ∧ ∃ raw, target = unescape raw ∧
      (slice text p q = raw ∨ slice text p q = '<' :: raw ++ ['>']) := by
  unfold target? at h
  split at h
  · rename_i hopening
    obtain ⟨r, hr, h⟩ := Option.map_eq_some_iff.1 h
    obtain ⟨rfl, rfl⟩ := Prod.mk.inj h
    obtain ⟨hle, hend⟩ := angleEnd?_bounds hr
    refine ⟨by omega, _, rfl, .inr ?_⟩
    rw [slice_concat hend (Nat.le_of_succ_le hle), slice_cons (beq_iff_eq.1 hopening) hle]
  · split at h
    · rename_i hend
      split at h
      · cases h
      · obtain ⟨rfl, rfl⟩ := Prod.mk.inj (Option.some.inj h)
        exact ⟨le_of_plainEnd? hend, _, rfl, .inl rfl⟩
    · cases h

theorem le_of_titleEnd {closer : Char} {fuel : Nat} (h : titleEnd text closer stop fuel p = some q) :
    p ≤ q := by
  induction fuel generalizing p with
  | zero =>
    obtain rfl := Option.some.inj h
    exact Nat.le_refl p
  | succ fuel ih =>
    have hstay (h : some p = some q) : p ≤ q := Nat.le_of_eq (Option.some.inj h)
    unfold titleEnd at h
    split at h
    · exact hstay h
    · split at h
      · exact hstay h
      · split at h
        · exact hstay h
        · split at h
          · cases h
          · split at h
            · exact Nat.le_trans (Nat.le_add_right p 2) (ih h)
            · exact Nat.le_of_succ_le (ih h)

theorem le_of_scanTitle {title : List Char} (h : scanTitle text p stop = .closed title q) : p ≤ q := by
  have hcontinue (closer : Char) (h : continueTitle text [] closer (p + 1) stop = .closed title q) :
      p ≤ q := by
    unfold continueTitle at h
    split at h
    · cases h
    · rename_i hend
      have hle := le_of_titleEnd hend
      dsimp only at h
      split at h
      · obtain ⟨-, rfl⟩ := TitleScan.closed.inj h
        omega
      · cases h
  unfold scanTitle at h
  split at h
  · cases h
  · split at h
    · exact hcontinue _ h
    · exact hcontinue _ h
    · exact hcontinue _ h
    · cases h

end

/-! ### Targets as they are stored -/

namespace Url

theorem isPlain_hexDigit : ∀ d : Fin 16, isPlain
    (if (d : Nat) < 10 then Char.ofNat (d + 48) else Char.ofNat (d + 55)) = true := by
  decide

theorem plain_percent (c : Char) : ∀ x ∈ percent c, isPlain x = true ∨ x = '%' := by
  refine fun x hx => ?_
  obtain ⟨b, -, hx⟩ := List.mem_flatMap.1 hx
  have hb : b.toNat < 256 := b.toNat_lt
  rcases List.mem_cons.1 hx with rfl | hx
  · exact .inr rfl
  · simp only [hexByte, List.mem_cons, List.not_mem_nil, or_false] at hx
    rcases hx with rfl | rfl
    · exact .inl (isPlain_hexDigit ⟨b.toNat / 16, by omega⟩)
    · exact .inl (isPlain_hexDigit ⟨b.toNat % 16, by omega⟩)

theorem isPlain_of_isHex {c : Char} (h : isHex c = true) : isPlain c = true := by
  have hlower (ha : 'a' ≤ c) (hz : c ≤ 'z') : c.isLower = true :=
    Bool.and_eq_true_iff.2 ⟨decide_eq_true ha, decide_eq_true hz⟩
  have hupper (ha : 'A' ≤ c) (hz : c ≤ 'Z') : c.isUpper = true :=
    decide_eq_true ⟨ha, hz⟩
  have halpha : ((c.isUpper || c.isLower) || c.isDigit) = true := by
    simp only [isHex, Bool.or_eq_true, Bool.and_eq_true, decide_eq_true_eq] at h ⊢
    rcases h with (hdigit | ⟨ha, hf⟩) | ⟨ha, hf⟩
    · exact .inr hdigit
    · exact .inl (.inr (hlower ha (Char.le_trans hf (by decide))))
    · exact .inl (.inl (hupper ha (Char.le_trans hf (by decide))))
  exact Bool.or_eq_true_iff.2 (.inl halpha)

/-- What is in percent notation needs no character but plain ones and percent signs. -/
theorem plain_encode (cs : List Char) : ∀ c ∈ encode cs, isPlain c = true ∨ c = '%' := by
  fun_induction encode cs with
  | case1 a b rest hhex ih =>
    obtain ⟨ha, hb⟩ := Bool.and_eq_true_iff.1 hhex
    exact List.forall_mem_cons.2 ⟨.inr rfl, List.forall_mem_cons.2 ⟨.inl (isPlain_of_isHex ha),
      List.forall_mem_cons.2 ⟨.inl (isPlain_of_isHex hb), ih⟩⟩⟩
  | case2 a b rest hhex ih =>
    exact List.forall_mem_cons.2 ⟨.inr rfl, List.forall_mem_cons.2 ⟨.inl rfl,
      List.forall_mem_cons.2 ⟨.inl rfl, ih⟩⟩⟩
  | case3 c rest hpercent ih =>
    refine List.forall_mem_append.2 ⟨?_, ih⟩
    split
    · rename_i hplain
      exact List.forall_mem_singleton.2 (.inl hplain)
    · exact plain_percent c
  | case4 => exact List.forall_mem_nil _

/-- A target that is stored has no character in it that could have replaced another one. -/
theorem replacement_not_mem_normalize (address : List Char) : '\uFFFD' ∉ normalize address := by
  have hencode (cs : List Char) : '\uFFFD' ∉ encode cs := fun h => by
    rcases plain_encode cs _ h with h | h <;> revert h <;> decide
  unfold normalize formatWith
  dsimp only
  split <;> simp [hencode]

end Url

theorem LeadsTo.replacement_not_mem {inside target : List Char} (h : LeadsTo inside target) :
    '\uFFFD' ∉ target := by
  have hallowed {address : List Char} (h : allowedTarget? address = some target) : '\uFFFD' ∉ target := by
    unfold allowedTarget? at h
    dsimp only at h
    split at h
    · obtain rfl := Option.some.inj h
      exact Url.replacement_not_mem_normalize address
    · cases h
  cases h with
  | nowhere => exact List.not_mem_nil
  | plain _ _ htarget => exact hallowed htarget
  | bracketed _ _ htarget => exact hallowed htarget

namespace Inline

/-- What is found between the parentheses of a link whose target ends at a position. A title stands
behind blanks. -/
def View.behindTarget (v : View) (target : List Char) (p : Nat) : Option (List Char × List Char × Nat) :=
  let q := v.skipBlanks p
  match if q == p then TitleScan.invalid else scanTitle v.text q v.stop with
  | .closed title after => some (target, title, v.skipBlanks after)
  | _ => some (target, [], q)

theorem View.le_skipBlanks (v : View) (p : Nat) : p ≤ v.skipBlanks p :=
  le_skip _ _ _ _

theorem View.eq_of_behindTarget {v : View} {p q : Nat} {url target title : List Char}
    (h : v.behindTarget url p = some (target, title, q)) : target = url ∧ p ≤ q := by
  have hblanks := v.le_skipBlanks
  unfold behindTarget at h
  dsimp only at h
  split at h
  · rename_i htitle
    obtain ⟨rfl, hrest⟩ := Prod.mk.inj (Option.some.inj h)
    obtain ⟨-, rfl⟩ := Prod.mk.inj hrest
    split at htitle
    · cases htitle
    · exact ⟨rfl, Nat.le_trans (hblanks _) (Nat.le_trans (le_of_scanTitle htitle) (hblanks _))⟩
  · obtain ⟨rfl, hrest⟩ := Prod.mk.inj (Option.some.inj h)
    obtain ⟨-, rfl⟩ := Prod.mk.inj hrest
    exact ⟨rfl, hblanks _⟩

/-- What is between the parentheses of a link leads to its target. -/
theorem View.leadsTo_of_parenthesized? {v : View} {p q : Nat} {target title : List Char}
    (h : v.parenthesized? p = some (target, title, q)) :
    p ≤ q ∧ LeadsTo (slice v.text p q) target := by
  have hblanks := v.le_skipBlanks p
  unfold parenthesized? at h
  dsimp only at h
  split at h
  · cases h
  · cases htarget : target? v.text (v.skipBlanks p) v.stop with
    | none =>
      simp only [htarget] at h
      obtain ⟨rfl, hle⟩ := eq_of_behindTarget h
      exact ⟨Nat.le_trans hblanks hle, .nowhere⟩
    | some found =>
      obtain ⟨t, r⟩ := found
      simp only [htarget] at h
      cases hallowed : allowedTarget? t with
      | none =>
        simp only [hallowed] at h
        obtain ⟨rfl, hle⟩ := eq_of_behindTarget h
        exact ⟨Nat.le_trans hblanks hle, .nowhere⟩
      | some url =>
        simp only [hallowed] at h
        obtain ⟨rfl, hle⟩ := eq_of_behindTarget h
        obtain ⟨hraw, raw, rfl, hslice⟩ := exists_raw_of_target? htarget
        have hblank : ∀ c ∈ slice v.text p (v.skipBlanks p), (isSpace c || c == '\n') = true :=
          all_slice_skipWhile v.text _ (v.stop - p) p
        refine ⟨Nat.le_trans hblanks (Nat.le_trans hraw hle), ?_⟩
        rw [← slice_append v.text (Nat.le_trans hblanks hraw) hle,
          ← slice_append v.text hblanks hraw]
        rcases hslice with hslice | hslice
        · exact .plain (by rw [hslice]) hblank hallowed
        · exact .bracketed (by rw [hslice]) hblank hallowed

end Inline

end ProposalCheck.Markup
