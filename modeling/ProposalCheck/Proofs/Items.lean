import Mathlib.Data.Option.Basic
import ProposalCheck.Proofs.InlineLinks

/-!
# The items of a text

`Inline.View.yields_recognize`: the item at a position ends behind it (`Inline.Item.StandsAt`). If it is a
link, then it is written from there on or comes into the text in some other way.

Where an item ends may be remembered from an earlier search. That nothing else is remembered is carried along
with every computation that skips items (`Inline.Yields`).
-/

namespace ProposalCheck.Markup.Inline

variable {α β : Type} {references : List (String × Reference)}

/-! ### What is remembered -/

/-- Items that are remembered do not end in front of the position at which they start. -/
def Memory.Advances (m : Memory) : Prop :=
  ∀ p q : Nat, m.ends[p]? = some q → p ≤ q

theorem advances_empty : ({} : Memory).Advances :=
  fun p q h => by simp at h

theorem Memory.Advances.insert {m : Memory} {p q : Nat} (h : m.Advances) (hp : p ≤ q) :
    Memory.Advances { m with ends := m.ends.insert p q } := by
  intro p' q' h'
  rw [Std.TreeMap.getElem?_insert] at h'
  split at h'
  · rename_i heq
    obtain rfl := Std.LawfulEqCmp.eq_of_compare heq
    obtain rfl := Option.some.inj h'
    exact hp
  · exact h p' q' h'

/-- A computation gives a result that satisfies a condition, and remembers only items that do not end in
front of their start. -/
def Yields (P : α → Prop) (x : Skipping α) : Prop :=
  ∀ m : Memory, m.Advances → P (x.run m).1 ∧ (x.run m).2.Advances

namespace Yields

variable {P : α → Prop} {Q : β → Prop} {x : Skipping α} {f : α → Skipping β}

protected theorem pure {a : α} (h : P a) : Yields P (pure a) :=
  fun _ hm => ⟨h, hm⟩

protected theorem bind (hx : Yields P x) (hf : ∀ a, P a → Yields Q (f a)) : Yields Q (x >>= f) :=
  fun m hm =>
    have ⟨ha, hm'⟩ := hx m hm
    hf _ ha _ hm'

theorem mono {P' : α → Prop} (hx : Yields P x) (h : ∀ a, P a → P' a) : Yields P' x :=
  fun m hm => ⟨h _ (hx m hm).1, (hx m hm).2⟩

protected theorem get : Yields Memory.Advances get :=
  fun _ hm => ⟨hm, hm⟩

protected theorem modify {g : Memory → Memory} (hg : ∀ m, m.Advances → (g m).Advances) :
    Yields (fun _ => True) (modify g) :=
  fun m hm => ⟨trivial, hg m hm⟩

end Yields

/-- A computation finds items that satisfy a condition together with their ends. -/
abbrev YieldsItem (P : Item → Nat → Prop) (x : Skipping (Option (Item × Nat))) : Prop :=
  Yields (fun found => ∀ r ∈ found, P r.1 r.2) x

namespace Yields

variable {P : Item → Nat → Prop} {x y : Skipping (Option (Item × Nat))}

theorem nothing : YieldsItem P (pure none) :=
  .pure fun r hr => by cases hr

theorem item {item : Item} {q : Nat} (h : P item q) : YieldsItem P (pure (some (item, q))) :=
  .pure fun r hr => by
    obtain rfl := Option.mem_some_iff.1 hr
    exact h

theorem orElse (hx : YieldsItem P x) (hy : YieldsItem P y) :
    YieldsItem P (do match ← x with | some found => pure (some found) | _ => y) := by
  refine .bind hx fun found hfound => ?_
  split
  · exact .pure hfound
  · exact hy

end Yields

/-! ### Items -/

/-- What is found at a position of a part of a text that ends at a limit, and how far it goes. -/
def Item.StandsAt (references : List (String × Reference)) (text : Array Char) (limit p : Nat) :
    Item → Nat → Prop
  | .link start stop target _, q => p < start ∧ start ≤ stop ∧ stop < q ∧ q ≤ limit ∧
      ∃ o, Comes references text (String.ofList target) o ∧ ∀ w ∈ o, w.start = p
  | .image start stop _ _, q | .note start stop, q => p < start ∧ start ≤ stop ∧ stop < q ∧ q ≤ limit
  | .address _ target _, q => p ≤ q ∧ Comes references text (String.ofList target) none
  | .autolink target _, q => p ≤ q ∧ Comes references text (String.ofList target) none
  | _, q => p ≤ q

namespace View

variable {v : View} {skip : Skip} {p q : Nat} {item : Item}

/-- What is found at a position of the part that is read. -/
abbrev Finds (v : View) (p : Nat) : Item → Nat → Prop :=
  Item.StandsAt v.references v.text v.stop p

theorem lt_of_at? {c : Char} (h : v.at? p = some c) : p < v.stop ∧ v.text[p]? = some c := by
  unfold at? at h
  split at h
  · rename_i hp
    exact ⟨hp, h⟩
  · cases h

theorem finds_plain? (h : v.plain? p = some (item, q)) : v.Finds p item q := by
  unfold plain? at h
  dsimp only at h
  split at h
  · cases h
  · obtain ⟨rfl, rfl⟩ := Prod.mk.inj (Option.some.inj h)
    exact le_skip _ _ _ _

theorem finds_address? (h : v.address? p = some (item, q)) : v.Finds p item q := by
  unfold address? at h
  dsimp only at h
  split at h
  · cases h
  split at h
  · cases h
  split at h
  · cases h
  · rename_i url hurl
    split at h
    · cases h
    split at h
    · cases h
    · rename_i target htarget
      obtain ⟨rfl, rfl⟩ := Prod.mk.inj (Option.some.inj h)
      have hpart (start : Nat) : (v.text.extract start v.text.size).toList <:+: v.text.toList :=
        infix_slice v.text _ _
      refine ⟨Nat.le_add_right _ _, .address (hpart _) hurl ?_⟩
      rw [String.toList_ofList]
      exact htarget

theorem finds_lineEnd? (h : v.lineEnd? p = some (item, q)) : v.Finds p item q := by
  unfold lineEnd? at h
  split at h
  · obtain ⟨rfl, rfl⟩ := Prod.mk.inj (Option.some.inj h)
    exact Nat.le_of_succ_le (le_skip _ _ _ _)
  · cases h

theorem finds_escape? (h : v.escape? p = some (item, q)) : v.Finds p item q := by
  unfold escape? at h
  split at h
  · cases h
  · split at h
    · cases h
    · obtain ⟨rfl, rfl⟩ := Prod.mk.inj (Option.some.inj h)
      exact Nat.le_trans (Nat.le_add_right p 2) (le_skip _ _ _ _)
    · obtain ⟨rfl, rfl⟩ := Prod.mk.inj (Option.some.inj h)
      exact Nat.le_add_right p 2

theorem finds_entity? (h : v.entity? p = some (item, q)) : v.Finds p item q := by
  unfold entity? at h
  split at h
  · cases h
  · split at h
    · cases h
    · obtain ⟨cs, -, hcs⟩ := Option.map_eq_some_iff.1 h
      obtain ⟨rfl, rfl⟩ := Prod.mk.inj hcs
      exact Nat.le_trans (Nat.le_add_right _ _) (Nat.le_add_right _ 2)

theorem finds_noteRef? (h : v.noteRef? p = some (item, q)) : v.Finds p item q := by
  unfold noteRef? at h
  dsimp only at h
  split at h
  · cases h
  · split at h
    · obtain ⟨rfl, rfl⟩ := Prod.mk.inj (Option.some.inj h)
      exact Nat.le_trans (Nat.le_add_right p 2) (Nat.le_succ_of_le (le_skip _ _ _ _))
    · cases h

theorem finds_autolink? (h : v.autolink? p = some (item, q)) : v.Finds p item q := by
  unfold autolink? at h
  dsimp only at h
  split at h
  · cases h
  rename_i hopening
  split at h
  · cases h
  · rename_i hclosing
    obtain ⟨target, htarget, hitem⟩ := Option.map_eq_some_iff.1 h
    obtain ⟨rfl, rfl⟩ := Prod.mk.inj hitem
    have hle := le_skip v.text (fun c => c != '<' && c != '>') (p + 1) v.stop
    have hopened : v.text[p]? = some '<' := by simpa using hopening
    have hclosed := (lt_of_at? (c := '>') (by simpa using hclosing)).2
    refine ⟨by omega, ?_⟩
    obtain ⟨address, haddress, hallowed⟩ := Option.bind_eq_some_iff.1 htarget
    generalize Markup.skip v.text _ (p + 1) v.stop = r at *
    have hurl : '<' :: slice v.text (p + 1) r ++ ['>'] <:+: v.text.toList := by
      rw [← slice_cons hopened hle, ← slice_concat hclosed (Nat.le_of_succ_le hle)]
      exact infix_slice _ _ _
    refine .bracketed hurl ?_ (by rw [String.toList_ofList]; exact hallowed)
    split at haddress
    · exact .inl (Option.some.inj haddress).symm
    · split at haddress
      · exact .inr (Option.some.inj haddress).symm
      · cases haddress

theorem finds_html? (h : v.html? p = some (item, q)) : v.Finds p item q := by
  unfold html? at h
  split at h
  · cases h
  · split at h
    · cases h
    · split at h
      · obtain ⟨m, -, hm⟩ := Option.map_eq_some_iff.1 h
        obtain ⟨rfl, rfl⟩ := Prod.mk.inj hm
        exact Nat.le_add_right _ _
      · cases h

theorem yields_backticks? (v : View) (n fuel p : Nat) :
    Yields (fun found => ∀ r ∈ found, p ≤ r.2) (v.backticks? n fuel p) := by
  induction fuel generalizing p with
  | zero => exact .pure fun r hr => by cases hr
  | succ fuel ih =>
    have hstart := le_skip v.text (· != '\x60') p v.text.size
    have hstop := le_skip v.text (· == '\x60') (Markup.skip v.text (· != '\x60') p v.text.size + 1) v.stop
    unfold backticks?
    dsimp only
    split
    · exact .bind (.modify fun m hm => hm) fun _ _ => .pure fun r hr => by cases hr
    · split
      · refine .pure fun r hr => ?_
        obtain rfl := Option.mem_some_iff.1 hr
        dsimp only
        omega
      · refine .bind (.modify fun m hm => hm) fun _ _ => .mono (ih _) fun found hfound r hr => ?_
        exact Nat.le_trans (by omega) (hfound r hr)

theorem yields_code? (v : View) (p : Nat) : YieldsItem (v.Finds p) (v.code? p) := by
  have hq := le_skip v.text (· == '\x60') (p + 1) v.stop
  unfold code?
  split
  · exact .nothing
  · refine .bind .get fun m _ => ?_
    split
    · exact .item (Nat.le_of_succ_le hq)
    · refine .bind (v.yields_backticks? _ _ _) fun found hfound => ?_
      split
      · exact .item (Nat.le_trans (Nat.le_of_succ_le hq) (hfound _ rfl))
      · exact .item (Nat.le_of_succ_le hq)

/-! ### Brackets -/

/-- Skipping an item of the part that is read does not go back. -/
def Goes (v : View) (skip : Skip) : Prop :=
  ∀ p < v.stop, Yields (p ≤ ·) (skip p)

section

variable (hskip : v.Goes skip)

include hskip

theorem yields_labelEndFrom (strict : Bool) (fuel level p : Nat) :
    Yields (fun found => ∀ q ∈ found, p ≤ q ∧ v.at? q = some ']')
      (v.labelEndFrom skip strict fuel level p) := by
  induction fuel generalizing level p with
  | zero => exact .pure fun q hq => by cases hq
  | succ fuel ih =>
    unfold labelEndFrom
    split
    · exact .pure fun q hq => by cases hq
    · rename_i c hc
      split
      · rename_i hend
        refine .pure fun q hq => ?_
        obtain rfl := Option.mem_some_iff.1 hq
        obtain rfl : c = ']' := beq_iff_eq.1 (Bool.and_eq_true_iff.1 hend).1
        exact ⟨Nat.le_refl p, hc⟩
      · refine .bind (hskip p (lt_of_at? hc).1) fun r hr => ?_
        have hrest (level : Nat) : Yields (fun found => ∀ q ∈ found, p ≤ q ∧ v.at? q = some ']')
            (v.labelEndFrom skip strict fuel level r) :=
          .mono (ih level r) fun found hfound q hq =>
            ⟨Nat.le_trans hr (hfound q hq).1, (hfound q hq).2⟩
        split
        · exact hrest _
        · split
          · exact hrest _
          · split
            · exact .pure fun q hq => by cases hq
            · exact hrest _

theorem yields_labelEnd? (strict : Bool) (p : Nat) :
    Yields (fun found => ∀ q ∈ found, p + 1 ≤ q ∧ v.at? q = some ']') (v.labelEnd? skip strict p) :=
  yields_labelEndFrom hskip strict _ _ _

/-- A label that is defined follows a closing bracket, or there is none behind it. -/
theorem yields_reference? (start : Nat) {stop : Nat} (hp : stop < p) (hstop : stop < v.stop) :
    Yields (fun found => ∀ r ∈ found, (∃ key, (key, r.1) ∈ v.references) ∧ stop < r.2 ∧ r.2 ≤ v.stop)
      (v.reference? skip start stop p) := by
  unfold reference?
  split
  · exact .pure fun r hr => by cases hr
  · have hnone : stop < stop + 1 ∧ stop + 1 ≤ v.stop := ⟨Nat.lt_succ_self stop, hstop⟩
    have hlookup (key : String) {q : Nat} (hq : stop < q ∧ q ≤ v.stop) :
        Yields (fun found => ∀ r ∈ found, (∃ key, (key, r.1) ∈ v.references) ∧ stop < r.2 ∧ r.2 ≤ v.stop)
          (pure ((v.references.find? (·.1 == key)).map fun r => (r.2, q))) := by
      refine .pure fun r hr => ?_
      obtain ⟨x, hx, rfl⟩ := Option.map_eq_some_iff.1 hr
      exact ⟨⟨x.1, List.mem_of_find?_eq_some hx⟩, hq⟩
    dsimp only
    split
    · refine .bind (yields_labelEnd? hskip false p) fun q hq => ?_
      split
      · obtain ⟨hle, hend⟩ := hq _ rfl
        exact hlookup _ ⟨by omega, (lt_of_at? hend).1⟩
      · exact hlookup _ hnone
    · exact hlookup _ hnone

/-- The link whose text ends at a position, if there is a reference behind the text. -/
def referenced? (v : View) (skip : Skip) (start stop p : Nat) : Skipping (Option (Item × Nat)) := do
  let some (r, q) ← v.reference? skip start stop p | return none
  return some (.link start stop r.target.toList r.title.toList, q)

theorem yields_referenced? {p start stop q : Nat} (hp : p < start) (hle : start ≤ stop) (hq : stop < q)
    (hlt : stop < v.stop) : YieldsItem (v.Finds p) (v.referenced? skip start stop q) := by
  refine .bind (yields_reference? hskip start hq hlt) fun found hfound => ?_
  split
  · obtain ⟨⟨key, hkey⟩, hbehind, hlimit⟩ := hfound _ rfl
    exact .item ⟨hp, hle, hbehind, hlimit, none, .defined hkey String.ofList_toList,
      fun w hw => by cases hw⟩
  · exact .nothing

theorem yields_link? (p : Nat) : YieldsItem (v.Finds p) (v.link? skip p) := by
  unfold link?
  split
  · exact .nothing
  · rename_i hopening
    have hopened : v.text[p]? = some '[' := by simpa using hopening
    refine .bind (yields_labelEnd? hskip true p) fun stop hstop => ?_
    split
    · rename_i stop
      obtain ⟨hlabel, hend⟩ := hstop _ rfl
      obtain ⟨hlt, hclosed⟩ := lt_of_at? hend
      have hreference {q : Nat} (hq : stop < q) :
          YieldsItem (v.Finds p) (v.referenced? skip (p + 1) stop q) :=
        yields_referenced? hskip (Nat.lt_succ_self p) hlabel hq hlt
      dsimp only
      split
      · rename_i hparenthesis
        have hparen := (lt_of_at? (beq_iff_eq.1 hparenthesis)).2
        split
        · exact .nothing
        · rename_i target title q hinside
          obtain ⟨hle, hleads⟩ := leadsTo_of_parenthesized? hinside
          split
          · rename_i hending
            obtain ⟨hqlt, hqend⟩ := lt_of_at? (beq_iff_eq.1 hending)
            refine .item ⟨Nat.lt_succ_self p, hlabel, by omega, hqlt, some ⟨p, stop, q⟩,
              .written ⟨hopened, hlabel, hclosed, hparen, hle, hqend⟩ ?_, fun w hw => ?_⟩
            · rw [String.toList_ofList]
              exact hleads
            · obtain rfl := Option.mem_some_iff.1 hw
              rfl
          · exact hreference (by omega)
      · exact hreference (Nat.lt_succ_self stop)
    · exact .nothing

theorem yields_image? (p : Nat) : YieldsItem (v.Finds p) (v.image? skip p) := by
  unfold image?
  split
  · exact .nothing
  · refine .bind (yields_labelEnd? hskip false (p + 1)) fun stop hstop => ?_
    split
    · rename_i stop
      obtain ⟨hlabel, hend⟩ := hstop _ rfl
      have hlt := (lt_of_at? hend).1
      split
      · split
        · exact .nothing
        · rename_i target title q hinside
          have hle := (leadsTo_of_parenthesized? hinside).1
          split
          · rename_i hending
            have hqlt := (lt_of_at? (beq_iff_eq.1 hending)).1
            exact .item ⟨by omega, hlabel, by omega, hqlt⟩
          · exact .nothing
      · refine .bind (yields_reference? hskip (p + 2) (Nat.lt_succ_self stop) hlt) fun found hfound => ?_
        split
        · obtain ⟨-, hbehind, hlimit⟩ := hfound _ rfl
          exact .item ⟨by omega, hlabel, hbehind, hlimit⟩
        · exact .nothing
    · exact .nothing

theorem yields_note? (p : Nat) : YieldsItem (v.Finds p) (v.note? skip p) := by
  unfold note?
  split
  · exact .nothing
  · refine .bind (yields_labelEnd? hskip false (p + 1)) fun stop hstop => ?_
    split
    · obtain ⟨hlabel, hend⟩ := hstop _ rfl
      have hlt := (lt_of_at? hend).1
      exact .item ⟨by omega, hlabel, Nat.lt_succ_self _, hlt⟩
    · exact .nothing

/-- The item at a position does not end in front of it, and a link is written from there on or comes
into the text in some other way. -/
theorem yields_recognize (p : Nat) : YieldsItem (v.Finds p) (v.recognize skip p) := by
  have hfirst : ∀ r ∈ v.plain? p <|> v.address? p <|> v.lineEnd? p <|> v.escape? p,
      v.Finds p r.1 r.2 := by
    rintro ⟨item, q⟩ h
    rcases (Option.orElse_eq_some _ _ _).1 h with h | ⟨-, h⟩
    · exact finds_plain? h
    rcases (Option.orElse_eq_some _ _ _).1 h with h | ⟨-, h⟩
    · exact finds_address? h
    rcases (Option.orElse_eq_some _ _ _).1 h with h | ⟨-, h⟩
    · exact finds_lineEnd? h
    · exact finds_escape? h
  have hlast : ∀ r ∈ v.noteRef? p <|> v.autolink? p <|> v.html? p <|> v.entity? p,
      v.Finds p r.1 r.2 := by
    rintro ⟨item, q⟩ h
    rcases (Option.orElse_eq_some _ _ _).1 h with h | ⟨-, h⟩
    · exact finds_noteRef? h
    rcases (Option.orElse_eq_some _ _ _).1 h with h | ⟨-, h⟩
    · exact finds_autolink? h
    rcases (Option.orElse_eq_some _ _ _).1 h with h | ⟨-, h⟩
    · exact finds_html? h
    · exact finds_entity? h
  unfold recognize
  dsimp only
  split
  · exact .pure hfirst
  · exact .orElse (v.yields_code? p) (.orElse (yields_link? hskip p)
      (.orElse (yields_image? hskip p) (.orElse (yields_note? hskip p) (.pure hlast))))

end

theorem le_of_finds (h : v.Finds p item q) : p ≤ q := by
  cases item with
  | link | image | note =>
    obtain ⟨hstart, hle, hstop, -⟩ := h
    omega
  | address | autolink => exact h.1
  | _ => exact h

theorem goes_skipItem (v : View) (room : Nat) : v.Goes (v.skipItem room) := by
  have hremembered {p q : Nat} (hle : p ≤ q) : Yields (p ≤ ·) (do
      modify fun m : Memory => { m with ends := m.ends.insert p q }
      return q) :=
    .bind (.modify fun m hm => hm.insert hle) fun _ _ => .pure hle
  induction room with
  | zero =>
    intro p hp
    refine .bind .get fun m hm => ?_
    split
    · rename_i q hq
      exact .pure (hm p q hq)
    · exact hremembered (by omega)
  | succ room ih =>
    intro p _
    refine .bind .get fun m hm => ?_
    split
    · rename_i q hq
      exact .pure (hm p q hq)
    · refine .bind (yields_recognize ih p) fun found hfound => ?_
      cases found with
      | none => exact hremembered (Nat.le_succ p)
      | some r => exact hremembered (le_of_finds (hfound r rfl))

end View

end ProposalCheck.Markup.Inline
