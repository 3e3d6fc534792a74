import ProposalCheck.Markup.Inline.Delimiter

/-!
# Marks of emphasis that belong together

Each mark that may close something looks for a mark in front of it that opens it. Pairing leaves the marks
where they are (`Inline.map_event_pairUp`), and of all of them each one opens or closes at most once
(`Inline.paired_pairUp`): a mark gets a partner only if it has none and may still open something, and the
mark that closes may open nothing from then on.
-/

namespace ProposalCheck.Markup.Inline

/-- What a mark opens is closed by one of its kind behind it, which opens nothing itself and closes nothing
else. -/
structure Paired (ds : Array Delimiter) : Prop where
  closer {i j : Nat} {d : Delimiter} (hd : ds[i]? = some d) (hj : d.partner = some j) :
    i < j ∧ ∃ d', ds[j]? = some d' ∧ d'.partner = none ∧ d'.marker = d.marker
  single {i i' j : Nat} {d d' : Delimiter} (hd : ds[i]? = some d) (hd' : ds[i']? = some d')
    (hj : d.partner = some j) (hj' : d'.partner = some j) : i = i'

namespace Pairing

variable {s : Pairing} {k o i j : Nat} {d closer : Delimiter}

/-- The delimiters below index `k` have looked for their openers. -/
structure Sound (k : Nat) (s : Pairing) : Prop where
  header_le : s.header ≤ k
  closer {i j : Nat} {d : Delimiter} (hd : s.delimiters[i]? = some d) (hj : d.partner = some j) :
    i < j ∧ j < k ∧ ∃ d', s.delimiters[j]? = some d' ∧ d'.partner = none ∧ d'.marker = d.marker ∧
      d'.opens = false
  single {i i' j : Nat} {d d' : Delimiter} (hd : s.delimiters[i]? = some d)
    (hd' : s.delimiters[i']? = some d') (hj : d.partner = some j) (hj' : d'.partner = some j) : i = i'

theorem Sound.paired (h : s.Sound k) : Paired s.delimiters where
  closer hd hj := by
    obtain ⟨hlt, -, d', hd', hpartner, hmarker, -⟩ := h.closer hd hj
    exact ⟨hlt, d', hd', hpartner, hmarker⟩
  single := h.single

/-- What the search for an opener does not change is not changed. -/
theorem Sound.of_delimiters {s' : Pairing} {k' : Nat} (h : s.Sound k) (hk : k ≤ k')
    (hdelimiters : s'.delimiters = s.delimiters) (hheader : s'.header ≤ k') : s'.Sound k' where
  header_le := hheader
  closer hd hj := by
    rw [hdelimiters] at hd ⊢
    obtain ⟨hlt, hjk, hcloser⟩ := h.closer hd hj
    exact ⟨hlt, Nat.lt_of_lt_of_le hjk hk, hcloser⟩
  single hd hd' := h.single (hdelimiters ▸ hd) (hdelimiters ▸ hd')

/-- An opener that is found may open something, has no partner yet, and is of the kind of the closer. -/
theorem findOpener_spec {bottom : Int} {fuel : Nat} {start : Int}
    (h : findOpener s closer bottom fuel start = some o) :
    (o : Int) ≤ start ∧ ∃ d, s.delimiters[o]? = some d ∧ d.marker = closer.marker ∧ d.opens = true ∧
      d.partner = none := by
  induction fuel generalizing start with
  | zero => cases h
  | succ fuel ih =>
    rw [findOpener] at h
    split at h
    · cases h
    · rename_i hstart
      have hnonneg : 0 ≤ start := by
        simp only [Bool.or_eq_true, decide_eq_true_eq, not_or, Int.not_lt] at hstart
        exact hstart.2
      split at h
      · cases h
      · rename_i d hd
        split at h
        · rename_i hfound
          obtain rfl := Option.some.inj h
          simp only [Bool.and_eq_true, beq_iff_eq, Option.isNone_iff_eq_none] at hfound
          obtain ⟨⟨⟨hmarker, hopens⟩, hpartner⟩, -⟩ := hfound
          exact ⟨Int.toNat_of_nonneg hnonneg ▸ Int.le_refl _, d, hd, hmarker, hopens, hpartner⟩
        · obtain ⟨hle, hfound⟩ := ih h
          exact ⟨by omega, hfound⟩

theorem getElem?_join (s : Pairing) (hne : o ≠ k) (i : Nat) :
    (s.join o k).delimiters[i]? =
      if i = o then s.delimiters[o]?.map fun d => { d with partner := some k, closes := false }
      else if i = k then s.delimiters[k]?.map fun d => { d with opens := false }
      else s.delimiters[i]? := by
  simp only [join, Array.getElem?_modify, eq_comm (a := o), eq_comm (a := k)]
  by_cases ho : i = o
  · subst ho
    rw [if_pos rfl, if_pos rfl, if_neg hne]
  · rw [if_neg ho, if_neg ho]
    by_cases hk : i = k
    · subst hk
      rw [if_pos rfl]
    · rw [if_neg hk, if_neg hk]

/-- After a closer has got its opener, this is the only new partner. -/
theorem partner_join (hne : o ≠ k) (hd : (s.join o k).delimiters[i]? = some d) (hj : d.partner = some j) :
    (i = o ∧ j = k) ∨ (i ≠ o ∧ ∃ d', s.delimiters[i]? = some d' ∧ d'.partner = some j ∧
      d'.marker = d.marker) := by
  rw [getElem?_join s hne] at hd
  split at hd
  · rename_i ho
    obtain ⟨d', -, rfl⟩ := Option.map_eq_some_iff.1 hd
    exact .inl ⟨ho, (Option.some.inj hj).symm⟩
  · rename_i ho
    split at hd
    · rename_i hk
      obtain ⟨d', hd', rfl⟩ := Option.map_eq_some_iff.1 hd
      exact .inr ⟨ho, d', hk ▸ hd', hj, rfl⟩
    · exact .inr ⟨ho, d, hd, hj, rfl⟩

theorem Sound.join (h : s.Sound k) (hk : s.delimiters[k]? = some closer) (hlt : o < k)
    (hd : s.delimiters[o]? = some d) (hmarker : d.marker = closer.marker) (hopens : d.opens = true)
    (hpartner : d.partner = none) : (s.join o k).Sound (k + 1) := by
  have hne := Nat.ne_of_lt hlt
  have hnone : closer.partner = none := by
    rw [Option.eq_none_iff_forall_ne_some]
    intro j hj
    obtain ⟨hkj, hjk, -⟩ := h.closer hk hj
    omega
  -- the closer has not closed anything before
  have hfresh {i : Nat} {d : Delimiter} (hd : s.delimiters[i]? = some d) : d.partner ≠ some k := by
    intro hj
    obtain ⟨-, hkk, -⟩ := h.closer hd hj
    exact Nat.lt_irrefl k hkk
  refine ⟨Nat.le_succ_of_le h.header_le, fun {i j d'} hd' hj => ?_, fun {i i' j d₁ d₂} hd₁ hd₂ hj hj' => ?_⟩
  · rcases partner_join hne hd' hj with ⟨rfl, rfl⟩ | ⟨hio, d₀, hd₀, hj₀, hmarker₀⟩
    · rw [getElem?_join s hne, if_pos rfl, hd] at hd'
      obtain rfl := Option.some.inj hd'
      refine ⟨hlt, Nat.lt_succ_self j, { closer with opens := false }, ?_, hnone, hmarker.symm, rfl⟩
      rw [getElem?_join s hne, if_neg hne.symm, if_pos rfl, hk]
      rfl
    · obtain ⟨hij, hjk, d₁, hd₁, hnone₁, hmarker₁, hopens₁⟩ := h.closer hd₀ hj₀
      have hjo : j ≠ o := by
        rintro rfl
        obtain rfl := Option.some.inj (hd₁.symm.trans hd)
        rw [hopens₁] at hopens
        cases hopens
      refine ⟨hij, Nat.lt_succ_of_lt hjk, d₁, ?_, hnone₁, hmarker₁.trans hmarker₀, hopens₁⟩
      rw [getElem?_join s hne, if_neg hjo, if_neg (Nat.ne_of_lt hjk), hd₁]
  · rcases partner_join hne hd₁ hj with ⟨rfl, rfl⟩ | ⟨-, e₁, he₁, hj₁, -⟩
    · rcases partner_join hne hd₂ hj' with ⟨rfl, -⟩ | ⟨-, e₂, he₂, hj₂, -⟩
      · rfl
      · exact absurd hj₂ (hfresh he₂)
    · rcases partner_join hne hd₂ hj' with ⟨-, rfl⟩ | ⟨-, e₂, he₂, hj₂, -⟩
      · exact absurd hj₁ (hfresh he₁)
      · exact h.single he₁ he₂ hj₁ hj₂

theorem Sound.step (h : s.Sound k) : (s.step k).Sound (k + 1) := by
  unfold Pairing.step
  split
  · exact h.of_delimiters (Nat.le_succ k) rfl (Nat.le_succ_of_le h.header_le)
  · rename_i closer hcloser
    dsimp only
    generalize hinRun : (_ && _ : Bool) = inRun
    have hheader : (if inRun then s.header else k) ≤ k := by
      split
      · exact h.header_le
      · exact Nat.le_refl k
    generalize (if inRun then s.header else k) = header at hheader ⊢
    have hnext {s' : Pairing} (hdelimiters : s'.delimiters = s.delimiters) (hs' : s'.header = header) :
        s'.Sound (k + 1) :=
      h.of_delimiters (Nat.le_succ k) hdelimiters (hs' ▸ Nat.le_succ_of_le hheader)
    split
    · exact hnext rfl rfl
    · split
      · rename_i o ho
        obtain ⟨hstart, d, hd, hmarker, hopens, hpartner⟩ := findOpener_spec ho
        refine Sound.join (h.of_delimiters (Nat.le_refl k) rfl hheader) hcloser ?_ hd
          hmarker hopens hpartner
        omega
      · split
        · exact hnext rfl rfl
        · exact hnext rfl rfl

end Pairing

/-- Each mark opens or closes at most once. -/
theorem paired_pairUp {ds : Array Delimiter} (h : ∀ d ∈ ds, d.partner = none) : Paired (pairUp ds) := by
  have hstart : Pairing.Sound 0 { delimiters := ds } := by
    have hnone {i j : Nat} {d : Delimiter} (hd : ds[i]? = some d) (hj : d.partner = some j) : False := by
      rw [h d (Array.mem_of_getElem? hd)] at hj
      cases hj
    exact ⟨Nat.le_refl 0, fun hd hj => (hnone hd hj).elim, fun hd _ hj => (hnone hd hj).elim⟩
  have hsound (n : Nat) : ((List.range n).foldl Pairing.step { delimiters := ds }).Sound n := by
    induction n with
    | zero => exact hstart
    | succ n ih =>
      rw [List.range_succ, List.foldl_append]
      exact ih.step
  exact (hsound ds.size).paired

/-! ### The places of the marks -/

theorem map_event_join (s : Pairing) (opener closer : Nat) :
    (s.join opener closer).delimiters.map (·.event) = s.delimiters.map (·.event) := by
  have hmodify (ds : Array Delimiter) (i : Nat) (f : Delimiter → Delimiter)
      (hf : ∀ d, (f d).event = d.event) : (ds.modify i f).map (·.event) = ds.map (·.event) := by
    refine Array.ext_getElem? fun j => ?_
    rw [Array.getElem?_map, Array.getElem?_map, Array.getElem?_modify]
    split
    · rw [Option.map_map]
      exact congrArg (Option.map · _) (funext hf)
    · rfl
  exact (hmodify _ opener (fun d => { d with partner := some closer, closes := false }) fun _ => rfl).trans
    (hmodify _ closer (fun d => { d with opens := false }) fun _ => rfl)

/-- Pairing marks leaves them where they are. -/
theorem map_event_pairUp (ds : Array Delimiter) : (pairUp ds).map (·.event) = ds.map (·.event) := by
  refine List.foldlRecOn (motive := fun s : Pairing => s.delimiters.map (·.event) = ds.map (·.event))
    _ Pairing.step rfl fun s hs k _ => ?_
  -- whether it is remembered that there is no opener, the marks are the same
  have hite {p : Prop} [Decidable p] {a b : Pairing} (ha : a.delimiters = s.delimiters)
      (hb : b.delimiters = s.delimiters) : (if p then a else b).delimiters = s.delimiters := by
    split
    · exact ha
    · exact hb
  unfold Pairing.step
  split
  · exact hs
  · dsimp only
    split
    · exact hs
    · split
      · exact (map_event_join _ _ _).trans hs
      · refine (congrArg (Array.map Delimiter.event) ?_).trans hs
        apply hite
        · rfl
        · rfl

/-- Where a mark stands after pairing, it has stood before. -/
theorem getElem?_pairUp {ds : Array Delimiter} {i : Nat} {d : Delimiter} (h : (pairUp ds)[i]? = some d) :
    ∃ d', ds[i]? = some d' ∧ d'.event = d.event := by
  have hevent := congrArg (·[i]?) (map_event_pairUp ds)
  simp only [Array.getElem?_map, h, Option.map_some] at hevent
  exact Option.map_eq_some_iff.1 hevent.symm

end ProposalCheck.Markup.Inline
