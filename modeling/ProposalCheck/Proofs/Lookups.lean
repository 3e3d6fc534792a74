import ProposalCheck.Rule.Shipped

/-!
# Rules look up only what they asked for

`Rule.LooksUpDeclared`: if a rule got to the end of its discovery, then its findings depend on what
references have led to only through the references it asked for there. The shipped rules all have
this property (`Shipped.looksUpDeclared`), whatever they are set up with. Three of them follow
references. Each reads its input twice, once for the references and once for the findings, so the
proofs say that what is followed on the second way is among what was asked for on the first.
-/

namespace ProposalCheck

/-- What a rule finds does not depend on references that it did not ask for. -/
def Rule.LooksUpDeclared (rule : Rule) : Prop :=
  ∀ (slug : String) (d : Document) (one two : Cache FetchError Document) (level : Level)
    (settings : Settings), (rule.discover d).stop = none →
    (∀ r ∈ (rule.discover d).references, one.get? r = two.get? r) →
    rule.check slug { document := d, cache := one, level, settings }
      = rule.check slug { document := d, cache := two, level, settings }

/-- Two contexts of one document that agree on what a path leads to follow the path alike. -/
theorem Context.atPath_cases {d : Document} {one two : Cache FetchError Document} {name : String}
    (level : Level) (settings : Settings)
    (h : one.get? (d.pathReference name) = two.get? (d.pathReference name)) :
    (∃ e, Context.atPath { document := d, cache := one, level, settings } name = .error e ∧
      Context.atPath { document := d, cache := two, level, settings } name = .error e) ∨
    ∃ other, Context.atPath { document := d, cache := one, level, settings } name
        = .ok { document := other, cache := one, level, settings } ∧
      Context.atPath { document := d, cache := two, level, settings } name
        = .ok { document := other, cache := two, level, settings } := by
  have hlookup : one.lookup (d.pathReference name) = two.lookup (d.pathReference name) := by
    unfold Cache.lookup
    rw [h]
  unfold Context.atPath Context.follow
  simp only [hlookup]
  cases two.lookup (d.pathReference name) with
  | error e => exact .inl ⟨e, rfl, rfl⟩
  | ok other => exact .inr ⟨other, rfl, rfl⟩

theorem bind_eq_ok {ε α β : Type} {e : Except ε α} {f : α → Except ε β} {y : β} :
    (e >>= f) = .ok y ↔ ∃ x, e = .ok x ∧ f x = .ok y := by
  cases e with
  | ok x => simp [bind, Except.bind]
  | error e => simp [bind, Except.bind]

theorem bind_eq_error {ε α β : Type} {e : Except ε α} {f : α → Except ε β} {y : ε} :
    e >>= f = .error y ↔ e = .error y ∨ ∃ x, e = .ok x ∧ f x = .error y := by
  cases e with
  | error x => simp [bind, Except.bind]
  | ok x => simp [bind, Except.bind]

theorem mapError_ok {ε ε' α : Type} (x : α) (f : ε → ε') :
    (Except.ok x).mapError f = .ok x := rfl

theorem mapError_error {ε ε' α : Type} (e : ε) (f : ε → ε') :
    (Except.error e : Except ε α).mapError f = .error (f e) := rfl

theorem mapError_eq_ok {ε ε' α : Type} {e : Except ε α} {f : ε → ε'} {x : α} :
    e.mapError f = .ok x ↔ e = .ok x := by
  cases e with
  | error e' => constructor <;> intro h <;> cases h
  | ok y => rw [mapError_ok, Except.ok.injEq, Except.ok.injEq]

theorem mapError_eq_error {ε ε' α : Type} {e : Except ε α} {f : ε → ε'} {y : ε'}
    (h : e.mapError f = .error y) : ∃ x, e = .error x ∧ f x = y := by
  cases e with
  | error x => exact ⟨x, rfl, Except.error.inj h⟩
  | ok x => cases h

/-- A function applied to each item of a list succeeds on each item if it does so on the list. -/
theorem exists_mem_of_mapM {ε α β : Type} {f : α → Except ε β} {xs : List α} {ys : List β}
    (h : xs.mapM f = .ok ys) : ∀ x ∈ xs, ∃ y ∈ ys, f x = .ok y := by
  induction xs generalizing ys with
  | nil => simp
  | cons x rest ih =>
    rw [List.mapM_cons, bind_eq_ok] at h
    obtain ⟨y, hx, h⟩ := h
    obtain ⟨zs, hrest, h⟩ := bind_eq_ok.1 h
    obtain rfl : y :: zs = ys := Except.ok.inj h
    intro z hz
    rcases List.mem_cons.1 hz with rfl | hz
    · exact ⟨y, by simp, hx⟩
    · obtain ⟨w, hw, hfw⟩ := ih hrest z hz
      exact ⟨w, by simp [hw], hfw⟩

namespace Rule

/-! ### Rules that follow no references -/

theorem duplicates_looksUpDeclared : duplicates.LooksUpDeclared :=
  fun _ _ _ _ _ _ _ _ => rfl

theorem spacing_looksUpDeclared : spacing.LooksUpDeclared :=
  fun _ _ _ _ _ _ _ _ => rfl

theorem required_looksUpDeclared (names : List String) : (required names).LooksUpDeclared :=
  fun _ _ _ _ _ _ _ _ => rfl

theorem prose_looksUpDeclared (s : Prose.Setup) : (prose s).LooksUpDeclared :=
  fun _ _ _ _ _ _ _ _ => rfl

/-! ### The status of required proposals -/

namespace RequiredStatus

variable {s : Setup} {slug : String} {d : Document} {one two : Cache FetchError Document}
  {level : Level} {settings : Settings} {f : Field}

theorem mem_numbers {value : String} {ns : List Int} (h : numbers value = .ok ns) {i : Item}
    (hi : i ∈ items value) {n : Int} (hn : i.number? = .ok (some n)) : n ∈ ns := by
  unfold numbers at h
  cases hm : (items value).mapM Item.number? with
  | error e => rw [hm] at h; cases h
  | ok os =>
    rw [hm] at h
    obtain rfl : os.filterMap id = ns := Except.ok.inj h
    obtain ⟨o, ho, hio⟩ := exists_mem_of_mapM hm i hi
    obtain rfl : o = some n := Except.ok.inj (hio.symm.trans hn)
    exact List.mem_filterMap.2 ⟨some n, ho, rfl⟩

theorem judge_congr {i : Item}
    (h : ∀ n, i.number? = .ok (some n) →
      one.get? (d.pathReference (fileName n)) = two.get? (d.pathReference (fileName n))) :
    judge s slug { document := d, cache := one, level, settings } f i
      = judge s slug { document := d, cache := two, level, settings } f i := by
  unfold judge
  cases hi : i.number? with
  | error e => rfl
  | ok o =>
    cases o with
    | none => rfl
    | some n =>
      simp only [mapError_ok, bind, Except.bind]
      rcases Context.atPath_cases level settings (h n hi) with ⟨e, hone, htwo⟩ | ⟨other, hone, htwo⟩
      · simp only [hone, htwo]
        cases e <;> rfl
      · simp only [hone, htwo]
        rfl

theorem judgeAll_congr {one two : Item → Except Stop Verdict} {is : List Item}
    (h : ∀ i ∈ is, one i = two i) : judgeAll one is = judgeAll two is := by
  induction is with
  | nil => rfl
  | cons i rest ih =>
    obtain ⟨hi, hrest⟩ := List.forall_mem_cons.1 h
    rw [judgeAll, judgeAll, hi, ih hrest]

end RequiredStatus

theorem requiredStatus_looksUpDeclared (s : RequiredStatus.Setup) :
    (requiredStatus s).LooksUpDeclared := by
  intro slug d one two level settings hstop hsame
  simp only [requiredStatus, RequiredStatus.discover] at hstop hsame
  simp only [requiredStatus, RequiredStatus.check, Context.preamble]
  cases hf : d.preamble.byName? s.requires with
  | none => rfl
  | some f =>
    cases hn : RequiredStatus.numbers f.value with
    | error e => simp [hf, hn] at hstop
    | ok ns =>
      simp only [hf, hn, List.forall_mem_map] at hsame
      have hjudge : RequiredStatus.judgeAll
            (RequiredStatus.judge s slug { document := d, cache := one, level, settings } f)
            (RequiredStatus.items f.value)
          = RequiredStatus.judgeAll
            (RequiredStatus.judge s slug { document := d, cache := two, level, settings } f)
            (RequiredStatus.items f.value) :=
        RequiredStatus.judgeAll_congr fun i hi => RequiredStatus.judge_congr fun n hin =>
          hsame n (RequiredStatus.mem_numbers hn hi hin)
      simp only [hjudge]
      rfl

/-! ### Mentions of proposals -/

namespace Mention

variable {s : Setup} {slug : String} {d : Document} {one two : Cache FetchError Document}
  {level : Level} {settings : Settings} {f : Field}

theorem mem_discoverAll {value : String} {ms : List Pattern.Match}
    (hstop : (discoverAll s d value ms).stop = none) {m : Pattern.Match} (hm : m ∈ ms) {n : Int}
    (hn : number value m = .ok n) :
    d.pathReference (s.fileName n) ∈ (discoverAll s d value ms).references := by
  induction ms with
  | nil => cases hm
  | cons m' rest ih =>
    cases hm' : number value m' with
    | error e => simp [discoverAll, hm'] at hstop
    | ok n' =>
      simp only [discoverAll, hm'] at hstop ⊢
      rcases List.mem_cons.1 hm with rfl | hm
      · obtain rfl : n' = n := Except.ok.inj (hm'.symm.trans hn)
        exact List.mem_cons_self
      · exact List.mem_cons_of_mem _ (ih hstop hm)

theorem judge_congr {m : Pattern.Match}
    (h : ∀ n, number f.value m = .ok n →
      one.get? (d.pathReference (s.fileName n)) = two.get? (d.pathReference (s.fileName n))) :
    judge s slug { document := d, cache := one, level, settings } f m
      = judge s slug { document := d, cache := two, level, settings } f m := by
  unfold judge
  cases hm : number f.value m with
  | error e => rfl
  | ok n =>
    simp only [mapError_ok, Findings.ofExcept]
    rcases Context.atPath_cases level settings (h n hm) with ⟨e, hone, htwo⟩ | ⟨other, hone, htwo⟩
    · simp only [hone, htwo]
      cases e <;> rfl
    · simp only [hone, htwo]
      rfl

end Mention

theorem mention_looksUpDeclared (s : Mention.Setup) : (mention s).LooksUpDeclared := by
  intro slug d one two level settings hstop hsame
  simp only [mention, Mention.discover] at hstop hsame
  simp only [mention, Mention.check, Context.preamble]
  cases hf : d.preamble.byName? s.field with
  | none => rfl
  | some f =>
    simp only [hf] at hstop hsame ⊢
    refine congrArg Findings.concat (List.map_congr_left fun m hm => ?_)
    exact Mention.judge_congr fun n hn => hsame _ (Mention.mem_discoverAll hstop hm hn)

/-! ### The status of linked proposals -/

namespace LinkStatus

variable {s : Setup} {slug : String} {d : Document} {one two : Cache FetchError Document}
  {level : Level} {settings : Settings}

theorem judge_congr {link : ProposalLink} (lowest : Option Nat)
    (h : one.get? (d.pathReference link.fileName) = two.get? (d.pathReference link.fileName)) :
    judge s slug { document := d, cache := one, level, settings } lowest link
      = judge s slug { document := d, cache := two, level, settings } lowest link := by
  unfold judge
  have hsnippet : snippet { document := d, cache := one, level, settings } link.toLink
      = snippet { document := d, cache := two, level, settings } link.toLink := rfl
  rw [hsnippet]
  cases snippet { document := d, cache := two, level, settings } link.toLink with
  | error e => rfl
  | ok source =>
    rcases Context.atPath_cases level settings h with ⟨e, hone, htwo⟩ | ⟨other, hone, htwo⟩
    · simp only [hone, htwo]
      cases e <;> rfl
    · simp only [hone, htwo]
      rfl

theorem judgeAll_congr {links : List ProposalLink}
    (h : ∀ link ∈ links,
      one.get? (d.pathReference link.fileName) = two.get? (d.pathReference link.fileName))
    (lowest : Option Nat) :
    judgeAll s slug { document := d, cache := one, level, settings } lowest links
      = judgeAll s slug { document := d, cache := two, level, settings } lowest links := by
  induction links generalizing lowest with
  | nil => rfl
  | cons link rest ih =>
    obtain ⟨hlink, hrest⟩ := List.forall_mem_cons.1 h
    rw [judgeAll, judgeAll, judge_congr lowest hlink]
    simp only [ih hrest]

end LinkStatus

theorem linkStatus_looksUpDeclared (s : LinkStatus.Setup) : (linkStatus s).LooksUpDeclared := by
  intro slug d one two level settings hstop hsame
  simp only [linkStatus, LinkStatus.discover] at hstop hsame
  simp only [linkStatus, LinkStatus.check]
  cases hl : LinkStatus.proposalLinks s d with
  | error e => rfl
  | ok links =>
    simp only [hl, List.forall_mem_map] at hsame
    exact LinkStatus.judgeAll_congr hsame none

end Rule

/-- Every rule that comes with the checker looks up only what it asked for. -/
theorem Shipped.looksUpDeclared (s : Shipped) : s.toRule.LooksUpDeclared := by
  cases s with
  | duplicates => exact Rule.duplicates_looksUpDeclared
  | spacing => exact Rule.spacing_looksUpDeclared
  | required names => exact Rule.required_looksUpDeclared names
  | requiredStatus s => exact Rule.requiredStatus_looksUpDeclared s
  | mention s => exact Rule.mention_looksUpDeclared s
  | prose s => exact Rule.prose_looksUpDeclared s
  | linkStatus s => exact Rule.linkStatus_looksUpDeclared s

end ProposalCheck
