import ProposalCheck.Proofs.Reads
import ProposalCheck.Proofs.Revisions
import ProposalCheck.Proofs.Visits

/-!
# Advice on the status of a proposal

A proposal that requires less advanced ones is told which statuses it may have. `check_advises`: the
statuses that are listed are just those with which nothing would be said of the same list when the
document is checked again against the same documents.

What is found out about an item of the list depends on what its reference has led to
(`Item.target?`), and not on the status of the document. So no item is less advanced than the
document exactly if its tier is at most the least of theirs, which is the ceiling of the list.
-/

namespace ProposalCheck

/-! ### Flows -/

namespace Flow

variable {f : Flow} {v : String}

theorem mem_upTo {ceiling : Int} :
    v ∈ f.upTo ceiling ↔ v ∈ f.flatten ∧ (f.tier v : Int) ≤ ceiling := by
  unfold upTo Text.sorted statuses
  rw [(List.mergeSort_perm _ _).mem_iff, List.mem_filter, List.mem_eraseDups, decide_eq_true_eq]

/-- The least of some tiers is the ceiling for the statuses that are not above any of them. -/
theorem mem_upTo_min {ts : List Nat} (hts : ts ≠ []) :
    v ∈ f.upTo (ts.min?.getD 0) ↔ v ∈ f.flatten ∧ ∀ t ∈ ts, f.tier v ≤ t := by
  obtain ⟨least, hleast⟩ : ∃ least, ts.min? = some least :=
    Option.ne_none_iff_exists'.1 (mt List.min?_eq_none_iff.1 hts)
  obtain ⟨hmem, hle⟩ := List.min?_eq_some_iff.1 hleast
  rw [mem_upTo, hleast, Option.getD_some, Int.ofNat_le]
  refine and_congr_right fun _ => ⟨fun hv t ht => ?_, fun hv => hv least hmem⟩
  exact Nat.le_trans hv (hle t ht)

/-- Statuses are listed in order, each of them once. -/
theorem upTo_ascending (f : Flow) (ceiling : Int) : (f.upTo ceiling).Pairwise (· < ·) := by
  have hle : (f.upTo ceiling).Pairwise (· ≤ ·) := Text.pairwise_mergeSort id _
  have hnodup : (f.upTo ceiling).Nodup :=
    (List.mergeSort_perm _ _).nodup_iff.2 ((nodup_eraseDups _).filter _)
  refine hle.imp₂ (fun a b hab hne => ?_) hnodup
  exact String.not_le.1 fun hba => hne (String.le_antisymm hab hba)

theorem tierOf_eq (f : Flow) (field : String) (p : Preamble) :
    f.tierOf field p = ((p.value? field).map fun x => f.tier (Text.trim x)).getD 0 := by
  unfold tierOf Preamble.value?
  cases p.byName? field <;> rfl

end Flow

/-- A blank in front of a text is trimmed off. -/
theorem Text.trim_space (v : String) : trim (" " ++ v) = trim v := by
  have hblank : isBlank ' ' = true := by decide
  rw [← String.toList_inj, toList_trim, toList_trim, String.toList_append, trimChars, trimChars]
  show trimEndChars ((' ' :: v.toList).dropWhile isBlank) = _
  rw [List.dropWhile_cons_of_pos hblank]

namespace Rule.RequiredStatus

variable {s : Setup} {slug : String} {c : Context} {f : Field} {i : Item}

/-! ### Items -/

/-- What an item refers to and what that has led to; nothing for an item that is not a number. -/
def Item.target? (c : Context) (i : Item) : Option (Int × Except FetchError Document) :=
  i.number?.toOption.join.bind fun n =>
    (c.cache.get? (c.document.pathReference (fileName n))).map (n, ·)

/-- The tier of the document of an item, if it has one. -/
def Item.tier? (s : Setup) (c : Context) (i : Item) : Option Nat :=
  (i.target? c).bind fun t =>
    t.2.toOption.map fun other => s.flow.tierOf s.status other.preamble

/-- The message about an item whose document cannot be read. -/
def complaint? (slug : String) (c : Context) (f : Field) (i : Item) : Option Message :=
  (i.target? c).bind fun t =>
    match t.2 with
    | .error e => some
      { level := c.level, id := some slug
        title := "unable to read file \x60" ++ fileName t.1 ++ "\x60: " ++ e.message
        snippets := [{ source := f.source, lineStart := f.line, origin := c.origin
                       annotations := [mark c f i "required from here"] }] }
    | .ok _ => none

/-- The items of a list that are less advanced than the document. -/
def Setup.low (s : Setup) (c : Context) (value : String) : List Item :=
  (items value).filter fun i => (i.tier? s c).any (· < s.flow.tierOf s.status c.preamble)

/-- The tiers of the items of a list. -/
def Setup.tiers (s : Setup) (c : Context) (value : String) : List Nat :=
  (items value).filterMap (Item.tier? s c)

/-- What an item is found to be, unless it stops the rule. -/
theorem judge_verdict {v : Verdict} (h : judge s slug c f i = .ok v) :
    (i.tier? s c = none ∧ complaint? slug c f i = none ∧ v = .ignored) ∨
    (∃ m, i.tier? s c = none ∧ complaint? slug c f i = some m ∧ v = .unreadable m) ∨
    ∃ n, i.tier? s c = some n ∧ complaint? slug c f i = none ∧
      v = .tier n (mark c f i "has a less advanced status") := by
  unfold judge at h
  cases hi : i.number? with
  | error e => simp [hi, mapError_error, bind, Except.bind] at h
  | ok o =>
    cases o with
    | none =>
      have htarget : i.target? c = none := by simp [Item.target?, hi, Except.toOption]
      simp only [hi, mapError_ok, bind, Except.bind, pure, Except.pure, Except.ok.injEq] at h
      exact .inl ⟨by simp [Item.tier?, htarget], by simp [complaint?, htarget], h.symm⟩
    | some n =>
      simp only [hi, mapError_ok, bind, Except.bind, Context.atPath, Context.follow,
        Cache.lookup] at h
      cases hx : c.cache.get? (c.document.pathReference (fileName n)) with
      | none => simp [hx, Except.map] at h
      | some x =>
        have htarget : i.target? c = some (n, x) := by
          simp [Item.target?, hi, hx, Except.toOption]
        cases x with
        | error e =>
          simp only [hx, Except.map, pure, Except.pure, Except.ok.injEq] at h
          exact .inr (.inl ⟨_, by rw [Item.tier?, htarget]; rfl, by rw [complaint?, htarget]; rfl,
            h.symm⟩)
        | ok other =>
          simp only [hx, Except.map, pure, Except.pure, Except.ok.injEq] at h
          exact .inr (.inr ⟨_, by rw [Item.tier?, htarget]; rfl, by rw [complaint?, htarget]; rfl,
            h.symm⟩)

/-- Whether an item stops the rule depends on what references have led to, and on nothing else. -/
theorem exists_judge {again : String} {c' : Context} {f' : Field} {v : Verdict}
    (hcache : c'.cache = c.cache) (hpath : c'.document.path = c.document.path)
    (h : judge s slug c f i = .ok v) : ∃ v', judge s again c' f' i = .ok v' := by
  unfold judge at h ⊢
  cases hi : i.number? with
  | error e => simp [hi, mapError_error, bind, Except.bind] at h
  | ok o =>
    cases o with
    | none => exact ⟨.ignored, rfl⟩
    | some n =>
      have hreference : c'.document.pathReference (fileName n)
          = c.document.pathReference (fileName n) := by
        unfold Document.pathReference
        rw [hpath]
      simp only [hi, mapError_ok, bind, Except.bind, Context.atPath, Context.follow,
        Cache.lookup, hcache, hreference] at h ⊢
      cases hx : c.cache.get? (c.document.pathReference (fileName n)) with
      | none => simp [hx, Except.map] at h
      | some x => cases x <;> exact ⟨_, rfl⟩

theorem tier?_congr {c' : Context} (hcache : c'.cache = c.cache)
    (hpath : c'.document.path = c.document.path) : i.tier? s c' = i.tier? s c := by
  unfold Item.tier? Item.target? Document.pathReference
  rw [hcache, hpath]

/-! ### Lists -/

theorem judgeAll_stop {judge : Item → Except Stop Verdict} {is : List Item} :
    (judgeAll judge is).2 = none ↔ ∀ i ∈ is, ∃ v, judge i = .ok v := by
  induction is with
  | nil => simp [judgeAll]
  | cons i rest ih =>
    rw [judgeAll, List.forall_mem_cons, ← ih]
    cases judge i with
    | error x => simp
    | ok v => simp

/-- What is found out about the items of a list that does not stop the rule. -/
theorem judgeAll_eq {is : List Item}
    (h : (judgeAll (judge s slug c f) is).2 = none) (tier : Nat) :
    unreadable (judgeAll (judge s slug c f) is).1 = is.filterMap (complaint? slug c f) ∧
      tiers (judgeAll (judge s slug c f) is).1 = is.filterMap (Item.tier? s c) ∧
      below tier (judgeAll (judge s slug c f) is).1
        = (is.filter fun i => (i.tier? s c).any (· < tier)).map
            fun i => mark c f i "has a less advanced status" := by
  induction is with
  | nil => exact ⟨rfl, rfl, rfl⟩
  | cons i rest ih =>
    obtain ⟨⟨v, hv⟩, hrest⟩ := List.forall_mem_cons.1 (judgeAll_stop.1 h)
    obtain ⟨hunreadable, htiers, hbelow⟩ := ih (judgeAll_stop.2 hrest)
    unfold unreadable at hunreadable
    unfold tiers at htiers
    unfold below at hbelow
    rw [judgeAll, hv]
    rcases judge_verdict hv with ⟨htier, hcomplaint, rfl⟩ | ⟨m, htier, hcomplaint, rfl⟩
      | ⟨n, htier, hcomplaint, rfl⟩
    · simp [unreadable, tiers, below, hunreadable, htiers, hbelow, htier, hcomplaint]
    · simp [unreadable, tiers, below, hunreadable, htiers, hbelow, htier, hcomplaint]
    · by_cases hn : n < tier <;>
        simp [unreadable, tiers, below, hunreadable, htiers, hbelow, htier, hcomplaint, hn]

/-! ### Messages -/

/-- The title of the message about items that are not far enough. -/
def Setup.title (s : Setup) (current : String) : String :=
  "preamble header \x60" ++ s.requires ++ "\x60 contains items not stable enough for a \x60"
    ++ s.status ++ "\x60 of \x60" ++ current ++ "\x60"

/-- The footer that lists statuses, unless there are none. -/
def Setup.footers (s : Setup) (listed : List String) : List Message :=
  if listed = [] then []
  else [{ level := .help, title := "valid \x60" ++ s.status
    ++ "\x60 values for this proposal are: \x60" ++ "\x60, \x60".intercalate listed ++ "\x60" }]

/-- The message about items that are not far enough, with a list of statuses. -/
def Setup.unstableMessage (s : Setup) (slug : String) (c : Context) (f : Field)
    (listed : List String) : Message where
  level := c.level
  id := some slug
  title := s.title (c.preamble.currentStatus s.status)
  snippets := [{ source := f.source, lineStart := f.line, origin := c.origin
                 annotations := (s.low c f.value).map
                   fun i => mark c f i "has a less advanced status" }]
  footers := s.footers listed

/-- None of the messages is about items that are not far enough. -/
def Setup.Passes (s : Setup) (ms : List Message) : Prop :=
  ∀ m ∈ ms, ∀ current, m.title ≠ s.title current

theorem choices_isEmpty {ceiling : Int} (h : ∀ v ∈ s.flow.flatten, v ≠ "") :
    (s.flow.choices ceiling).isEmpty = true ↔ s.flow.upTo ceiling = [] := by
  rw [Flow.choices, String.isEmpty_iff]
  cases hlisted : s.flow.upTo ceiling with
  | nil => exact iff_of_true rfl rfl
  | cons v rest =>
    have hv : v ≠ "" := h v (Flow.mem_upTo.1 (hlisted ▸ List.mem_cons_self)).1
    refine iff_of_false (fun hempty => hv ?_) (List.cons_ne_nil _ _)
    cases rest with
    | nil => rwa [String.intercalate_singleton] at hempty
    | cons w ws =>
      rw [String.intercalate_cons_cons, String.append_eq_empty_iff,
        String.append_eq_empty_iff] at hempty
      exact hempty.1.1

/-- What is said about a list that does not stop the rule. -/
theorem check_eq (hflow : ∀ v ∈ s.flow.flatten, v ≠ "")
    (hf : c.preamble.byName? s.requires = some f) (hstop : (check s slug c).stop = none) :
    (check s slug c).messages = (items f.value).filterMap (complaint? slug c f) ++
      if s.low c f.value = [] then []
      else [s.unstableMessage slug c f (s.flow.upTo ((s.tiers c f.value).min?.getD 0))] := by
  unfold check at hstop ⊢
  simp only [hf] at hstop ⊢
  obtain ⟨hunreadable, htiers, hbelow⟩ := judgeAll_eq hstop (s.flow.tierOf s.status c.preamble)
  rw [hstop, hunreadable]
  refine congrArg (_ ++ ·) ?_
  change tiers _ = s.tiers c f.value at htiers
  change below _ _ = (s.low c f.value).map _ at hbelow
  unfold unstable
  rw [htiers, hbelow]
  by_cases hlow : s.low c f.value = []
  · simp [hlow]
  · by_cases hlisted : s.flow.upTo ((s.tiers c f.value).min?.getD 0) = []
    · have hnone := (choices_isEmpty hflow).2 hlisted
      simp only [hnone, if_true, hlisted, hlow, if_false, List.isEmpty_map, List.isEmpty_iff,
        Option.isSome_none, Bool.false_eq_true]
      rfl
    · have hsome := mt (choices_isEmpty hflow).1 hlisted
      simp only [hsome, hlow, if_false, List.isEmpty_map, List.isEmpty_iff, Option.isSome_none,
        Bool.false_eq_true, Setup.unstableMessage, Setup.footers, hlisted]
      rfl

theorem stop_eq_none (hf : c.preamble.byName? s.requires = some f) :
    (check s slug c).stop = none ↔ ∀ i ∈ items f.value, ∃ v, judge s slug c f i = .ok v := by
  unfold check
  simp only [hf]
  exact judgeAll_stop

/-- A rule that gets to its end does so on every document with the same list. -/
theorem stop_congr {c' : Context} {f' : Field} (again : String) (hcache : c'.cache = c.cache)
    (hpath : c'.document.path = c.document.path) (hf : c.preamble.byName? s.requires = some f)
    (hf' : c'.preamble.byName? s.requires = some f') (hvalue : f'.value = f.value)
    (hstop : (check s slug c).stop = none) : (check s again c').stop = none := by
  rw [stop_eq_none hf] at hstop
  rw [stop_eq_none hf', hvalue]
  intro i hi
  obtain ⟨v, hv⟩ := hstop i hi
  exact exists_judge hcache hpath hv

theorem head?_append {a : String} {x : Char} (h : a.toList.head? = some x) (b : String) :
    (a ++ b).toList.head? = some x := by
  rw [String.toList_append, List.head?_append, h, Option.some_or]

theorem title_ne_of_complaint? {m : Message} (h : complaint? slug c f i = some m)
    (current : String) : m.title ≠ s.title current := by
  -- the one starts with a `u`, the other with a `p`
  have hother : (s.title current).toList.head? = some 'p' := by
    unfold Setup.title
    iterate 6 refine head?_append ?_ _
    decide
  rw [complaint?] at h
  rcases htarget : i.target? c with _ | ⟨n, e | other⟩
  · simp [htarget] at h
  · simp only [htarget, Option.bind_some, Option.some.injEq] at h
    have hthis : m.title.toList.head? = some 'u' := by
      rw [← h]
      iterate 3 refine head?_append ?_ _
      decide
    intro htitle
    rw [htitle, hother] at hthis
    exact absurd hthis (by decide)
  · simp [htarget] at h

theorem passes_iff (hflow : ∀ v ∈ s.flow.flatten, v ≠ "")
    (hf : c.preamble.byName? s.requires = some f) (hstop : (check s slug c).stop = none) :
    s.Passes (check s slug c).messages ↔ s.low c f.value = [] := by
  rw [check_eq hflow hf hstop]
  by_cases hlow : s.low c f.value = []
  · simp only [hlow, if_true, List.append_nil, iff_true]
    intro m hm
    obtain ⟨i, -, hi⟩ := List.mem_filterMap.1 hm
    exact title_ne_of_complaint? hi
  · simp only [hlow, if_false, iff_false]
    intro hpasses
    exact hpasses _ (List.mem_append_right _ (List.mem_singleton_self _)) _ rfl

/-! ### Ceilings -/

theorem low_eq_nil {value : String} :
    s.low c value = [] ↔ ∀ t ∈ s.tiers c value, s.flow.tierOf s.status c.preamble ≤ t := by
  unfold Setup.low Setup.tiers
  rw [List.filter_eq_nil_iff]
  constructor
  · intro h t ht
    obtain ⟨i, hi, htier⟩ := List.mem_filterMap.1 ht
    have hnot := h i hi
    rw [htier, Option.any_some, decide_eq_true_eq] at hnot
    omega
  · intro h i hi hlow
    obtain ⟨t, htier, hlt⟩ := (Option.any_eq_true _ _).1 hlow
    have hle := h t (List.mem_filterMap.2 ⟨i, hi, htier⟩)
    rw [decide_eq_true_eq] at hlt
    omega

/-! ### The document with another status -/

/-- The document with a status in its last status field lists the same items and has the tier of the
status. -/
theorem exists_recheck {g : Field} {v : String}
    (hparse : Document.parse c.document.source c.origin c.document.path = .ok c.document)
    (hnames : s.requires ≠ s.status) (hf : c.preamble.byName? s.requires = some f)
    (hg : c.preamble.byName? s.status = some g) (htrim : Text.trim v = v) (hv : '\n' ∉ v.toList) :
    ∃ d f', Document.parse (c.document.revised g (" " ++ v)) c.origin c.document.path = .ok d ∧
      d.path = c.document.path ∧ d.preamble.byName? s.requires = some f' ∧ f'.value = f.value ∧
      s.flow.tierOf s.status d.preamble = s.flow.tier v := by
  obtain ⟨earlier, later, hfields, hname, hlater⟩ := Preamble.byName?_eq_some.1 hg
  have hspace : '\n' ∉ (" " ++ v).toList := by simp [hv]
  obtain ⟨d, hd, hpairs, -⟩ := Document.parse_revised hparse hfields hspace
  rw [hname] at hpairs
  have hold : c.preamble.fields.map Field.pair
      = earlier.map Field.pair ++ (s.status, g.value) :: later.map Field.pair := by
    rw [hfields, List.map_append, List.map_cons, Field.pair, hname]
  have hstatus : d.preamble.value? s.status = some (" " ++ v) := by
    refine Preamble.value?_of_pairs hpairs fun q hq => ?_
    obtain ⟨x, hx, rfl⟩ := List.mem_map.1 hq
    exact hlater x hx
  have hrequires : d.preamble.value? s.requires = some f.value := by
    rw [Preamble.value?_congr hpairs hold hnames.symm, Preamble.value?, hf, Option.map_some]
  obtain ⟨f', hf', hvalue⟩ := Option.map_eq_some_iff.1 hrequires
  refine ⟨d, f', hd, Document.path_of_parse hd, hf', hvalue, ?_⟩
  rw [Flow.tierOf_eq, hstatus, Option.map_some, Option.getD_some, Text.trim_space, htrim]

/-- A document that is more advanced than some item has a status. -/
theorem exists_status {value : String} (hlow : s.low c value ≠ []) :
    s.tiers c value ≠ [] ∧ ∃ g, c.preamble.byName? s.status = some g := by
  obtain ⟨t, ht, hbelow⟩ : ∃ t ∈ s.tiers c value, t < s.flow.tierOf s.status c.preamble := by
    by_contra hnot
    refine hlow (low_eq_nil.2 fun t ht => ?_)
    by_contra hbelow
    exact hnot ⟨t, ht, by omega⟩
  refine ⟨List.ne_nil_of_mem ht, ?_⟩
  cases hg : c.preamble.byName? s.status with
  | none => simp [Flow.tierOf, hg] at hbelow
  | some g => exact ⟨g, rfl⟩

/-- A status is listed exactly if a document that has it and the same list is spared the message. -/
theorem mem_upTo_iff_passes {c' : Context} {f' : Field} {v : String} (again : String)
    (hflow : ∀ v ∈ s.flow.flatten, v ≠ "") (hcache : c'.cache = c.cache)
    (hpath : c'.document.path = c.document.path) (hvalue : f'.value = f.value)
    (hf' : c'.preamble.byName? s.requires = some f') (hstop : (check s again c').stop = none)
    (htiers : s.tiers c f.value ≠ []) (hv : v ∈ s.flow.flatten)
    (htier : s.flow.tierOf s.status c'.preamble = s.flow.tier v) :
    v ∈ s.flow.upTo ((s.tiers c f.value).min?.getD 0) ↔ s.Passes (check s again c').messages := by
  have hsame : s.tiers c' f'.value = s.tiers c f.value := by
    rw [hvalue]
    exact List.filterMap_congr fun i _ => tier?_congr hcache hpath
  rw [passes_iff hflow hf' hstop, low_eq_nil, hsame, htier, Flow.mem_upTo_min htiers, and_iff_right hv]

/-- A document is told of each required proposal that cannot be read, in the order of its list, and
then, in one message, of those that are less advanced, if there are any. The statuses that the
message lists, in order and each once, are those that would spare the document this message: the
document is checked again with each status of the flow in its last status field, against the same
documents. -/
theorem check_advises (s : Setup) (slug : String) (c : Context)
    (hparse : Document.parse c.document.source c.origin c.document.path = .ok c.document)
    (hnames : s.requires ≠ s.status)
    (hflow : ∀ v ∈ s.flow.flatten, v ≠ "" ∧ Text.trim v = v ∧ '\n' ∉ v.toList)
    (hstop : (check s slug c).stop = none) :
    (c.preamble.byName? s.requires = none → (check s slug c).messages = []) ∧
    ∀ f, c.preamble.byName? s.requires = some f →
      ∃ advice, (check s slug c).messages
          = (items f.value).filterMap (complaint? slug c f) ++ advice ∧
        (s.low c f.value = [] → advice = []) ∧
        (s.low c f.value ≠ [] → ∃ g listed, c.preamble.byName? s.status = some g ∧
          advice = [s.unstableMessage slug c f listed] ∧
          listed.Pairwise (· < ·) ∧ (∀ v ∈ listed, v ∈ s.flow.flatten) ∧
          ∀ v ∈ s.flow.flatten, ∃ d,
            Document.parse (c.document.revised g (" " ++ v)) c.origin c.document.path = .ok d ∧
            ∀ again level settings, let c' := { document := d, cache := c.cache, level, settings }
              (check s again c').stop = none ∧
                (v ∈ listed ↔ s.Passes (check s again c').messages)) := by
  refine ⟨fun hnone => ?_, fun f hf => ⟨_, check_eq (fun v hv => (hflow v hv).1) hf hstop, ?_, ?_⟩⟩
  · unfold check
    simp only [hnone]
    rfl
  · exact fun hlow => if_pos hlow
  · intro hlow
    obtain ⟨htiers, g, hg⟩ := exists_status hlow
    refine ⟨g, _, hg, if_neg hlow, Flow.upTo_ascending _ _, fun v hv => (Flow.mem_upTo.1 hv).1, ?_⟩
    intro v hv
    obtain ⟨-, htrim, hline⟩ := hflow v hv
    obtain ⟨d, f', hd, hpath, hf', hvalue, htier⟩ :=
      exists_recheck hparse hnames hf hg htrim hline
    refine ⟨d, hd, fun again level settings => ?_⟩
    have hcache : ({ document := d, cache := c.cache, level, settings } : Context).cache
        = c.cache := rfl
    have hstop' := stop_congr again hcache hpath hf hf' hvalue hstop
    exact ⟨hstop', mem_upTo_iff_passes again (fun v hv => (hflow v hv).1) hcache hpath hvalue hf'
      hstop' htiers hv htier⟩

/-- The document of a text at a path. -/
@[irreducible] def documentAt (path text : String) : Document :=
  (Document.parse text (some path) (some (Path.ofText path))).toOption.getD default

theorem parse_documentAt (path text : String)
    (h : (Document.parse text (some path) (some (Path.ofText path))).toOption.isSome = true) :
    Document.parse (documentAt path text).source (documentAt path text).origin
      (documentAt path text).path = .ok (documentAt path text) := by
  cases hd : Document.parse text (some path) (some (Path.ofText path)) with
  | error e =>
    rw [hd] at h
    cases h
  | ok d =>
    have heq : documentAt path text = d := by
      rw [documentAt, hd]
      rfl
    rw [heq, (Document.parts_of_parse hd).1, Document.origin_of_parse hd, Document.path_of_parse hd]
    exact hd

/-- The way of a proposal in four tiers. -/
def fourTiers : Setup where
  requires := "requires"
  status := "status"
  flow := [["Draft"], ["Review"], ["Last Call"], ["Final"]]

/-- A final proposal that requires a draft, a proposal that is missing and one that is final. -/
def requiring : Context :=
  let d := documentAt "eip-9.md" "---\nstatus: Final\nrequires: 1, x, 2, 3\n---\n"
  { document := d, level := .error, settings := {}
    cache := { entries := [
      (d.pathReference "eip-1.md", .ok (documentAt "eip-1.md" "---\nstatus: Draft\n---\n")),
      (d.pathReference "eip-2.md", .error (.unreadable (.unreadable "missing"))),
      (d.pathReference "eip-3.md", .ok (documentAt "eip-3.md" "---\nstatus: Final\n---\n"))] } }

theorem requiring_advised : ∃ f g listed, requiring.preamble.byName? "requires" = some f ∧
    requiring.preamble.byName? "status" = some g ∧
    (check fourTiers "status" requiring).messages
      = (items f.value).filterMap (complaint? "status" requiring f)
        ++ [fourTiers.unstableMessage "status" requiring f listed] ∧
    ∀ v ∈ fourTiers.flow.flatten, ∃ d,
      Document.parse (requiring.document.revised g (" " ++ v)) requiring.origin
        requiring.document.path = .ok d ∧
      (v ∈ listed ↔ fourTiers.Passes
        (check fourTiers "status" { requiring with document := d }).messages) := by
  have hparse := parse_documentAt "eip-9.md" "---\nstatus: Final\nrequires: 1, x, 2, 3\n---\n"
    (by decide +kernel)
  have hflow : ∀ v ∈ fourTiers.flow.flatten, v ≠ "" ∧ Text.trim v = v ∧ '\n' ∉ v.toList := by
    decide +kernel
  have hstop : (check fourTiers "status" requiring).stop.isNone = true := by decide +kernel
  have hfield : (requiring.preamble.byName? "requires").isSome = true := by decide +kernel
  have hlow : (requiring.preamble.byName? "requires").any
      (fun f => !(fourTiers.low requiring f.value).isEmpty) = true := by decide +kernel
  obtain ⟨f, hf⟩ := Option.isSome_iff_exists.1 hfield
  rw [hf, Option.any_some, Bool.not_eq_true', List.isEmpty_eq_false_iff] at hlow
  obtain ⟨-, hadvised⟩ := check_advises fourTiers "status" requiring hparse (by decide) hflow
    (Option.isNone_iff_eq_none.1 hstop)
  obtain ⟨advice, hmessages, -, hsome⟩ := hadvised f hf
  obtain ⟨g, listed, hg, rfl, -, -, hlisted⟩ := hsome hlow
  refine ⟨f, g, listed, hf, hg, hmessages, fun v hv => ?_⟩
  obtain ⟨d, hd, hagain⟩ := hlisted v hv
  exact ⟨d, hd, (hagain "status" requiring.level requiring.settings).2⟩

example : (check fourTiers "status" requiring).messages.map (fun m => m.footers.map (·.title))
    = [[], ["valid \x60status\x60 values for this proposal are: \x60Draft\x60"]] := by
  decide +kernel

end Rule.RequiredStatus

end ProposalCheck
