import ProposalCheck.Proofs.Advice

/-!
# Advice because of links

A proposal with a link to a less advanced one is told which statuses it may have.
`check_lists`: these are the statuses that are no more advanced than any of the proposals to which
this link and the links before it lead. So what a message says of its link depends on the order of
the links (`check_lists_less`), unless no link before it leads to a less advanced proposal
(`Setup.Lists.alone`).

The rule carries the lowest tier so far from link to link. It is the least tier of the links that
have been judged (`judge_behind`), and so the ceiling of each message belongs to a front part of the
links.
-/

namespace ProposalCheck.Rule.LinkStatus

variable {s : Setup} {slug : String} {c : Context} {l : ProposalLink}
  {before : List ProposalLink}

/-! ### Links -/

/-- The tier of the proposal that a link leads to, if there is one that can be read. -/
def ProposalLink.tier? (s : Setup) (c : Context) (l : ProposalLink) : Option Nat :=
  (c.atPath l.fileName).toOption.map fun other => s.flow.tierOf s.status other.preamble

/-- The least tier that links lead to. -/
def Setup.lowest (s : Setup) (c : Context) (ls : List ProposalLink) : Option Nat :=
  (ls.filterMap (ProposalLink.tier? s c)).min?

theorem lowest_concat_of_none (before : List ProposalLink) (h : l.tier? s c = none) :
    s.lowest c (before ++ [l]) = s.lowest c before := by
  rw [Setup.lowest, List.filterMap_append, List.filterMap_cons_none h, List.filterMap_nil,
    List.append_nil, Setup.lowest]

theorem lowest_concat_of_some {n : Nat} (before : List ProposalLink) (h : l.tier? s c = some n) :
    s.lowest c (before ++ [l])
      = some (match s.lowest c before with | some low => Nat.min low n | none => n) := by
  unfold Setup.lowest
  rw [List.filterMap_append, List.filterMap_cons_some h, List.filterMap_nil]
  cases hlow : (before.filterMap (ProposalLink.tier? s c)).min? with
  | none =>
    rw [List.min?_eq_none_iff.1 hlow]
    rfl
  | some low =>
    obtain ⟨hmem, hle⟩ := List.min?_eq_some_iff.1 hlow
    refine List.min?_eq_some_iff.2 ⟨?_, fun t ht => ?_⟩
    · rcases Nat.le_total low n with h | h
      · have hmin : Nat.min low n = low := Nat.min_eq_left h
        simp only [hmin]
        exact List.mem_append_left _ hmem
      · have hmin : Nat.min low n = n := Nat.min_eq_right h
        simp only [hmin]
        exact List.mem_append_right _ (List.mem_singleton_self n)
    · rcases List.mem_append.1 ht with ht | ht
      · exact Nat.le_trans (Nat.min_le_left _ _) (hle t ht)
      · rw [List.mem_singleton.1 ht]
        exact Nat.min_le_right _ _

/-! ### Messages -/

/-- The title of the message about a proposal that is not far enough. -/
def Setup.title (s : Setup) (fileName current : String) : String :=
  "proposal \x60" ++ fileName ++ "\x60 is not stable enough for a \x60" ++ s.status ++ "\x60 of \x60"
    ++ current ++ "\x60"

/-- The footer that lists statuses, unless there is nothing to be listed. -/
def Setup.footers (s : Setup) (listed : List String) : List Message :=
  let choices := "\x60, \x60".intercalate listed
  if choices.isEmpty then []
  else [{ level := .help, title := "because of this link, this proposal's \x60" ++ s.status
    ++ "\x60 must be one of: \x60" ++ choices ++ "\x60" }]

/-- The message about a proposal that is not far enough, with a list of statuses. -/
def Setup.unstableMessage (s : Setup) (slug : String) (c : Context) (fileName : String) (x : Snippet)
    (listed : List String) : Message where
  level := c.level
  id := some slug
  title := s.title fileName (c.preamble.currentStatus s.status)
  snippets := [x]
  footers := s.footers listed

/-- The message about a proposal that cannot be read. -/
def unreadableMessage (slug : String) (c : Context) (fileName : String) (x : Snippet)
    (e : FetchError) : Message where
  level := c.level
  id := some slug
  title := "unable to read file \x60" ++ fileName ++ "\x60: " ++ e.message
  snippets := [x]

theorem unstable_eq (fileName : String) (x : Snippet) (ceiling : Nat) :
    unstable s slug c fileName x ceiling
      = s.unstableMessage slug c fileName x (s.flow.upTo ceiling) := by
  unfold unstable Setup.unstableMessage Setup.footers Flow.choices
  simp only
  split
  · rfl
  · rfl

/-- The statuses that are not more advanced than what any of some links leads to, in order and each
of them once. -/
structure Setup.Lists (s : Setup) (c : Context) (ls : List ProposalLink) (listed : List String) :
    Prop where
  ascending : listed.Pairwise (· < ·)
  mem : ∀ v, v ∈ listed ↔ v ∈ s.flow.flatten ∧
    ∀ l ∈ ls, ∀ t, l.tier? s c = some t → s.flow.tier v ≤ t

/-- A message about a link behind others: its file cannot be read, or the proposal there is less
advanced, and then the statuses are listed that go with this link and those before it. -/
def Setup.Warns (s : Setup) (slug : String) (c : Context) (before : List ProposalLink)
    (l : ProposalLink) (m : Message) : Prop :=
  ∃ x, snippet c l.toLink = .ok x ∧
    ((∃ e, c.atPath l.fileName = .error (.failed e) ∧
        m = unreadableMessage slug c l.fileName x e) ∨
      ∃ t listed, l.tier? s c = some t ∧ t < s.flow.tierOf s.status c.preamble ∧
        s.Lists c (before ++ [l]) listed ∧ m = s.unstableMessage slug c l.fileName x listed)

/-- The messages about links behind others, in order: one for each link but for those to proposals
that are far enough. -/
inductive Setup.Says (s : Setup) (slug : String) (c : Context) :
    List ProposalLink → List ProposalLink → List Message → Prop
  | done (before : List ProposalLink) : s.Says slug c before [] []
  | fine {before ls : List ProposalLink} {l : ProposalLink} {ms : List Message} {t : Nat}
      (htier : l.tier? s c = some t) (hfar : s.flow.tierOf s.status c.preamble ≤ t)
      (rest : s.Says slug c (before ++ [l]) ls ms) : s.Says slug c before (l :: ls) ms
  | warned {before ls : List ProposalLink} {l : ProposalLink} {m : Message} {ms : List Message}
      (h : s.Warns slug c before l m) (rest : s.Says slug c (before ++ [l]) ls ms) :
      s.Says slug c before (l :: ls) (m :: ms)

theorem Setup.Says.exists_of_mem {ls : List ProposalLink} {ms : List Message} {m : Message}
    (h : s.Says slug c before ls ms) (hm : m ∈ ms) :
    ∃ front l after, ls = front ++ l :: after ∧ s.Warns slug c (before ++ front) l m := by
  induction h with
  | done => cases hm
  | @fine before ls l ms t _ _ _ ih =>
    obtain ⟨front, k, after, rfl, hwarns⟩ := ih hm
    exact ⟨l :: front, k, after, rfl, by simpa using hwarns⟩
  | @warned before ls l m' ms hwarns _ ih =>
    rcases List.mem_cons.1 hm with rfl | hm
    · exact ⟨[], l, ls, rfl, by simpa using hwarns⟩
    · obtain ⟨front, k, after, rfl, hwarns⟩ := ih hm
      exact ⟨l :: front, k, after, rfl, by simpa using hwarns⟩

/-- If no link before leads to a less advanced proposal, the statuses are those that go with the
link alone. -/
theorem Setup.Lists.alone {listed : List String} {t : Nat} (h : s.Lists c (before ++ [l]) listed)
    (htier : l.tier? s c = some t) (hbefore : ∀ k ∈ before, ∀ u, k.tier? s c = some u → t ≤ u)
    (v : String) : v ∈ listed ↔ v ∈ s.flow.flatten ∧ s.flow.tier v ≤ t := by
  rw [h.mem]
  refine and_congr_right fun _ => ⟨fun hv => hv l (by simp) t htier, fun hv k hk u hu => ?_⟩
  rcases List.mem_append.1 hk with hk | hk
  · exact Nat.le_trans hv (hbefore k hk u hu)
  · obtain rfl := List.mem_singleton.1 hk
    exact Option.some.inj (htier.symm.trans hu) ▸ hv

/-! ### Judging -/

theorem lists_upTo {t : Nat} (before : List ProposalLink) (htier : l.tier? s c = some t) :
    s.Lists c (before ++ [l]) (s.flow.upTo ((s.lowest c (before ++ [l])).getD 0)) where
  ascending := Flow.upTo_ascending _ _
  mem v := by
    have hne : (before ++ [l]).filterMap (ProposalLink.tier? s c) ≠ [] :=
      List.ne_nil_of_mem (List.mem_filterMap.2 ⟨l, by simp, htier⟩)
    rw [Setup.lowest, Flow.mem_upTo_min hne]
    refine and_congr_right fun _ => ⟨fun hv k hk u hu => ?_, fun hv u hu => ?_⟩
    · exact hv u (List.mem_filterMap.2 ⟨k, hk, hu⟩)
    · obtain ⟨k, hk, hu⟩ := List.mem_filterMap.1 hu
      exact hv k hk u hu

/-- The rule stops at a link, or it says of the link what there is to be said and hands on the least
tier. -/
theorem judge_behind (s : Setup) (slug : String) (c : Context) (before : List ProposalLink)
    (l : ProposalLink) :
    (∃ stop, (judge s slug c (s.lowest c before) l).1 = .stopped stop) ∨
      (judge s slug c (s.lowest c before) l).2 = s.lowest c (before ++ [l]) ∧
      ((∃ t, l.tier? s c = some t ∧ s.flow.tierOf s.status c.preamble ≤ t ∧
          (judge s slug c (s.lowest c before) l).1 = .none) ∨
        ∃ m, s.Warns slug c before l m ∧
          (judge s slug c (s.lowest c before) l).1 = .report m) := by
  unfold judge
  cases hx : snippet c l.toLink with
  | error e => exact .inl ⟨_, rfl⟩
  | ok x =>
    rcases hother : c.atPath l.fileName with e | other
    · cases e with
      | undeclared r => exact .inl ⟨_, rfl⟩
      | failed e =>
        have htier : l.tier? s c = none := by rw [ProposalLink.tier?, hother]; rfl
        exact .inr ⟨(lowest_concat_of_none before htier).symm,
          .inr ⟨_, ⟨x, hx, .inl ⟨e, hother, rfl⟩⟩, rfl⟩⟩
    · have htier : l.tier? s c = some (s.flow.tierOf s.status other.preamble) := by
        rw [ProposalLink.tier?, hother]
        rfl
      have hlowest := lowest_concat_of_some before htier
      refine .inr ⟨hlowest.symm, ?_⟩
      by_cases hlow : s.flow.tierOf s.status other.preamble < s.flow.tierOf s.status c.preamble
      · have hlists := lists_upTo before htier
        rw [hlowest, Option.getD_some] at hlists
        simp only [hlow, if_true]
        exact .inr ⟨_, ⟨x, hx, .inr ⟨_, _, htier, hlow, hlists, unstable_eq _ _ _⟩⟩, rfl⟩
      · refine .inl ⟨_, htier, Nat.le_of_not_lt hlow, ?_⟩
        simp only [hlow, if_false]

theorem judgeAll_behind (s : Setup) (slug : String) (c : Context) (before ls : List ProposalLink) :
    ∃ judged rest, ls = judged ++ rest ∧
      s.Says slug c before judged (judgeAll s slug c (s.lowest c before) ls).messages ∧
      ((judgeAll s slug c (s.lowest c before) ls).stop = none → rest = []) := by
  induction ls generalizing before with
  | nil => exact ⟨[], [], rfl, .done _, fun _ => rfl⟩
  | cons l ls ih =>
    rw [judgeAll]
    rcases judge_behind s slug c before l with ⟨stop, hstop⟩ | ⟨hlowest, hsaid⟩
    · simp only [hstop]
      exact ⟨[], l :: ls, rfl, .done _, fun h => by cases h⟩
    · obtain ⟨judged, rest, rfl, hjudged, hrest⟩ := ih (before ++ [l])
      simp only [hlowest]
      rcases hsaid with ⟨t, htier, hfar, hnone⟩ | ⟨m, hwarns, hreport⟩
      · simp only [hnone]
        exact ⟨l :: judged, rest, rfl, .fine htier hfar hjudged, hrest⟩
      · simp only [hreport]
        exact ⟨l :: judged, rest, rfl, .warned hwarns hjudged, hrest⟩

/-- What is said about a document is said link by link, and about all links unless the rule stops. The
statuses that the message about a link lists are those that are no more advanced than any of the
proposals to which this link and the links before it lead. -/
theorem check_lists (s : Setup) (slug : String) (c : Context) {ls : List ProposalLink}
    (hlinks : proposalLinks s c.document = .ok ls) :
    (∀ m ∈ (check s slug c).messages, ∃ before l after, ls = before ++ l :: after ∧
      s.Warns slug c before l m) ∧
    ∃ judged rest, ls = judged ++ rest ∧ s.Says slug c [] judged (check s slug c).messages ∧
      ((check s slug c).stop = none → rest = []) := by
  have hcheck : check s slug c = judgeAll s slug c (s.lowest c []) ls := by
    rw [check, hlinks]
    rfl
  rw [hcheck]
  obtain ⟨judged, rest, rfl, hsays, hrest⟩ := judgeAll_behind s slug c [] ls
  refine ⟨fun m hm => ?_, judged, rest, rfl, hsays, hrest⟩
  obtain ⟨before, l, after, rfl, hwarns⟩ := hsays.exists_of_mem hm
  exact ⟨before, l, after ++ rest, by simp, hwarns⟩

/-- A final proposal with links to a draft and to one in review, in this order. -/
def linking : Context :=
  let d := RequiredStatus.documentAt "eip-9.md"
    "---\nstatus: Final\n---\n[a](eip-1.md) [b](eip-2.md)\n"
  { document := d, level := .error, settings := {}
    cache := { entries := [
      (d.pathReference "eip-1.md",
        .ok (RequiredStatus.documentAt "eip-1.md" "---\nstatus: Draft\n---\n")),
      (d.pathReference "eip-2.md",
        .ok (RequiredStatus.documentAt "eip-2.md" "---\nstatus: Review\n---\n"))] } }

/-- The way of a proposal in four tiers. -/
def fourTiers : Setup where
  status := "status"
  flow := RequiredStatus.fourTiers.flow

theorem linking_lists : ∃ ls, proposalLinks fourTiers linking.document = .ok ls ∧ ls.length = 2 ∧
    ∃ m ∈ (check fourTiers "links" linking).messages, ∃ before l after,
      ls = before ++ l :: after ∧ fourTiers.Warns "links" linking before l m := by
  have hshown : (proposalLinks fourTiers linking.document).toOption.map List.length = some 2 ∧
      (check fourTiers "links" linking).messages.isEmpty = false := by decide +kernel
  obtain ⟨hlinks, hmessages⟩ := hshown
  cases h : proposalLinks fourTiers linking.document with
  | error e =>
    rw [h] at hlinks
    cases hlinks
  | ok ls =>
    rw [h] at hlinks
    obtain ⟨m, hm⟩ := List.exists_mem_of_ne_nil _ (List.isEmpty_eq_false_iff.1 hmessages)
    exact ⟨ls, rfl, Option.some.inj hlinks, m, hm, (check_lists fourTiers "links" linking h).1 m hm⟩

/-- The second link leads to a proposal in review, and yet the message about this link does not list
that status, since the first link leads to a draft. -/
theorem check_lists_less : ∃ m ∈ (check fourTiers "links" linking).messages,
    m.title = fourTiers.title "eip-2.md" "Final" ∧
    (linking.atPath "eip-2.md").toOption.map (fun other =>
      fourTiers.flow.tierOf fourTiers.status other.preamble) = some (fourTiers.flow.tier "Review") ∧
    "Review" ∈ fourTiers.flow.flatten ∧
    m.footers.map (·.title) = (fourTiers.footers ["Draft"]).map (·.title) := by
  have hshown : ((check fourTiers "links" linking).messages.any fun m =>
        m.title == fourTiers.title "eip-2.md" "Final" &&
          m.footers.map (·.title) == (fourTiers.footers ["Draft"]).map (·.title)) = true ∧
      (linking.atPath "eip-2.md").toOption.map (fun other =>
        fourTiers.flow.tierOf fourTiers.status other.preamble)
          = some (fourTiers.flow.tier "Review") := by decide +kernel
  obtain ⟨hany, htier⟩ := hshown
  obtain ⟨m, hm, hsays⟩ := List.any_eq_true.1 hany
  obtain ⟨htitle, hfooters⟩ := Bool.and_eq_true_iff.1 hsays
  exact ⟨m, hm, beq_iff_eq.1 htitle, htier, by decide, beq_iff_eq.1 hfooters⟩

end ProposalCheck.Rule.LinkStatus
