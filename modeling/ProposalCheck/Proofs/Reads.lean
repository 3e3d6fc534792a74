import ProposalCheck.Proofs.Sharing

/-!
# Every reference is followed once

`Linter.run_reads`: the paths that a run reads, in some order, are those of the files to check, and
for each reference that some rule asks for on some document the files in which its document may be.
However many rules and documents ask for a reference, it is followed once, and a reference that led
to nothing is not followed again. While rules are asked for their findings nothing is read.

Two spellings of a path with one normal form give one reference (`Document.pathReference_congr`), so that a
document that is asked for in both is followed once (`Linter.count_pathReference`).

The invariant is over the cache: what has been followed is in it, and stays. So the references that
are pending on a document are those that it asks for and that no document before has asked for
(`Linter.checkSources_reads`).
-/

namespace ProposalCheck

open scoped List

theorem nodup_eraseDups {α : Type} [BEq α] [LawfulBEq α] : ∀ xs : List α, xs.eraseDups.Nodup
  | [] => by simp
  | x :: rest => by
    have hshorter : (rest.filter fun y => !y == x).length < rest.length + 1 :=
      Nat.lt_succ_of_le (List.length_filter_le _ _)
    rw [List.eraseDups_cons, List.nodup_cons, List.mem_eraseDups]
    exact ⟨by simp, nodup_eraseDups _⟩
termination_by xs => xs.length

/-- The paths that a source has of its own. -/
def Source.paths : Source → List Path
  | .text _ _ => []
  | .file p => [p]

/-- The files in which the document of a reference may be, where `name` gives the names of
proposals. -/
def Reference.files (name : Int → String) : Reference → List Path
  | .path text => [Path.ofText text]
  | .proposal root number =>
    [(Path.ofText root).child (name number ++ ".md"),
      ((Path.ofText root).child (name number)).child Path.indexName]

theorem Source.reads_readEvents (s : Source) : s.readEvents.filterMap Event.path? = s.paths := by
  cases s <;> rfl

/-! ### Reads while rules are checked -/

/-- Whether the rules are being asked for their findings after an event, if `inside` says so of the
moment before. -/
def Event.checking (inside : Bool) : Event → Bool
  | .progress _ .checking => true
  | .progress _ .done => false
  | _ => inside

/-- The reads among the events while rules are asked for their findings. -/
def readsWhileChecking (inside : Bool) : List Event → List Path
  | [] => []
  | e :: es => (if inside then e.path?.toList else []) ++ readsWhileChecking (e.checking inside) es

/-- Nothing is read while rules are asked for their findings, which has come to its end. -/
def Quiescent (es : List Event) : Prop :=
  readsWhileChecking false es = [] ∧ es.foldl Event.checking false = false

theorem readsWhileChecking_append (inside : Bool) (es fs : List Event) :
    readsWhileChecking inside (es ++ fs)
      = readsWhileChecking inside es ++ readsWhileChecking (es.foldl Event.checking inside) fs := by
  induction es generalizing inside with
  | nil => rfl
  | cons e rest ih => simp [readsWhileChecking, ih]

theorem Quiescent.append {es fs : List Event} (hes : Quiescent es) (hfs : Quiescent fs) :
    Quiescent (es ++ fs) := by
  refine ⟨?_, ?_⟩
  · rw [readsWhileChecking_append, hes.1, hes.2, hfs.1, List.nil_append]
  · rw [List.foldl_append, hes.2, hfs.2]

theorem quiescent_of_outside {es : List Event} (h : ∀ e ∈ es, e.checking false = false) :
    Quiescent es := by
  induction es with
  | nil => exact ⟨rfl, rfl⟩
  | cons e rest ih =>
    obtain ⟨he, hrest⟩ := List.forall_mem_cons.1 h
    obtain ⟨hreads, hend⟩ := ih hrest
    refine ⟨?_, ?_⟩
    · simpa [readsWhileChecking, he] using hreads
    · simpa [he] using hend

/-- A stretch in which rules are asked for their findings. -/
theorem quiescent_checking {origin : Option String} {es : List Event}
    (h : ∀ e ∈ es, e.path? = none ∧ e.checking true = true) :
    Quiescent (.progress origin .checking :: (es ++ [.progress origin .done])) := by
  have hinside : readsWhileChecking true es = [] ∧ es.foldl Event.checking true = true := by
    induction es with
    | nil => exact ⟨rfl, rfl⟩
    | cons e rest ih =>
      obtain ⟨⟨hpath, he⟩, hrest⟩ := List.forall_mem_cons.1 h
      obtain ⟨hreads, hend⟩ := ih hrest
      exact ⟨by simpa [readsWhileChecking, hpath, he] using hreads, by simpa [he] using hend⟩
  refine ⟨?_, ?_⟩
  · show readsWhileChecking true (es ++ [Event.progress origin .done]) = []
    rw [readsWhileChecking_append, hinside.1, hinside.2]
    rfl
  · show (es ++ [Event.progress origin .done]).foldl Event.checking true = false
    rw [List.foldl_append, hinside.2]
    rfl

/-! ### Spellings -/

namespace Path

variable {rooted : Bool} {done ns : List String} {n : String}

/-- A name and a step up behind it cancel out. -/
theorem normalNames_cancel (hn : n ≠ "..") (front : List String) :
    normalNames rooted done (front ++ n :: ".." :: ns) = normalNames rooted done (front ++ ns) := by
  induction front generalizing done with
  | nil => simp [normalNames, hn]
  | cons m rest ih =>
    simp only [List.cons_append, normalNames]
    split
    · cases done with
      | nil => exact ih
      | cons d ds => exact ih
    · exact ih

/-- What is written behind other names may be written in normal form. -/
theorem normalNames_append_normalNames (front acc ns : List String) :
    normalNames rooted done (front ++ normalNames false acc ns)
      = normalNames rooted done (front ++ (acc.reverse ++ ns)) := by
  induction ns generalizing acc with
  | nil => rw [normalNames, List.append_nil]
  | cons n rest ih =>
    have hmove : acc.reverse ++ n :: rest = (n :: acc).reverse ++ rest := by simp
    by_cases hn : n = ".."
    · subst hn
      cases acc with
      | nil => exact ih [".."]
      | cons d ds =>
        by_cases hd : d = ".."
        · subst hd
          exact (ih (".." :: ".." :: ds)).trans (by rw [hmove])
        · have hcancel : normalNames rooted done (front ++ ds.reverse ++ d :: ".." :: rest)
              = normalNames rooted done (front ++ ds.reverse ++ rest) :=
            normalNames_cancel hd _
          have hstep : normalNames false (d :: ds) (".." :: rest) = normalNames false ds rest := by
            simp [normalNames, hd]
          rw [hstep, ih ds, List.reverse_cons, List.append_assoc, List.singleton_append,
            ← List.append_assoc, ← List.append_assoc, hcancel]
    · have hstep : normalNames false acc (n :: rest) = normalNames false (n :: acc) rest := by
        simp [normalNames, hn]
      rw [hstep, ih (n :: acc), hmove]

end Path

/-- Two spellings of a path with one normal form give one reference. -/
theorem Document.pathReference_congr (d : Document) {requested requested' : String}
    (h : (Path.ofText requested).normal = (Path.ofText requested').normal) :
    d.pathReference requested = d.pathReference requested' := by
  -- a relative path is read from the directory of the document, any other one by itself
  have hnormal (p : Path) : ((Path.directory d.path).resolve p).normal
      = if p.root == .relative then ((Path.directory d.path).resolve p.normal).normal else p.normal := by
    unfold Path.resolve
    split
    · rename_i hroot
      rw [if_pos (show (p.normal.root == .relative) = true from hroot)]
      simp [Path.normal, Path.normalNames_append_normalNames, beq_iff_eq.1 hroot]
    · rfl
  have hroot := congrArg Path.root h
  rw [Document.pathReference, Document.pathReference, Reference.ofPath, Reference.ofPath, hnormal,
    hnormal (Path.ofText requested'), h, show (Path.ofText requested).root = _ from hroot]
  rfl

example : (Path.ofText "eip-3.md").normal = (Path.ofText "./old/../eip-3.md").normal := by decide

namespace Linter

variable {l : Linter} {d : Document} {cache after : Cache FetchError Document}

theorem quiescent_documentEvents {s : Settings} {following : List Event}
    (h : ∀ e ∈ following, e.isFollowing) : Quiescent (l.documentEvents d after s following) := by
  have hsplit : l.documentEvents d after s following
      = ((.progress d.origin .parsed :: .progress d.origin .discovering ::
          l.orderedRules.flatMap (discoveryEvents d)) ++
        (.progress d.origin .fetching :: following ++
          (l.modifiers.map (fun m => .modify m.summary) ++ [.progress d.origin .modified]))) ++
        .progress d.origin .checking ::
          ((l.active d).flatMap (checkEvents d after s) ++ [.progress d.origin .done]) := by
    simp [documentEvents]
  have hdiscover : ∀ e ∈ l.orderedRules.flatMap (discoveryEvents d), e.checking false = false := by
    intro e he
    simp only [discoveryEvents, List.mem_flatMap, List.mem_cons, List.mem_map] at he
    obtain ⟨_, -, rfl | ⟨_, -, rfl⟩⟩ := he <;> rfl
  have hfollow : ∀ e ∈ following, e.checking false = false := by
    intro e he
    have hfollowing := h e he
    cases e <;> first | rfl | cases hfollowing
  have hmodify : ∀ e ∈ l.modifiers.map (fun m => Event.modify m.summary),
      e.checking false = false := by
    intro e he
    obtain ⟨_, -, rfl⟩ := List.mem_map.1 he
    rfl
  rw [hsplit]
  refine .append (quiescent_of_outside ?_) (quiescent_checking fun e he => ?_)
  · simp only [List.forall_mem_append, List.forall_mem_cons]
    exact ⟨⟨rfl, rfl, hdiscover⟩, ⟨rfl, hfollow⟩, hmodify, rfl, by simp⟩
  · simp only [checkEvents, List.mem_flatMap, List.mem_cons, List.mem_append, List.mem_map] at he
    obtain ⟨_, -, rfl | ⟨_, -, rfl⟩ | ⟨_, -, rfl⟩⟩ := he <;> exact ⟨rfl, rfl⟩

theorem Visited.quiescent {s : Source} {es : List Event} (h : l.Visited s cache after es) :
    Quiescent es := by
  have hread : Quiescent s.readEvents := by cases s <;> exact ⟨rfl, rfl⟩
  have hstart : Quiescent [.progress s.origin .unparsed] := ⟨rfl, rfl⟩
  cases h with
  | @malformed _ _ ms htext hparse hmessages =>
    have hreport : ∀ e ∈ ms.map Event.report ++ [Event.progress s.origin .notParsed],
        e.checking false = false := by
      intro e he
      rcases List.mem_append.1 he with he | he
      · obtain ⟨_, -, rfl⟩ := List.mem_map.1 he
        rfl
      · obtain rfl := List.mem_singleton.1 he
        rfl
    exact hread.append (hstart.append (quiescent_of_outside hreport))
  | parsed hdocument hchecked =>
    have hfollow := (fetchAll_events hchecked.followed).1
    exact hread.append (hstart.append (quiescent_documentEvents hfollow))

theorem quiescent_checkSources {sources : List Source}
    (h : (l.checkSources cache sources).result = .ok ()) :
    Quiescent (l.checkSources cache sources).events := by
  induction sources generalizing cache with
  | nil => exact ⟨rfl, rfl⟩
  | cons s rest ih =>
    obtain ⟨after, es, hvisited, hrest⟩ := checkSources_cons_result.1 h
    rw [checkSources_cons_events hvisited]
    exact hvisited.quiescent.append (ih hrest)

/-! ### What is followed -/

theorem nodup_pending (references : List Reference) (cache : Cache FetchError Document) :
    (pending references cache).Nodup := by
  refine (List.mergeSort_perm _ _).nodup_iff.2 ?_
  exact (nodup_eraseDups references).filter _

/-- A reference that some rule asks for in two spellings is followed once. -/
theorem count_pathReference {references : List Reference} {requested requested' : String}
    (h : (Path.ofText requested).normal = (Path.ofText requested').normal)
    (hmem : d.pathReference requested ∈ references) (hknown : cache.get? (d.pathReference requested) = none) :
    (pending references cache).count (d.pathReference requested') = 1 := by
  rw [← d.pathReference_congr h, (nodup_pending references cache).count,
    if_pos (mem_pending.2 ⟨hmem, hknown⟩)]

/-- The references that some rule asks for on the document of one of these sources. -/
def AskedFor (l : Linter) (sources : List Source) (r : Reference) : Prop :=
  ∃ s ∈ sources, ∃ d, l.document? s = some d ∧
    ∃ e ∈ l.rules, r ∈ (e.2.rule.discover d).references

theorem askedFor_cons {s : Source} {rest : List Source} {r : Reference} :
    l.AskedFor (s :: rest) r
      ↔ (∃ d, l.document? s = some d ∧ r ∈ l.wanted d) ∨ l.AskedFor rest r := by
  simp only [AskedFor, mem_wanted, List.mem_cons, exists_eq_or_imp]

theorem Visited.reads_malformed (s : Source) (ms : List Message) :
    (s.readEvents ++ Event.progress s.origin .unparsed ::
      (ms.map Event.report ++ [Event.progress s.origin .notParsed])).filterMap Event.path?
      = s.paths := by
  rw [List.filterMap_append, s.reads_readEvents, List.filterMap_cons_none rfl,
    List.filterMap_append, Event.reads_map_report]
  exact List.append_nil _

theorem Checked.reads {s : Source} {settings : Settings} (h : l.Checked d cache after settings) :
    (s.readEvents ++ Event.progress s.origin .unparsed ::
      l.documentEvents d after settings.freeze
        (l.fetchAll (l.wanted d) cache).events).filterMap Event.path?
      = s.paths ++ (pending (l.wanted d) cache).flatMap l.pathsOf := by
  rw [List.filterMap_append, s.reads_readEvents, List.filterMap_cons_none rfl,
    reads_documentEvents, ← (fetchAll_events h.followed).2]
  rfl

/-- The sources read their own paths, and the files of the references that are asked for on them and
have not been followed before. -/
theorem checkSources_reads {sources : List Source}
    (h : (l.checkSources cache sources).result = .ok ()) :
    ∃ keys : List Reference, keys.Nodup ∧
      (∀ r, r ∈ keys ↔ cache.get? r = none ∧ l.AskedFor sources r) ∧
      (∀ r ∈ keys, ∃ x, l.load r = .ok x) ∧
      (l.checkSources cache sources).reads.Perm
        (sources.flatMap Source.paths ++ keys.flatMap l.pathsOf) := by
  induction sources generalizing cache with
  | nil => exact ⟨[], List.nodup_nil, by simp [AskedFor], by simp, .refl _⟩
  | cons s rest ih =>
    obtain ⟨after, es, hvisited, hrest⟩ := checkSources_cons_result.1 h
    obtain ⟨keys, hnodup, hkeys, hloads, hreads⟩ := ih hrest
    rw [Trace.reads] at hreads ⊢
    rw [checkSources_cons_events hvisited, List.filterMap_append, List.flatMap_cons]
    cases hvisited with
    | malformed htext hparse _ =>
      have hnone : l.document? s = none := by
        simp [document?, htext, hparse, Except.toOption]
      refine ⟨keys, hnodup, fun r => ?_, hloads, ?_⟩
      · rw [hkeys, askedFor_cons]
        simp [hnone]
      · rw [Visited.reads_malformed, List.append_assoc]
        exact hreads.append_left _
    | @parsed d _ _ hdocument hchecked =>
      have hafter : ∀ r, after.get? r = none ↔ cache.get? r = none ∧ r ∉ l.wanted d :=
        fun r => get?_eq_none_of_fetchAll hchecked.followed
      refine ⟨pending (l.wanted d) cache ++ keys, ?_, fun r => ?_, fun r hr => ?_, ?_⟩
      -- what is followed now is known behind this source, so no later source follows it
      · rw [List.nodup_append]
        refine ⟨nodup_pending _ _, hnodup, fun r hr t ht hrt => ?_⟩
        subst hrt
        exact ((hafter r).1 ((hkeys r).1 ht).1).2 (mem_pending.1 hr).1
      · rw [List.mem_append, mem_pending, hkeys, hafter, askedFor_cons]
        simp only [hdocument, Option.some.injEq, exists_eq_left']
        by_cases hr : r ∈ l.wanted d
        · simp [hr]
        · simp [hr]
      · rcases List.mem_append.1 hr with hr | hr
        · exact loads_of_fetchAll hchecked.followed r hr
        · exact hloads r hr
      · rw [hchecked.reads, List.flatMap_append]
        calc _ = s.paths ++ (pending (l.wanted d) cache).flatMap l.pathsOf ++ _ := rfl
          _ ~ s.paths ++ (pending (l.wanted d) cache).flatMap l.pathsOf
              ++ (rest.flatMap Source.paths ++ keys.flatMap l.pathsOf) := hreads.append_left _
          _ = s.paths ++ ((pending (l.wanted d) cache).flatMap l.pathsOf
              ++ rest.flatMap Source.paths ++ keys.flatMap l.pathsOf) := by simp
          _ ~ s.paths ++ (rest.flatMap Source.paths
              ++ (pending (l.wanted d) cache).flatMap l.pathsOf ++ keys.flatMap l.pathsOf) :=
            (List.perm_append_comm.append_right _).append_left _
          _ = _ := by simp

/-- The name of a proposal in the names of its files, if there is one. -/
def proposalName (l : Linter) (number : Int) : String :=
  (Template.fill l.proposalFormat (.number number)).toOption.getD ""

theorem fill_of_load {root : String} {number : Int} {x : Except FetchError Document}
    (h : l.load (.proposal root number) = .ok x) :
    Template.fill l.proposalFormat (.number number) = .ok (l.proposalName number) := by
  unfold proposalName
  cases hname : Template.fill l.proposalFormat (.number number) with
  | ok name => rfl
  | error e =>
    rw [load, candidates, hname] at h
    cases h

theorem pathsOf_of_load {r : Reference} {x : Except FetchError Document} (h : l.load r = .ok x) :
    l.pathsOf r = r.files l.proposalName := by
  cases r with
  | path text => rfl
  | proposal root number =>
    rw [pathsOf, candidates, fill_of_load h]
    rfl

/-- The reads of a run that comes to its end: the paths of the files to check, and the files of each
reference that some rule asks for on some document. -/
theorem run_reads (l : Linter) (hrun : l.run.result = .ok ()) :
    ∃ keys : List Reference, keys.Nodup ∧
      (∀ r, r ∈ keys ↔ ∃ s ∈ l.sources, ∃ d, l.document? s = some d ∧
        ∃ e ∈ l.rules, r ∈ (e.2.rule.discover d).references) ∧
      (∀ root number, .proposal root number ∈ keys →
        Template.fill l.proposalFormat (.number number) = .ok (l.proposalName number)) ∧
      l.run.reads.Perm
        (l.sources.flatMap Source.paths ++ keys.flatMap (Reference.files l.proposalName)) ∧
      readsWhileChecking false l.run.events = [] := by
  obtain ⟨-, -, hsources⟩ := run_result.1 hrun
  obtain ⟨keys, hnodup, hkeys, hloads, hreads⟩ := checkSources_reads hsources
  have hfiles : keys.flatMap l.pathsOf = keys.flatMap (Reference.files l.proposalName) := by
    refine List.flatMap_congr fun r hr => ?_
    obtain ⟨x, hx⟩ := hloads r hr
    exact pathsOf_of_load hx
  have hrunReads : l.run.reads = (l.checkSources .empty l.sources).reads := by
    rw [Trace.reads, run_events hrun]
    rfl
  refine ⟨keys, hnodup, fun r => ?_, fun root number hmem => ?_, ?_, ?_⟩
  · rw [hkeys]
    simp [AskedFor]
  · obtain ⟨x, hx⟩ := hloads _ hmem
    exact fill_of_load hx
  · rw [hrunReads, ← hfiles]
    exact hreads
  · rw [run_events hrun]
    exact (quiescent_checkSources hsources).1

/-- A rule that asks for one path in two spellings, and for a proposal. -/
def curiousRule : Rule where
  description := "Proposals have readers."
  summary := "Curious()"
  discover d :=
    { references := [d.pathReference "eip-3.md", d.pathReference "./old/../eip-3.md",
        d.siblingReference 9] }
  check _ _ := .none

/-- Two rules that ask for the same, and documents in one directory. -/
def curious : Linter where
  rules := [("second", none), ("first", some .warning)].map fun (slug, level) =>
    (slug, { rule := curiousRule, level })
  reader p :=
    if p.text == "EIPS/eip-3.md" then .ok "---\n---\n" else .error (.unreadable "missing")
  sources := [.text "---\n---\n" (some "EIPS/eip-1.md"), .file (Path.ofText "EIPS/eip-3.md"),
    .text "---\n" none, .text "---\n---\n" (some "EIPS/eip-2/index.md")]

theorem curious_run_result : curious.run.result = .ok () := by
  have hl : curious.Plain := by
    refine ⟨fun e he => ?_, fun m hm => ?_⟩
    · obtain ⟨x, -, rfl⟩ := List.mem_map.1 he
      exact fun _ _ _ _ _ _ _ _ => rfl
    · exact exists_defaultLevel _ m hm
  exact run_result_of_completes hl (List.cons_ne_nil _ _) (List.cons_ne_nil _ _)
    (by decide +kernel)

theorem curious_reads :
    ∃ keys : List Reference, keys.Nodup ∧
      (∀ r, r ∈ keys ↔ ∃ s ∈ curious.sources, ∃ d, curious.document? s = some d ∧
        ∃ e ∈ curious.rules, r ∈ (e.2.rule.discover d).references) ∧
      (∀ root number, .proposal root number ∈ keys →
        Template.fill curious.proposalFormat (.number number)
          = .ok (curious.proposalName number)) ∧
      curious.run.reads.Perm (curious.sources.flatMap Source.paths
        ++ keys.flatMap (Reference.files curious.proposalName)) ∧
      readsWhileChecking false curious.run.events = [] :=
  run_reads curious curious_run_result

end Linter

end ProposalCheck
