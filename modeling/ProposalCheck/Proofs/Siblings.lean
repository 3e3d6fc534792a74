import ProposalCheck.Proofs.FileTexts
import ProposalCheck.Proofs.Places
import ProposalCheck.Proofs.Resolutions

/-!
# Siblings have one directory

The number of a proposal is looked up in the directory that holds it and its siblings.
`Linter.siblings_share_root`: a proposal to which a number leads has the same such directory as the
document that asked for it, whether it is a file there or has a directory of its own, so that both
mean the same by every number. The directory is written in normal form.

In normal form the steps up come first (`Path.IsNormal`). A directory in normal form is found again
from below it, because a name and a step up behind it cancel out (`Path.normalNames_up`).
-/

namespace ProposalCheck

namespace Path

/-! ### Names in normal form -/

/-- The steps up come first, and below a root there are none. -/
def Settled (rooted : Bool) (names : List String) : Prop :=
  ∃ ups rest, names = List.replicate ups ".." ++ rest ∧ ".." ∉ rest ∧ (rooted = true → ups = 0)

/-- A path in which no step up stands behind a name or a root. -/
def IsNormal (p : Path) : Prop :=
  Settled (p.root != .relative) p.names

variable {rooted : Bool} {names done ns : List String} {name : String}

theorem Settled.concat (h : Settled rooted names) (hname : name ≠ "..") :
    Settled rooted (names ++ [name]) := by
  obtain ⟨ups, rest, rfl, hrest, hrooted⟩ := h
  refine ⟨ups, rest ++ [name], List.append_assoc _ _ _, ?_, hrooted⟩
  rw [List.mem_append, List.mem_singleton, not_or]
  exact ⟨hrest, hname.symm⟩

/-- The last name is a step up only if all names are. -/
theorem Settled.cases (h : Settled rooted (names ++ [name])) :
    (name = ".." ∧ rooted = false ∧ ∃ ups, names = List.replicate ups "..") ∨
      (name ≠ ".." ∧ Settled rooted names) := by
  obtain ⟨ups, rest, heq, hrest, hrooted⟩ := h
  rcases List.eq_nil_or_concat rest with rfl | ⟨front, last, rfl⟩
  · left
    rw [List.append_nil] at heq
    cases ups with
    | zero => simp at heq
    | succ k =>
      rw [List.replicate_succ'] at heq
      obtain ⟨rfl, hname⟩ := List.append_inj' heq rfl
      refine ⟨(List.cons.inj hname).1, ?_, k, rfl⟩
      cases rooted with
      | false => rfl
      | true => simp at hrooted
  · right
    rw [List.concat_eq_append, ← List.append_assoc] at heq
    obtain ⟨rfl, hname⟩ := List.append_inj' heq rfl
    obtain rfl := (List.cons.inj hname).1
    rw [List.concat_eq_append, List.mem_append, List.mem_singleton, not_or] at hrest
    exact ⟨fun hup => hrest.2 hup.symm, ups, front, rfl, hrest.1, hrooted⟩

theorem settled_replicate (ups : Nat) : Settled false (List.replicate ups "..") :=
  ⟨ups, [], (List.append_nil _).symm, List.not_mem_nil, fun h => by cases h⟩

theorem settled_normalNames (h : Settled rooted done.reverse) (ns : List String) :
    Settled rooted (normalNames rooted done ns) := by
  fun_induction normalNames rooted done ns with
  | case1 done => exact h
  | case2 n ns hup ih =>
    apply ih
    cases rooted with
    | false => exact settled_replicate 1
    | true => exact h
  | case3 n ns hup d ds ih =>
    apply ih
    rw [List.reverse_cons] at h
    rcases h.cases with ⟨rfl, rfl, ups, hds⟩ | ⟨hd, hds⟩
    · -- a step up behind steps up stays
      rw [if_pos (beq_self_eq_true _), beq_iff_eq.1 hup, List.reverse_cons, List.reverse_cons, hds,
        ← List.replicate_succ', ← List.replicate_succ']
      exact settled_replicate _
    · rw [if_neg (mt beq_iff_eq.1 hd)]
      exact hds
  | case4 done n ns hup ih =>
    apply ih
    rw [List.reverse_cons]
    exact h.concat (by simpa using hup)

theorem normalNames_cons (hname : name ≠ "..") :
    normalNames rooted done (name :: ns) = normalNames rooted (name :: done) ns := by
  rw [normalNames.eq_def]
  exact if_neg (mt beq_iff_eq.1 hname)

theorem normalNames_append (xs ys : List String) : normalNames rooted done (xs ++ ys)
    = normalNames rooted (normalNames rooted done xs).reverse ys := by
  fun_induction normalNames rooted done xs with
  | case1 done => rw [List.nil_append, List.reverse_reverse]
  | case2 n ns hup ih => rw [List.cons_append, normalNames, if_pos hup, ih]
  | case3 n ns hup d ds ih => rw [List.cons_append, normalNames, if_pos hup, ih]
  | case4 done n ns hup ih => rw [List.cons_append, normalNames_cons (mt beq_iff_eq.2 hup), ih]

theorem normalNames_of_not_mem (h : ".." ∉ ns) :
    normalNames rooted done ns = done.reverse ++ ns := by
  induction ns generalizing done with
  | nil => rw [normalNames, List.append_nil]
  | cons n rest ih =>
    rw [List.mem_cons, not_or] at h
    rw [normalNames_cons (Ne.symm h.1), ih h.2, List.reverse_cons, List.append_assoc]
    rfl

theorem normalNames_replicate (k ups : Nat) :
    normalNames false (List.replicate k "..") (List.replicate ups "..")
      = List.replicate (k + ups) ".." := by
  induction ups generalizing k with
  | zero => rw [List.replicate_zero, normalNames, List.reverse_replicate, Nat.add_zero]
  | succ ups ih =>
    have hnext : normalNames false (List.replicate k "..") (List.replicate (ups + 1) "..")
        = normalNames false (List.replicate (k + 1) "..") (List.replicate ups "..") := by
      cases k <;> simp [List.replicate_succ, normalNames]
    rw [hnext, ih, Nat.add_assoc, Nat.add_comm 1]

/-- Names in normal form stay as they are. -/
theorem normalNames_of_settled (h : Settled rooted names) : normalNames rooted [] names = names := by
  obtain ⟨ups, rest, rfl, hrest, hrooted⟩ := h
  cases rooted with
  | false =>
    have hups := normalNames_replicate 0 ups
    rw [List.replicate_zero, Nat.zero_add] at hups
    rw [normalNames_append, hups, normalNames_of_not_mem hrest, List.reverse_reverse]
  | true =>
    obtain rfl := hrooted rfl
    rw [List.replicate_zero, List.nil_append, normalNames_of_not_mem hrest]
    rfl

/-- A name and a step up behind it cancel out. -/
theorem normalNames_up (h : Settled rooted names) (hname : name ≠ "..") :
    normalNames rooted [] (names ++ [name, ".."]) = names := by
  rw [normalNames_append, normalNames_of_settled h, normalNames_cons hname]
  simp [normalNames, hname]

theorem mem_normalNames {n : String} (h : n ∈ normalNames rooted done ns) : n ∈ done ∨ n ∈ ns := by
  fun_induction normalNames rooted done ns with
  | case1 done => exact .inl (List.mem_reverse.1 h)
  | case2 m ns hup ih =>
    rcases ih h with h | h
    · cases rooted with
      | false =>
        obtain rfl := List.mem_singleton.1 h
        rw [beq_iff_eq.1 hup]
        exact .inr List.mem_cons_self
      | true => cases h
    · exact .inr (List.mem_cons_of_mem _ h)
  | case3 m ns hup d ds ih =>
    rcases ih h with h | h
    · split at h
      · rcases List.mem_cons.1 h with rfl | h
        · exact .inr List.mem_cons_self
        · exact .inl h
      · exact .inl (List.mem_cons_of_mem _ h)
    · exact .inr (List.mem_cons_of_mem _ h)
  | case4 done m ns hup ih =>
    rcases ih h with h | h
    · rcases List.mem_cons.1 h with rfl | h
      · exact .inr List.mem_cons_self
      · exact .inl h
    · exact .inr (List.mem_cons_of_mem _ h)

/-! ### Paths in normal form -/

variable {p : Path}

theorem isNormal_normal (p : Path) : p.normal.IsNormal :=
  settled_normalNames ⟨0, [], rfl, List.not_mem_nil, fun _ => rfl⟩ p.names

theorem IsNormal.normal_eq (h : p.IsNormal) : p.normal = p := by
  unfold normal
  rw [normalNames_of_settled h]

theorem Proper.normal (h : p.Proper) : p.normal.Proper := by
  intro n hn
  rcases mem_normalNames hn with hn | hn
  · cases hn
  · exact h n hn

theorem Proper.parent (h : p.Proper) : p.parent.Proper :=
  fun n hn => h n (List.dropLast_subset _ hn)

/-- The path with a name behind the others. -/
def below (p : Path) (name : String) : Path :=
  { p with names := p.names ++ [name] }

@[simp]
theorem parent_below (p : Path) (name : String) : (p.below name).parent = p := by
  unfold parent below
  rw [List.dropLast_concat]

@[simp]
theorem name_below (p : Path) (name : String) : (p.below name).name = name := by
  unfold Path.name below
  rw [List.getLast?_concat, Option.getD_some]

theorem Proper.below (h : p.Proper) (hempty : name ≠ "") (hdot : name ≠ ".")
    (hslash : '/' ∉ name.toList) : (p.below name).Proper :=
  List.forall_mem_append.2 ⟨h, List.forall_mem_singleton.2 ⟨hempty, hdot, hslash⟩⟩

/-- A text that is one name leads one name further down. -/
theorem child_eq_below (p : Path) (hempty : name ≠ "") (hdot : name ≠ ".")
    (hslash : '/' ∉ name.toList) : p.child name = p.below name := by
  have hproper : ({ names := [name] } : Path).Proper :=
    List.forall_mem_singleton.2 ⟨hempty, hdot, hslash⟩
  have htext : ({ names := [name] } : Path).text = name := by simp [text, rootText]
  have hname := ofText_text hproper
  rw [htext] at hname
  rw [child, hname]
  rfl

/-- A name and a step up behind it cancel out. -/
theorem IsNormal.normal_below_up (h : p.IsNormal) (hname : name ≠ "..") :
    ((p.below name).below "..").normal = p := by
  have hnames := normalNames_up h hname
  unfold normal below
  rw [List.append_assoc]
  exact congrArg (fun names => { p with names := names }) hnames

/-! ### The directory of siblings -/

/-- A file has its siblings around it. -/
theorem proposalRoot_of_name_ne (h : p.name ≠ indexName) :
    proposalRoot (some p) = p.parent.normal.text := by
  have hfile : ¬ (some p).any (·.name == indexName) = true := mt beq_iff_eq.1 h
  show (if _ then _ else p.parent).normal.text = _
  rw [if_neg hfile]

/-- A proposal with a directory of its own has its siblings around the directory. -/
theorem proposalRoot_of_name_eq (h : p.name = indexName) :
    proposalRoot (some p) = (p.parent.below "..").normal.text := by
  have hindex : (some p).any (·.name == indexName) = true := beq_iff_eq.2 h
  show (if _ then p.parent.child ".." else _).normal.text = _
  rw [if_pos hindex, child_eq_below _ (by decide) (by decide) (by decide)]

/-- The directory of the siblings is written in normal form. -/
theorem exists_proposalRoot (place : Option String) :
    ∃ r : Path, r.Proper ∧ r.IsNormal ∧ proposalRoot (place.map ofText) = r.text := by
  cases place with
  | none => exact ⟨here.normal, fun n hn => absurd hn List.not_mem_nil, isNormal_normal _, rfl⟩
  | some s =>
    have hparent := (proper_ofText s).parent
    by_cases hname : (ofText s).name = indexName
    · exact ⟨_, (hparent.below (by decide) (by decide) (by decide)).normal, isNormal_normal _,
        proposalRoot_of_name_eq hname⟩
    · exact ⟨_, hparent.normal, isNormal_normal _, proposalRoot_of_name_ne hname⟩

section Places

variable {r : Path} (hr : r.IsNormal)
include hr

theorem proposalRoot_file (hname : name ≠ indexName) :
    proposalRoot (some (r.below name)) = r.text := by
  rw [proposalRoot_of_name_ne (by simpa using hname), parent_below, hr.normal_eq]

theorem proposalRoot_index (hname : name ≠ "..") :
    proposalRoot (some ((r.below name).below indexName)) = r.text := by
  rw [proposalRoot_of_name_eq (name_below _ _), parent_below, hr.normal_below_up hname]

/-- At both places of a proposal, the directory of the siblings is the one in which the proposal was
looked for. -/
theorem proposalRoot_places (hproper : r.Proper) (hslash : '/' ∉ name.toList)
    (hplain : name ∉ ["", ".", "..", "index"]) :
    proposalRoot (some (flatPlace r.text name)) = r.text ∧
      proposalRoot (some (indexPlace r.text name)) = r.text := by
  simp only [List.mem_cons, List.not_mem_nil, or_false, not_or] at hplain
  obtain ⟨hempty, hdot, hup, hindex⟩ := hplain
  unfold flatPlace indexPlace
  rw [ofText_text hproper]
  constructor
  · have hfile : name ++ ".md" ≠ indexName := by
      intro h
      exact hindex ((String.append_left_inj _).1 (h : name ++ ".md" = "index" ++ ".md"))
    have hlong : 3 ≤ (name ++ ".md").length := by
      rw [String.length_append]
      exact Nat.le_add_left _ _
    have hempty' : name ++ ".md" ≠ "" := by
      intro h
      rw [h] at hlong
      exact absurd hlong (by decide)
    have hdot' : name ++ ".md" ≠ "." := by
      intro h
      rw [h] at hlong
      exact absurd hlong (by decide)
    have hslash' : '/' ∉ (name ++ ".md").toList := by simpa using hslash
    rw [child_eq_below _ hempty' hdot' hslash']
    exact proposalRoot_file hr hfile
  · rw [child_eq_below _ hempty hdot hslash, child_eq_below _ (by decide) (by decide) (by decide)]
    exact proposalRoot_index hr hup

end Places

end Path

namespace Context

variable {c other : Context} {r : Reference}

/-- A reference that can be followed is known, with a document. -/
theorem follow_eq_ok :
    c.follow r = .ok other
      ↔ ∃ d, c.cache.get? r = some (.ok d) ∧ other = { c with document := d } := by
  unfold follow Cache.lookup
  cases c.cache.get? r with
  | none => simp [Except.map]
  | some x => cases x <;> simp [Except.map, eq_comm]

end Context

namespace Linter

variable {l : Linter} {r : Reference} {d : Document}

/-- What a reference leads to has one of the paths that are read for it. -/
theorem exists_path_of_load (h : l.load r = .ok (.ok d)) :
    ∃ ps, l.candidates r = .ok ps ∧ ∃ p ∈ ps, d.path = some p := by
  obtain ⟨ps, hps, h⟩ := bind_eq_ok.1 h
  obtain ⟨found, hfound, h⟩ := bind_eq_ok.1 h
  refine ⟨ps, ?_, ?_⟩
  · cases hcandidates : l.candidates r with
    | ok qs =>
      rw [hcandidates] at hps
      rw [Except.ok.inj hps]
    | error e =>
      rw [hcandidates] at hps
      cases hps
  rcases choose_cases r found with ⟨p, text, hmem, heq⟩ | ⟨e, heq⟩
  · obtain ⟨q, hq, hread⟩ := exists_of_mem_mapM hfound _ hmem
    obtain ⟨answer, -, hanswer⟩ := bind_eq_ok.1 hread
    obtain ⟨rfl, rfl⟩ := Prod.mk.inj (Except.ok.inj hanswer)
    exact ⟨q, hq, Document.path_of_parse (parseFetched_eq_ok.1 (heq.symm.trans h))⟩
  · rw [heq] at h
    cases h

/-- A proposal that is found by its number has the same directory of siblings as the document from
which it was looked up, at either of the two places at which it may be. So both mean the same by
every number. The directory is written in normal form. -/
theorem siblings_share_root (l : Linter) (number : Int) (name : String)
    (hname : Template.fill l.proposalFormat (.number number) = .ok name)
    (hslash : '/' ∉ name.toList) (hplain : name ∉ ["", ".", "..", "index"])
    (before : List Source) (d : Document) (c : Context) (hreaches : l.Reaches before d c.cache)
    (path : Option String) (hpath : c.document.path = path.map Path.ofText) :
    (∀ other, c.sibling number = .ok other → ∃ q, other.document.path = some q ∧
      (q = .flatPlace (Path.proposalRoot c.document.path) name ∨
        q = .indexPlace (Path.proposalRoot c.document.path) name) ∧
      ∀ m, Reference.ofNumber (some q) m = Reference.ofNumber c.document.path m) ∧
    (Path.ofText (Path.proposalRoot c.document.path)).IsNormal ∧
    (Path.ofText (Path.proposalRoot c.document.path)).text = Path.proposalRoot c.document.path := by
  obtain ⟨root, hproper, hnormal, hroot⟩ := Path.exists_proposalRoot path
  rw [← hpath] at hroot
  rw [hroot, Path.ofText_text hproper]
  refine ⟨fun other hother => ?_, hnormal, rfl⟩
  obtain ⟨found, hfound, rfl⟩ := Context.follow_eq_ok.1 hother
  obtain ⟨ps, hps, q, hq, hdocument⟩ := exists_path_of_load (hreaches.coherent _ _ hfound)
  have hcandidates : ps = [.flatPlace root.text name, .indexPlace root.text name] := by
    rw [Document.siblingReference, Reference.ofNumber, hroot, candidates, hname] at hps
    exact (Except.ok.inj hps).symm
  have hplace : q = .flatPlace root.text name ∨ q = .indexPlace root.text name := by
    rw [hcandidates] at hq
    simpa using hq
  obtain ⟨hflat, hindex⟩ := Path.proposalRoot_places hnormal hproper hslash hplain
  refine ⟨q, hdocument, hplace, fun m => ?_⟩
  have hsame : Path.proposalRoot (some q) = root.text := by
    rcases hplace with rfl | rfl
    · exact hflat
    · exact hindex
  rw [Reference.ofNumber, Reference.ofNumber, hsame, hroot]

/-- A draft two directories up, which has a directory of its own, and a proposal around that. -/
def climbing : Linter :=
  asking [7] [("../../eip-7/index.md", "---\nstatus: Final\n---\n")]
    ["../draft/../../eip-1/index.md"]

theorem climbing_run_result : climbing.run.result = .ok () :=
  run_result_of_completes (asking_plain _ _ _) (List.cons_ne_nil _ _) (List.cons_ne_nil _ _)
    (by decide +kernel)

theorem siblings_share_root_climbing :
    Template.fill climbing.proposalFormat (.number 7) = .ok "eip-7" ∧
    ∃ c other : Context, climbing.Reaches [] c.document c.cache ∧
      c.document.path = some (Path.ofText "../draft/../../eip-1/index.md") ∧
      Path.proposalRoot c.document.path = "../.." ∧ c.sibling 7 = .ok other ∧
      other.document.path = some (.indexPlace "../.." "eip-7") ∧
      Reference.ofNumber (some (.indexPlace "../.." "eip-7")) 9
        = Reference.ofNumber c.document.path 9 := by
  have hname : Template.fill climbing.proposalFormat (.number 7) = .ok "eip-7" := by decide +kernel
  have hparses : (climbing.document? climbing.sources[0]).isSome = true := by decide +kernel
  obtain ⟨d, hd⟩ := Option.isSome_iff_exists.1 hparses
  have hpath : d.path = some (Path.ofText "../draft/../../eip-1/index.md") := path_of_document? hd
  have hroot : Path.proposalRoot d.path = "../.." := by
    rw [hpath]
    decide +kernel
  have hseven : d.siblingReference 7 = .proposal "../.." 7 := congrArg (Reference.proposal · 7) hroot
  obtain ⟨cache, hreaches⟩ : ∃ cache, climbing.Reaches [] d cache :=
    exists_reaches climbing_run_result rfl hd
  let c : Context := { document := d, cache, level := .error, settings := {} }
  have hknown : cache.get? (.proposal "../.." 7) ≠ none := by
    intro hnone
    refine (hreaches.get?_eq_none.1 hnone).2 (mem_wanted.2 ⟨_, List.mem_singleton_self _, ?_⟩)
    rw [← hseven]
    exact List.mem_singleton_self _
  have hloads : (climbing.load (.proposal "../.." 7)).toOption.bind
      (fun x => x.toOption.map Document.path) = some (some (.indexPlace "../.." "eip-7")) := by
    decide +kernel
  obtain ⟨x, hx, hfound⟩ := Option.bind_eq_some_iff.1 hloads
  obtain ⟨found, hfound, hplace⟩ := Option.map_eq_some_iff.1 hfound
  obtain rfl := toOption_eq_some.1 hfound
  have hsibling : c.sibling 7 = .ok { c with document := found } :=
    sibling_of_load hreaches.coherent hseven hknown (toOption_eq_some.1 hx)
  obtain ⟨hsame, -⟩ := siblings_share_root climbing 7 "eip-7" hname (by decide) (by decide) [] d c
    hreaches (some "../draft/../../eip-1/index.md") hpath
  obtain ⟨q, hq, -, hnumbers⟩ := hsame _ hsibling
  obtain rfl := Option.some.inj (hplace.symm.trans hq)
  exact ⟨hname, c, _, hreaches, hpath, hroot, hsibling, hplace, hnumbers 9⟩

end Linter

end ProposalCheck
