import ProposalCheck.Proofs.Bystanders
import ProposalCheck.Proofs.Declarations
import ProposalCheck.Proofs.Records

/-!
# What the number of a proposal leads to

A proposal is a file, or a directory of its own with an index. `Linter.siblings_resolve`: a rule that
looks up a number gets the document at the one of the two places that can be read, or else the reason
why there is none: both can be read, neither can, or the text is not a document. All rules and all
sources of a run for which the number belongs to the same directory get the same.

The reader is asked for both places before anything is parsed, so what a number leads to is settled
by the two answers (`Reader.readsOne_cases`, `Linter.load_proposal`). A run keeps it in its cache,
which holds only what following a reference anew would give (`Linter.Reaches.coherent`). A text in
which footnotes are nested so that its body cannot be read is none of these cases: it ends the run
(`Linter.run_of_unbalanced`).
-/

namespace ProposalCheck

/-! ### Two places -/

namespace Path

/-- The place of a proposal that is a file. -/
def flatPlace (root name : String) : Path :=
  (ofText root).child (name ++ ".md")

/-- The place of a proposal that has a directory of its own. -/
def indexPlace (root name : String) : Path :=
  ((ofText root).child name).child indexName

end Path

namespace Reader

/-- Every path leads to a text or to a reason why there is none. -/
def Answers (reader : Reader) : Prop :=
  ∀ p, (∃ text, reader p = .ok text) ∨ ∃ reason, reader p = .error (.unreadable reason)

/-- One of two places can be read and the other cannot. The place is `p`, and this is its text. -/
def ReadsOne (reader : Reader) (one other p : Path) (text : String) : Prop :=
  (p = one ∧ reader one = .ok text ∧ ∃ e, reader other = .error e) ∨
    (p = other ∧ reader other = .ok text ∧ ∃ e, reader one = .error e)

/-- One of two places can be read, or both, or neither. -/
theorem readsOne_cases (reader : Reader) (one other : Path) :
    (∃ p text, reader.ReadsOne one other p text) ∨
      (∃ t u, reader one = .ok t ∧ reader other = .ok u) ∨
      ∃ e e', reader one = .error e ∧ reader other = .error e' := by
  cases hone : reader one with
  | ok t =>
    cases hother : reader other with
    | ok u => exact .inr (.inl ⟨t, u, rfl, rfl⟩)
    | error e => exact .inl ⟨one, t, .inl ⟨rfl, hone, e, hother⟩⟩
  | error e =>
    cases hother : reader other with
    | ok u => exact .inl ⟨other, u, .inr ⟨rfl, hother, e, hone⟩⟩
    | error e' => exact .inr (.inr ⟨e, e', rfl, rfl⟩)

/-- The reader of some texts by their paths. -/
def ofTexts (texts : List (String × String)) : Reader := fun p =>
  match texts.lookup p.text with
  | some text => .ok text
  | none => .error (.unreadable "missing")

theorem answers_ofTexts (texts : List (String × String)) : (ofTexts texts).Answers := by
  intro p
  unfold ofTexts
  cases texts.lookup p.text with
  | some text => exact .inl ⟨text, rfl⟩
  | none => exact .inr ⟨"missing", rfl⟩

end Reader

namespace Linter

variable {l : Linter} {before : List Source} {c : Context} {number : Int} {root name : String}

theorem readText_eq (h : l.reader.Answers) (p : Path) : l.readText p = .ok (l.reader p) := by
  unfold readText
  rcases h p with ⟨text, hp⟩ | ⟨reason, hp⟩
  · rw [hp]
  · rw [hp]

/-- With a reader that answers, what a reference leads to is chosen among the answers. -/
theorem load_eq (h : l.reader.Answers) {r : Reference} {ps : List Path}
    (hps : l.candidates r = .ok ps) : l.load r = choose r (ps.map fun p => (p, l.reader p)) := by
  have hread : (ps.mapM fun p => return (p, ← l.readText p))
      = Except.ok (ps.map fun p => (p, l.reader p)) := by
    refine mapM_eq_ok.2 (List.forall₂_map_right_iff.2 (List.forall₂_same.2 fun p _ => ?_))
    rw [readText_eq h]
    rfl
  calc l.load r = (ps.mapM fun p => return (p, ← l.readText p)) >>= choose r := by
        rw [load, hps]
        rfl
    _ = choose r (ps.map fun p => (p, l.reader p)) := by
        rw [hread]
        rfl

section Named

variable (hreader : l.reader.Answers)
  (hname : Template.fill l.proposalFormat (.number number) = .ok name)
include hreader hname

/-- What a number leads to is chosen among the answers for the two places. -/
theorem load_proposal :
    l.load (.proposal root number) = choose (.proposal root number)
      [(.flatPlace root name, l.reader (.flatPlace root name)),
        (.indexPlace root name, l.reader (.indexPlace root name))] := by
  have hcandidates : l.candidates (.proposal root number)
      = .ok [.flatPlace root name, .indexPlace root name] := by
    rw [candidates, hname]
    rfl
  exact load_eq hreader hcandidates

theorem load_of_readsOne {p : Path} {text : String}
    (h : l.reader.ReadsOne (.flatPlace root name) (.indexPlace root name) p text) :
    l.load (.proposal root number) = parseFetched text p := by
  rw [load_proposal hreader hname]
  rcases h with ⟨rfl, hp, e, he⟩ | ⟨rfl, hp, e, he⟩
  · rw [hp, he]
    rfl
  · rw [hp, he]
    rfl

theorem load_of_both {t u : String} (hone : l.reader (.flatPlace root name) = .ok t)
    (hother : l.reader (.indexPlace root name) = .ok u) :
    l.load (.proposal root number)
      = .ok (.error (.ambiguous number (.flatPlace root name) (.indexPlace root name))) := by
  rw [load_proposal hreader hname, hone, hother]
  rfl

theorem load_of_neither {e e' : ReadError} (hone : l.reader (.flatPlace root name) = .error e)
    (hother : l.reader (.indexPlace root name) = .error e') :
    l.load (.proposal root number) = .ok (.error (.unreadable e)) := by
  rw [load_proposal hreader hname, hone, hother]
  rfl

end Named

theorem parseFetched_eq_ok {text : String} {p : Path} {d : Document} :
    parseFetched text p = .ok (.ok d) ↔ Document.parse text (some p.text) (some p) = .ok d := by
  unfold parseFetched
  cases Document.parse text (some p.text) (some p) with
  | ok d' => simp
  | error e => cases e <;> simp

theorem parseFetched_eq_error {text : String} {p : Path} {x : Crash}
    (h : parseFetched text p = .error x) :
    ∃ e, Document.parse text (some p.text) (some p) = .error (.markup e) ∧ x = .markup e := by
  unfold parseFetched at h
  split at h
  · cases h
  · rename_i e he
    exact ⟨e, he, (Except.error.inj h).symm⟩
  · cases h

/-- What is chosen is made of the text of one of the places, or it is no document. -/
theorem choose_cases (r : Reference) (found : List (Path × Except ReadError String)) :
    (∃ p text, (p, .ok text) ∈ found ∧ choose r found = parseFetched text p) ∨
      ∃ e, choose r found = .ok (.error e) := by
  unfold choose
  dsimp only
  split
  · rename_i p text htexts
    obtain ⟨⟨q, answer⟩, hmem, hanswer⟩ := List.mem_filterMap.1 (htexts ▸ List.mem_singleton_self _)
    cases answer with
    | ok t =>
      obtain ⟨rfl, rfl⟩ := Prod.mk.inj (Option.some.inj hanswer)
      exact .inl ⟨q, t, hmem, rfl⟩
    | error e => cases hanswer
  · exact .inr ⟨_, rfl⟩
  · exact .inr ⟨_, rfl⟩
  · exact .inr ⟨_, rfl⟩

/-- If every number that is asked for has a name, then following references ends the run only with a
text whose body cannot be read. -/
theorem exists_unreadable_body (hreader : l.reader.Answers) {references : List Reference}
    {known : Cache FetchError Document} {x : RunError}
    (hnames : ∀ root number, .proposal root number ∈ references →
      ∃ name, Template.fill l.proposalFormat (.number number) = .ok name)
    (h : (l.fetchAll references known).result = .error x) :
    ∃ p text e, l.reader p = .ok text ∧
      Document.parse text (some p.text) (some p) = .error (.markup e) ∧
      x = .crash (.markup e) := by
  obtain ⟨r, hr, crash, hload, rfl⟩ := exists_of_fetchAll_error h
  have hcandidates : ∃ ps, l.candidates r = .ok ps := by
    cases r with
    | path text => exact ⟨_, rfl⟩
    | proposal root number =>
      obtain ⟨name, hname⟩ := hnames root number hr
      rw [candidates, hname]
      exact ⟨_, rfl⟩
  obtain ⟨ps, hps⟩ := hcandidates
  rw [load_eq hreader hps] at hload
  rcases choose_cases r (ps.map fun p => (p, l.reader p)) with ⟨p, text, hmem, heq⟩ | ⟨e, heq⟩
  · obtain ⟨q, -, hq⟩ := List.mem_map.1 hmem
    obtain ⟨rfl, hread⟩ := Prod.mk.inj hq
    obtain ⟨e, hparse, rfl⟩ := parseFetched_eq_error (heq.symm.trans hload)
    exact ⟨q, text, e, hread, hparse, rfl⟩
  · rw [heq] at hload
    cases hload

end Linter

/-! ### Looking up a number -/

/-- What a look-up of the number of a proposal gives, by what is at the two places. -/
structure Context.Resolves (c : Context) (reader : Reader) (number : Int) (one other : Path) :
    Prop where
  /-- There is a document exactly if one of the places can be read, the other cannot, and its text
  is a document. -/
  found : (∃ x, c.sibling number = .ok x) ↔ ∃ p text d, reader.ReadsOne one other p text ∧
    Document.parse text (some p.text) (some p) = .ok d
  /-- It is the document of this place, under its name. -/
  document : ∀ p text d, reader.ReadsOne one other p text →
    Document.parse text (some p.text) (some p) = .ok d →
    c.sibling number = .ok { c with document := d } ∧ d.origin = some p.text
  /-- The text at the place that can be read is not a document. -/
  malformed : ∀ p text e, reader.ReadsOne one other p text →
    Document.parse text (some p.text) (some p) = .error e →
    ∃ x, c.sibling number = .error (.failed x) ∧ x.message = "malformed preamble: " ++ e.message
  /-- Both places can be read, whether or not their texts are documents. -/
  ambiguous : ∀ t u, reader one = .ok t → reader other = .ok u →
    ∃ x, c.sibling number = .error (.failed x) ∧
      x.message = "ambiguous proposal " ++ toString number ++ ": both \x60" ++ one.text
        ++ "\x60 and \x60" ++ other.text ++ "\x60 exist"
  /-- Neither can be read. The reason is the one for the first of them. -/
  missing : ∀ e e', reader one = .error e → reader other = .error e' →
    ∃ x, c.sibling number = .error (.failed x) ∧ x.message = e.message

namespace Linter

variable {l : Linter} {c : Context} {number : Int} {root name : String}

/-- Behind a coherent cache, the look-up of a number that is known gives what following it anew would
give. -/
theorem sibling_of_load (hcache : l.Coherent c.cache)
    (hroot : c.document.siblingReference number = .proposal root number)
    (hknown : c.cache.get? (.proposal root number) ≠ none) {x : Except FetchError Document}
    (hload : l.load (.proposal root number) = .ok x) :
    c.sibling number = match x with
      | .ok d => .ok { c with document := d }
      | .error e => .error (.failed e) := by
  obtain ⟨y, hy⟩ := Option.ne_none_iff_exists'.1 hknown
  obtain rfl := Except.ok.inj ((hcache _ y hy).symm.trans hload)
  simp only [Context.sibling, hroot, Context.follow, Cache.lookup, hy]
  cases y <;> rfl

/-- A number that is known behind a coherent cache leads to what is at its two places. -/
theorem resolves_of_coherent (hreader : l.reader.Answers)
    (hname : Template.fill l.proposalFormat (.number number) = .ok name)
    (hcache : l.Coherent c.cache)
    (hroot : c.document.siblingReference number = .proposal root number)
    (hknown : c.cache.get? (.proposal root number) ≠ none) :
    c.Resolves l.reader number (.flatPlace root name) (.indexPlace root name) := by
  have hlook {x : Except FetchError Document} := sibling_of_load (x := x) hcache hroot hknown
  have hdocument {p : Path} {text : String} {d : Document}
      (hread : l.reader.ReadsOne (.flatPlace root name) (.indexPlace root name) p text)
      (hparse : Document.parse text (some p.text) (some p) = .ok d) :
      c.sibling number = .ok { c with document := d } := by
    refine hlook (x := .ok d) ((load_of_readsOne hreader hname hread).trans ?_)
    exact parseFetched_eq_ok.2 hparse
  have hmalformed {p : Path} {text : String} {e : DocumentError}
      (hread : l.reader.ReadsOne (.flatPlace root name) (.indexPlace root name) p text)
      (hparse : Document.parse text (some p.text) (some p) = .error e) :
      c.sibling number = .error (.failed (.malformed e)) := by
    have hload := load_of_readsOne hreader hname hread
    rw [parseFetched, hparse] at hload
    cases e with
    | fences e => exact hlook hload
    | preamble ls => exact hlook hload
    | markup e =>
      -- what is known has not ended the run
      obtain ⟨y, hy⟩ := Option.ne_none_iff_exists'.1 hknown
      rw [hcache _ y hy] at hload
      cases hload
  have hambiguous {t u : String} (hone : l.reader (.flatPlace root name) = .ok t)
      (hother : l.reader (.indexPlace root name) = .ok u) :=
    hlook (load_of_both hreader hname hone hother)
  have hmissing {e e' : ReadError} (hone : l.reader (.flatPlace root name) = .error e)
      (hother : l.reader (.indexPlace root name) = .error e') :=
    hlook (load_of_neither hreader hname hone hother)
  refine ⟨⟨fun ⟨x, hx⟩ => ?_, fun ⟨p, text, d, hread, hparse⟩ => ⟨_, hdocument hread hparse⟩⟩,
    fun p text d hread hparse => ⟨hdocument hread hparse, Document.origin_of_parse hparse⟩,
    fun p text e hread hparse => ⟨_, hmalformed hread hparse, rfl⟩,
    fun t u hone hother => ⟨_, hambiguous hone hother, rfl⟩,
    fun e e' hone hother => ⟨_, hmissing hone hother, rfl⟩⟩
  rcases l.reader.readsOne_cases (.flatPlace root name) (.indexPlace root name) with
    ⟨p, text, hread⟩ | ⟨t, u, hone, hother⟩ | ⟨e, e', hone, hother⟩
  · cases hparse : Document.parse text (some p.text) (some p) with
    | ok d => exact ⟨p, text, d, hread, hparse⟩
    | error e =>
      rw [hmalformed hread hparse] at hx
      cases hx
  · rw [hambiguous hone hother] at hx
    cases hx
  · rw [hmissing hone hother] at hx
    cases hx

/-- What rules get when they look up the number of a proposal that some rule asked for: the document
of the one place at which it can be read, or why there is none. Wherever the number belongs to the
same directory, a look-up gives the same, if any rule asked for it by then. Following references ends
the run only with a text whose body cannot be read. -/
theorem siblings_resolve (l : Linter) (hreader : l.reader.Answers) (number : Int) (name : String)
    (hname : Template.fill l.proposalFormat (.number number) = .ok name) :
    (∀ (before : List Source) (c : Context), l.Reaches before c.document c.cache →
      (∃ e ∈ l.rules,
        c.document.siblingReference number ∈ (e.2.rule.discover c.document).references) →
      c.Resolves l.reader number (.flatPlace (Path.proposalRoot c.document.path) name)
        (.indexPlace (Path.proposalRoot c.document.path) name) ∧
      ∀ (before' : List Source) (d : Document) (c' : Context), l.Reaches before' d c'.cache →
        c'.document.siblingReference number = c.document.siblingReference number →
        (∃ r, c'.sibling number = .error (.undeclared r)) ∨
          (c'.sibling number).map Context.document = (c.sibling number).map Context.document) ∧
    ∀ (d : Document) (known : Cache FetchError Document) (x : RunError),
      (∀ root n, .proposal root n ∈ l.wanted d →
        ∃ name, Template.fill l.proposalFormat (.number n) = .ok name) →
      (l.fetchAll (l.wanted d) known).result = .error x →
      ∃ p text e, l.reader p = .ok text ∧
        Document.parse text (some p.text) (some p) = .error (.markup e) ∧
        x = .crash (.markup e) := by
  refine ⟨fun before c hreaches hasked => ?_, fun d known x hnames h =>
    exists_unreadable_body hreader hnames h⟩
  have hknown : c.cache.get? (c.document.siblingReference number) ≠ none := by
    intro hnone
    exact (hreaches.get?_eq_none.1 hnone).2 (mem_wanted.2 hasked)
  refine ⟨resolves_of_coherent hreader hname hreaches.coherent rfl hknown,
    fun before' d c' hreaches' hsame => ?_⟩
  cases hget : c'.cache.get? (c'.document.siblingReference number) with
  | none => exact .inl ⟨_, Context.follow_eq_undeclared.2 hget⟩
  | some x =>
    have hload := hreaches'.coherent _ x hget
    have hknown' := Option.ne_none_iff_exists'.2 ⟨x, hget⟩
    right
    rw [sibling_of_load hreaches'.coherent rfl hknown' hload,
      sibling_of_load hreaches.coherent rfl hknown (hsame ▸ hload)]
    cases x <;> rfl

/-- A rule that asks for proposals by their numbers. -/
def askingRule (numbers : List Int) : Rule where
  description := "Proposals have neighbours."
  summary := "Asking()"
  discover d := { references := numbers.map d.siblingReference }
  check _ _ := .none

/-- A linter with a rule that asks for some numbers on each of some drafts. -/
def asking (numbers : List Int) (texts : List (String × String)) (drafts : List String) :
    Linter where
  rules := [("neighbours", { rule := askingRule numbers, level := none })]
  reader := .ofTexts texts
  sources := drafts.map fun path => .text "---\nstatus: Draft\n---\n" (some path)

theorem asking_plain (numbers : List Int) (texts : List (String × String)) (drafts : List String) :
    (asking numbers texts drafts).Plain :=
  ⟨List.forall_mem_singleton.2 fun _ _ _ _ _ _ _ _ => rfl, exists_defaultLevel _⟩

/-- Two drafts in one directory, one of them with a directory of its own. Of the proposals that they
need one is in its own directory, one is in two places, one has a line without a colon, and one is
missing. -/
def neighbours : Linter :=
  asking [7, 8, 9, 10]
    [("EIPS/eip-7/index.md", "---\nstatus: Final\n---\n"), ("EIPS/eip-8.md", "no fences"),
      ("EIPS/eip-8/index.md", "---\nstatus: Final\n---\n"), ("EIPS/eip-9.md", "---\nstatus\n---\n")]
    ["EIPS/eip-1.md", "EIPS/eip-2/index.md"]

theorem neighbours_run_result : neighbours.run.result = .ok () :=
  run_result_of_completes (asking_plain _ _ _) (List.cons_ne_nil _ _) (List.cons_ne_nil _ _)
    (by decide +kernel)

theorem siblings_resolve_neighbours :
    neighbours.reader.Answers ∧
    Template.fill neighbours.proposalFormat (.number 7) = .ok "eip-7" ∧
    ∃ c c' : Context, neighbours.Reaches [] c.document c.cache ∧
      neighbours.Reaches [neighbours.sources[0]] c'.document c'.cache ∧
      (∃ x, c.sibling 7 = .ok x ∧ x.origin = some "EIPS/eip-7/index.md") ∧
      ((∃ r, c'.sibling 7 = .error (.undeclared r)) ∨
        (c'.sibling 7).map Context.document = (c.sibling 7).map Context.document) := by
  have hreader : neighbours.reader.Answers := Reader.answers_ofTexts _
  have hname : Template.fill neighbours.proposalFormat (.number 7) = .ok "eip-7" := by decide +kernel
  have hparses : (neighbours.document? neighbours.sources[0]).isSome = true ∧
      (neighbours.document? neighbours.sources[1]).isSome = true := by decide +kernel
  obtain ⟨d, hd⟩ := Option.isSome_iff_exists.1 hparses.1
  obtain ⟨d', hd'⟩ := Option.isSome_iff_exists.1 hparses.2
  have hroot : d.siblingReference 7 = .proposal "EIPS" 7 := by
    rw [Document.siblingReference, path_of_document? hd]
    decide +kernel
  have hroot' : d'.siblingReference 7 = .proposal "EIPS" 7 := by
    rw [Document.siblingReference, path_of_document? hd']
    decide +kernel
  obtain ⟨cache, hreaches⟩ : ∃ cache, neighbours.Reaches [] d cache :=
    exists_reaches neighbours_run_result rfl hd
  obtain ⟨cache', hreaches'⟩ : ∃ cache, neighbours.Reaches [neighbours.sources[0]] d' cache :=
    exists_reaches neighbours_run_result rfl hd'
  let c : Context := { document := d, cache, level := .error, settings := {} }
  let c' : Context := { document := d', cache := cache', level := .error, settings := {} }
  have hasked : ∃ e ∈ neighbours.rules, c.document.siblingReference 7 ∈
      (e.2.rule.discover c.document).references :=
    ⟨_, List.mem_singleton_self _, List.mem_cons_self⟩
  obtain ⟨hresolves, hsame⟩ :=
    (siblings_resolve neighbours hreader 7 "eip-7" hname).1 [] c hreaches hasked
  have hplace : neighbours.reader.ReadsOne
      (.flatPlace (Path.proposalRoot c.document.path) "eip-7")
      (.indexPlace (Path.proposalRoot c.document.path) "eip-7")
      (Path.ofText "EIPS/eip-7/index.md") "---\nstatus: Final\n---\n" := by
    rw [(Reference.proposal.inj hroot).1]
    exact .inr ⟨by decide +kernel, by decide +kernel, .unreadable "missing", by decide +kernel⟩
  have hdocument : (Document.parse "---\nstatus: Final\n---\n" (some "EIPS/eip-7/index.md")
      (some (Path.ofText "EIPS/eip-7/index.md"))).toOption.isSome = true := by decide +kernel
  obtain ⟨x, hx⟩ := Option.isSome_iff_exists.1 hdocument
  obtain ⟨hfound, horigin⟩ := hresolves.document _ _ x hplace (toOption_eq_some.1 hx)
  exact ⟨hreader, hname, c, c', hreaches, hreaches', ⟨_, hfound, horigin⟩,
    hsame _ d' c' hreaches' (hroot'.trans hroot.symm)⟩

/-! ### A body that cannot be read -/

/-- A text whose fences and preamble are those of a document, with a footnote in a quote in a
footnote. -/
def unbalancedText : String := "---\nstatus: Draft\n---\n[^a]: > [^b]: t"

/-- A draft that needs a proposal with this text. -/
def unbalanced : Linter :=
  asking [1] [("eip-1.md", unbalancedText)] ["a.md"]

/-- Whether a run ends with a body that cannot be read. -/
def endsUnbalanced (x : Except RunError Unit) : Bool :=
  match x with
  | .error (.crash (.markup .unbalanced)) => true
  | _ => false

/-- The text is the only one, and can be cut at its fences and has a preamble. It is no document, and
no rule gets to know: the run ends, and gets to no context. -/
theorem run_of_unbalanced :
    unbalanced.reader.Answers ∧
    Template.fill unbalanced.proposalFormat (.number 1) = .ok "eip-1" ∧
    unbalanced.reader.ReadsOne (.flatPlace "." "eip-1") (.indexPlace "." "eip-1")
      (Path.ofText "eip-1.md") unbalancedText ∧
    (∃ body p, Fence.split unbalancedText = .ok ("status: Draft", body) ∧
      Preamble.parse "status: Draft" = .ok p) ∧
    endsUnbalanced unbalanced.run.result = true ∧
    ∀ before d cache, ¬ unbalanced.Reaches before d cache := by
  refine ⟨Reader.answers_ofTexts _, by decide +kernel, ?_, ?_, by decide +kernel, ?_⟩
  · exact .inl ⟨by decide +kernel, by decide +kernel, .unreadable "missing", by decide +kernel⟩
  · have hpreamble : (Preamble.parse "status: Draft").toOption.isSome = true := by decide +kernel
    obtain ⟨p, hp⟩ := Option.isSome_iff_exists.1 hpreamble
    exact ⟨"[^a]: > [^b]: t", p, by decide +kernel, toOption_eq_some.1 hp⟩
  · intro before d cache h
    obtain ⟨⟨s, rest, hsources, hdocument⟩, known, hknown, hfetch⟩ := h
    have hs : s ∈ unbalanced.sources := by
      rw [hsources]
      exact List.mem_append_right _ List.mem_cons_self
    obtain rfl := List.mem_singleton.1 hs
    have hroot : d.siblingReference 1 = .proposal "." 1 := by
      rw [Document.siblingReference, path_of_document? hdocument]
      decide +kernel
    have hwanted : d.siblingReference 1 ∈ unbalanced.wanted d :=
      mem_wanted.2 ⟨_, List.mem_singleton_self _, List.mem_singleton_self _⟩
    obtain ⟨x, hx⟩ := hknown.coherent.loads hfetch _ hwanted
    have hcrash : (unbalanced.load (.proposal "." 1)).toOption.isNone = true := by decide +kernel
    rw [← hroot, hx] at hcrash
    cases hcrash

end Linter

end ProposalCheck
