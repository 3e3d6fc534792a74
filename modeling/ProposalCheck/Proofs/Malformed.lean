import ProposalCheck.Proofs.Contexts
import ProposalCheck.Proofs.RoundTrip

/-!
# Texts that are no documents

A text that cannot be cut at its fences has one diagnostic, and a text that can be, but whose preamble
has lines without a colon, has one for each of them. `Linter.run_passesOver` says that this is all
that becomes of such a source, wherever it stands among the others: the run goes on behind it with
what it knew before (`Linter.PassesOver`).

The lines of a preamble are numbered as if the first fence were in the first line of the text. Behind
an empty first line each number is one too small (`Fence.lead`).
-/

namespace ProposalCheck

namespace Fence

/-- The number of lines in front of the first fence, in a text that can be cut at its fences. -/
def lead (source : String) : Nat :=
  if (Text.charLines source.toList).head? = some [] then 1 else 0

theorem lead_eq {source : String} {before rest : List (List Char)}
    (hlines : Text.charLines source.toList = before ++ ['-', '-', '-'] :: rest)
    (hbefore : before = [] ∨ before = [[]]) : lead source = before.length := by
  rw [lead, hlines]
  rcases hbefore with rfl | rfl <;> simp

/-- A text whose first line is a fence is cut, or the second fence is missing. -/
theorem eq_missingEnd_of_split {source : String} {e : FenceError} (h : split source = .error e)
    (hfirst : (Text.lines source).head? = some "---") : e = .missingEnd := by
  have hfence : NextFence (Text.charLines source.toList) 0 0 := by
    refine ⟨Nat.le_refl 0, ?_, fun k _ hk => absurd hk (Nat.not_lt_zero k)⟩
    obtain ⟨line, hline, heq⟩ : ∃ line, (Text.charLines source.toList).head? = some line ∧
        String.ofList line = "---" := Option.map_eq_some_iff.1 (List.head?_map.symm.trans hfirst)
    have hfence : line = ['-', '-', '-'] := by
      rw [← String.toList_ofList (l := line), heq]
      rfl
    rw [← List.head?_eq_getElem?, hline, hfence]
  have hreads := reads_splitLines (Text.charLines source.toList)
  change Reads _ _ (split source) at hreads
  rw [h] at hreads
  cases hreads with
  | missingStart hnone => exact absurd hfence (hnone 0)
  | missingEnd => rfl
  | leadingText hi _ hopen => exact absurd (.inl (hi.unique hfence)) hopen

end Fence

namespace Preamble

/-- The lines of a preamble without a colon, each with its number; the first line is number two. -/
def unmarked (source : String) : List (String × Nat) :=
  ((Text.lines source).zipIdx 2).filter fun p => ':' ∉ p.1.toList

/-- The diagnostic for a line without a colon. -/
def complaint (origin : Option String) (p : String × Nat) : Message where
  level := .error
  title := "missing delimiter \x60:\x60 in preamble field"
  snippets := [{ source := p.1, lineStart := p.2, origin }]

theorem splitField?_eq_none {line : List Char} : splitField? line = none ↔ ':' ∉ line := by
  constructor
  · intro h hmem
    obtain ⟨name, value, rfl, hname⟩ := List.eq_append_cons_of_mem hmem
    rw [splitField?_of_not_mem value hname] at h
    cases h
  · intro hmem
    cases h : splitField? line with
    | none => rfl
    | some p =>
      rw [eq_of_splitField? h] at hmem
      exact absurd (List.mem_append_right _ List.mem_cons_self) hmem

theorem malformed_readLines (number start : Nat) (ls : List (List Char)) :
    malformed (readLines number start ls)
      = (((ls.map String.ofList).zipIdx number).filter fun p => ':' ∉ p.1.toList).map fun p =>
          { line := p.2, text := p.1 } := by
  induction ls generalizing number start with
  | nil => rfl
  | cons l rest ih =>
    have hrest := ih (number + 1) (start + l.length + 1)
    rw [malformed] at hrest
    rw [readLines, malformed, List.map_cons, List.zipIdx_cons, readLine]
    by_cases hl : ':' ∈ l
    · cases hsplit : splitField? l with
      | none => exact absurd hl (splitField?_eq_none.1 hsplit)
      | some p => simpa [hl] using hrest
    · rw [splitField?_eq_none.2 hl]
      simpa [hl] using hrest

theorem malformed_eq (source : String) :
    malformed (readLines 2 0 (Text.charLines source.toList))
      = (unmarked source).map fun p => { line := p.2, text := p.1 } :=
  malformed_readLines 2 0 _

/-- A text with lines without a colon is no preamble, and these lines are what is wrong with it. -/
theorem parse_of_unmarked {source : String} (h : unmarked source ≠ []) :
    parse source = .error ((unmarked source).map fun p => { line := p.2, text := p.1 }) := by
  rw [parse, malformed_eq]
  cases hms : unmarked source with
  | nil => exact absurd hms h
  | cons p ps => rfl

/-- A line without a colon is where its number says, behind the lines in front of the first fence. -/
theorem getElem?_of_mem_unmarked {source preamble body : String}
    (h : Fence.split source = .ok (preamble, body)) {p : String × Nat} (hp : p ∈ unmarked preamble) :
    2 ≤ p.2 ∧ (Text.lines source)[p.2 - 1 + Fence.lead source]? = some p.1 := by
  obtain ⟨before, ps, rest, hbefore, hps, hlines, rfl, -⟩ := Fence.exists_lines_of_split h
  have hnolf : ∀ l ∈ ps, '\n' ∉ l := fun l hl =>
    Text.not_mem_of_mem_split (hlines ▸ List.mem_append_right _
      (List.mem_cons_of_mem _ (List.mem_append_left _ hl)) : l ∈ Text.charLines source.toList)
  have hpreamble : Text.lines (String.ofList (Fence.unlines ps)) = ps.map String.ofList := by
    rw [Text.lines, Text.splitOn, String.toList_ofList]
    exact congrArg _ (Fence.charLines_unlines hps hnolf)
  obtain ⟨line, number⟩ := p
  have hmem := (List.mem_filter.1 hp).1
  rw [hpreamble] at hmem
  obtain ⟨hle, hget⟩ := List.mem_zipIdx_iff_le_and_getElem?_sub.1 hmem
  refine ⟨hle, ?_⟩
  have hlt : number - 2 < ps.length := by
    have := (List.getElem?_eq_some_iff.1 hget).1
    rwa [List.length_map] at this
  have hindex : number - 1 + before.length = before.length + (number - 2 + 1) := by
    have : 2 ≤ number := hle
    omega
  have hsource : Text.lines source
      = (before ++ ['-', '-', '-'] :: (ps ++ ['-', '-', '-'] :: rest)).map String.ofList := by
    rw [← hlines]
    rfl
  rw [Fence.lead_eq hlines hbefore, hsource, hindex, List.getElem?_map,
    List.getElem?_append_right (Nat.le_add_right _ _), Nat.add_sub_cancel_left,
    List.getElem?_cons_succ, List.getElem?_append_left hlt, ← List.getElem?_map]
  exact hget

end Preamble

/-! ### The diagnostics -/

namespace Linter

/-- The diagnostic for a text without its fences is an error of no rule, and it asks for another first
line only if the first line is no fence. -/
theorem fenceMessage_of_split {text : String} {origin : Option String} {e : FenceError}
    (h : Fence.split text = .error e) :
    (fenceMessage e text origin).level = .error ∧ (fenceMessage e text origin).id = none ∧
      ((fenceMessage e text origin).title = "first line must be \x60---\x60 exactly" →
        (Text.lines text).head? ≠ some "---") := by
  cases e with
  | missingEnd =>
    have htitle : "preamble must be followed by a line containing \x60---\x60 exactly"
        ≠ "first line must be \x60---\x60 exactly" := by decide
    exact ⟨rfl, rfl, fun h => absurd h htitle⟩
  | _ =>
    refine ⟨?_, ?_, fun _ hfirst => ?_⟩
    · simp only [fenceMessage]
      split <;> rfl
    · simp only [fenceMessage]
      split <;> rfl
    · cases Fence.eq_missingEnd_of_split h hfirst

theorem parse_of_split_error {text : String} {origin : Option String} {path : Option Path}
    {e : FenceError} (h : Fence.split text = .error e) :
    Document.parse text origin path = .error (.fences e) := by
  rw [Document.parse, h]
  rfl

theorem parse_of_unmarked {text preamble body : String} {origin : Option String}
    {path : Option Path} (h : Fence.split text = .ok (preamble, body))
    (hunmarked : Preamble.unmarked preamble ≠ []) :
    Document.parse text origin path
      = .error (.preamble ((Preamble.unmarked preamble).map fun p => { line := p.2, text := p.1 })) := by
  rw [Document.parse, h]
  change (Preamble.parse preamble).mapError _ >>= _ = _
  rw [Preamble.parse_of_unmarked hunmarked]
  rfl

variable {l : Linter} {before rest : List Source} {s : Source} {text : String}
  {known : Cache FetchError Document}

/-- The run passes over a source: its diagnostics are reported, no rule is asked, no modifier is
applied and no reference is followed, and the sources behind it are checked with what was known
before. -/
structure PassesOver (l : Linter) (before : List Source) (s : Source) (rest : List Source)
    (known : Cache FetchError Document) (ms : List Message) : Prop where
  checked : l.checkSource known s
    = { events := s.readEvents ++ .progress s.origin .unparsed ::
          (ms.map .report ++ [.progress s.origin .notParsed])
        result := .ok known }
  events : l.run.events = .started l.sources.length l.rules.length ::
    ((l.checkSources .empty before).events ++
      ((l.checkSource known s).events ++ (l.checkSources known rest).events))
  result : l.run.result = (l.checkSources known rest).result

theorem Knows.checkSources_append (h : l.Knows before known) (rest : List Source) :
    l.checkSources .empty (before ++ rest)
      = { events := (l.checkSources .empty before).events ++ (l.checkSources known rest).events
          result := (l.checkSources known rest).result } := by
  induction h generalizing rest with
  | nothing => rfl
  | more _ hsource ih =>
    rename_i s known after _
    have hcons (rest : List Source) : l.checkSources known (s :: rest)
        = { events := (l.checkSource known s).events ++ (l.checkSources after rest).events
            result := (l.checkSources after rest).result } := Trace.bind_of_ok hsource _
    have hone : (l.checkSources after []).events = [] := rfl
    rw [List.append_assoc, List.singleton_append, ih, ih, hcons, hcons, hone, List.append_nil,
      List.append_assoc]

/-- A run with rules and sources checks its sources, and nothing else. -/
theorem run_eq (hrules : l.rules ≠ []) (hsources : l.sources ≠ []) :
    l.run = { events := .started l.sources.length l.rules.length ::
                (l.checkSources .empty l.sources).events
              result := (l.checkSources .empty l.sources).result } := by
  cases hr : l.rules with
  | nil => exact absurd hr hrules
  | cons e es =>
    cases hs : l.sources with
    | nil => exact absurd hs hsources
    | cons s ss =>
      simp [run, hr, hs]
      rfl

theorem passesOver_of_parse {e : DocumentError} {ms : List Message} (hrules : l.rules ≠ [])
    (hsources : l.sources = before ++ s :: rest) (hknown : l.Knows before known)
    (htext : l.text? s = some text) (hparse : Document.parse text s.origin s.path = .error e)
    (hmessages : parseMessages text s.origin e = .ok ms) : l.PassesOver before s rest known ms := by
  have hvisited : l.Visited s known known _ := .malformed htext hparse hmessages
  have hchecked := hvisited.checkSource_eq
  have hrest : l.checkSources known (s :: rest)
      = { events := (l.checkSource known s).events ++ (l.checkSources known rest).events
          result := (l.checkSources known rest).result } :=
    Trace.bind_of_ok (by rw [hchecked]) _
  have hsome : l.sources ≠ [] := by simp [hsources]
  have hrun := run_eq hrules hsome
  refine ⟨hchecked, ?_, ?_⟩
  · rw [hrun, hsources, hknown.checkSources_append, hrest]
  · rw [hrun, hsources, hknown.checkSources_append, hrest]

/-- A source that is no document gives its diagnostics and nothing else: one message if its text
cannot be cut at its fences, and otherwise one for each line of the preamble without a colon, with
the number of the line but for an empty line in front of the first fence. -/
theorem run_passesOver (hrules : l.rules ≠ []) (hsources : l.sources = before ++ s :: rest)
    (hknown : l.Knows before known) (htext : l.text? s = some text) :
    (∀ e, Fence.split text = .error e → ∃ m, l.PassesOver before s rest known [m] ∧
      m.level = .error ∧ m.id = none ∧
      (m.title = "first line must be \x60---\x60 exactly" →
        (Text.lines text).head? ≠ some "---")) ∧
    ∀ preamble body, Fence.split text = .ok (preamble, body) → Preamble.unmarked preamble ≠ [] →
      l.PassesOver before s rest known
        ((Preamble.unmarked preamble).map (Preamble.complaint s.origin)) ∧
      ∀ p ∈ Preamble.unmarked preamble,
        2 ≤ p.2 ∧ (Text.lines text)[p.2 - 1 + Fence.lead text]? = some p.1 := by
  constructor
  · intro e hsplit
    refine ⟨fenceMessage e text s.origin, ?_, fenceMessage_of_split hsplit⟩
    exact passesOver_of_parse hrules hsources hknown htext (parse_of_split_error hsplit) rfl
  · intro preamble body hsplit hunmarked
    refine ⟨?_, fun p hp => Preamble.getElem?_of_mem_unmarked hsplit hp⟩
    refine passesOver_of_parse hrules hsources hknown htext (parse_of_unmarked hsplit hunmarked) ?_
    rw [parseMessages, List.map_map]
    rfl

/-- A linter for two documents with a text between them in which a colon is missing. -/
def interrupted : Linter where
  rules := [("preamble-no-dup", { rule := .duplicates, level := none })]
  sources := [.text "---\na: b\n---\n" (some "a.md"), .text "---\na: b\nab\n---\n" (some "b.md"),
    .text "---\na: b\na: c\n---\n" (some "c.md")]

theorem interrupted_passesOver : ∃ known, interrupted.Knows [interrupted.sources[0]] known ∧
    interrupted.PassesOver [interrupted.sources[0]] interrupted.sources[1] [interrupted.sources[2]]
      known [Preamble.complaint (some "b.md") ("ab", 3)] := by
  have hchecked : (interrupted.checkSource .empty interrupted.sources[0]).result.toOption.isSome
      = true := by decide +kernel
  cases hknown : (interrupted.checkSource .empty interrupted.sources[0]).result with
  | error e =>
    rw [hknown] at hchecked
    cases hchecked
  | ok known =>
    have hknows : interrupted.Knows [interrupted.sources[0]] known := .more .nothing hknown
    refine ⟨known, hknows, ?_⟩
    exact ((run_passesOver (List.cons_ne_nil _ _) rfl hknows rfl).2 "a: b\nab" "" rfl
      (by decide)).1

/-- Behind an empty line a line without a colon is reported under the number of the line before it. -/
theorem checkSource_behind_empty_line :
    (interrupted.checkSource .empty (.text "\n---\nab\n---\n" (some "b.md"))).messages
        = [Preamble.complaint (some "b.md") ("ab", 2)] ∧
      (Text.lines "\n---\nab\n---\n")[2 - 1]? = some "---" :=
  ⟨rfl, by decide⟩

end Linter

end ProposalCheck
