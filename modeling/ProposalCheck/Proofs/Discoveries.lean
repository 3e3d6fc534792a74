import ProposalCheck.Proofs.Declarations
import ProposalCheck.Proofs.Numerals
import ProposalCheck.Proofs.RoundTrip

/-!
# What a document can do to discovery

`Linter.discovery_of_standard`: while the rules that are on from the start are asked which documents
they need, they read numbers out of the document and do nothing else with it. If no number has more
than `Text.Numeral.maxDigits` digits, every rule says what it needs and goes on. Otherwise the number
ends the run, since a rule does not take it for one of the faults that it may stop with
(`Linter.run_of_overlong`).
-/

namespace ProposalCheck

open Text (Digits)
open Text.Numeral (isTooLong)

/-! ### Discovery in a run -/

theorem Trace.result_bind_eq_error {α β : Type} {t : Trace α} {f : α → Trace β} {e : RunError} :
    (t >>= f).result = .error e ↔
      t.result = .error e ∨ ∃ x, t.result = .ok x ∧ (f x).result = .error e := by
  cases h : t.result with
  | ok x => simp [bind_of_ok h]
  | error e' => simp [bind_of_error h]

namespace Linter

variable {l : Linter} {d : Document}

theorem handle_eq_error {slug : String} {origin : Option String} {phase : Phase} {stop : Option Stop}
    {x : RunError} :
    (handle slug origin phase stop).result = .error x ↔ ∃ c, stop = some (.crash c) ∧ x = .crash c := by
  rcases stop with _ | f | c
  · simp [handle]
  · simp [handle]
  · simp [handle, eq_comm]

/-- Discovery fails only with the crash of a rule. -/
theorem discoverAll_eq_error {rules : List (String × Registration)} {x : RunError}
    (h : (discoverAll d rules).result = .error x) :
    ∃ e ∈ rules, ∃ c, (e.2.rule.discover d).stop = some (.crash c) ∧ x = .crash c := by
  induction rules with
  | nil => cases h
  | cons e rest ih =>
    obtain ⟨slug, g⟩ := e
    rw [discoverAll, Trace.result_emit_bind] at h
    rcases Trace.result_bind_eq_error.1 h with h | ⟨goesOn, -, h⟩
    · exact ⟨(slug, g), List.mem_cons_self, handle_eq_error.1 h⟩
    · rcases Trace.result_bind_eq_error.1 h with h | ⟨found, -, h⟩
      · obtain ⟨e, he, hcrash⟩ := ih h
        exact ⟨e, List.mem_cons_of_mem _ he, hcrash⟩
      · cases h

/-- A run ends with the discovery on a document of its first source. -/
theorem run_eq_error {text : String} {origin : Option String} {rest : List Source} {x : RunError}
    (hrules : l.rules ≠ []) (hsources : l.sources = .text text origin :: rest)
    (hparse : Document.parse text origin (origin.map Path.ofText) = .ok d)
    (hx : (discoverAll d l.orderedRules).result = .error x) : l.run.result = .error x := by
  have hdocument : (l.checkDocument d .empty).result = .error x := by
    simp only [checkDocument, Trace.result_emit_bind, Trace.bind_of_error hx]
  have hsource : (l.checkSource .empty (.text text origin)).result = .error x := by
    simp only [checkSource, sourceText, Trace.pure_bind, checkText, Trace.result_emit_bind,
      Source.origin, Source.path, hparse, hdocument]
  have hchecked : (l.checkSources .empty (.text text origin :: rest)).result = .error x := by
    rw [checkSources, Trace.bind_of_error hsource]
  cases hr : l.rules with
  | nil => exact absurd hr hrules
  | cons e es => simp [run, hr, hsources, hchecked]

/-- Each rule that is on from the start asks for the files with the numbers in its texts and stops at
the first number that is too long. Without such a number all rules go on, and nothing else ends a
run of such rules here. -/
theorem discovery_of_standard (l : Linter) (d : Document)
    (hrules : ∀ e ∈ l.rules, ∃ s ∈ Shipped.standard, e.2.rule = s.2.toRule) :
    (∀ s ∈ Shipped.standard, (s.2.toRule.discover d).Reads d s.2.fileName (s.2.numerals d) ∧
      ∀ n ∈ s.2.numerals d, Digits n ∧ ∃ text ∈ s.2.texts d, n <:+: text.toList) ∧
    ((∀ s ∈ Shipped.standard, (∃ e ∈ l.rules, e.2.rule = s.2.toRule) →
        ∀ n ∈ s.2.numerals d, n.length ≤ Text.Numeral.maxDigits) →
      (discoverAll d l.orderedRules).result = .ok (l.wanted d, l.orderedRules)) ∧
    ∀ x, (discoverAll d l.orderedRules).result = .error x →
      ∃ s ∈ Shipped.standard, (∃ e ∈ l.rules, e.2.rule = s.2.toRule) ∧
        ∃ n ∈ s.2.numerals d, Text.Numeral.maxDigits < n.length ∧
          x = .crash (.numeral (.tooLong n.length)) := by
  have hreads : ∀ s ∈ Shipped.standard,
      (s.2.toRule.discover d).Reads d s.2.fileName (s.2.numerals d) :=
    fun s hs => Shipped.reads_discover (Shipped.isNumbered_of_mem_standard s hs) d
  refine ⟨fun s hs => ⟨hreads s hs, fun n hn =>
    Shipped.digits_of_mem_numerals (Shipped.isNumbered_of_mem_standard s hs) hn⟩, ?_, ?_⟩
  · intro hshort
    have hstop : ∀ e ∈ l.orderedRules, (e.2.rule.discover d).stop = none := by
      intro e he
      obtain ⟨s, hs, hrule⟩ := hrules e (mem_orderedRules.1 he)
      rw [hrule, (hreads s hs).stop, Option.map_eq_none_iff, List.find?_eq_none]
      intro n hn
      have hlength := hshort s hs ⟨e, mem_orderedRules.1 he, hrule⟩ n hn
      simpa [isTooLong] using hlength
    refine discoverAll_result.2 ⟨fun e he => ?_, ?_⟩
    · rw [hstop e he]
      exact Stop.benign_none
    · rw [List.filter_eq_self.2 fun e he => by rw [hstop e he]; rfl]
      rfl
  · intro x hx
    obtain ⟨e, he, c, hstop, rfl⟩ := discoverAll_eq_error hx
    obtain ⟨s, hs, hrule⟩ := hrules e (mem_orderedRules.1 he)
    rw [hrule, (hreads s hs).stop] at hstop
    obtain ⟨n, hfind, hcrash⟩ := Option.map_eq_some_iff.1 hstop
    have hlong : isTooLong n = true := List.find?_some hfind
    refine ⟨s, hs, ⟨e, mem_orderedRules.1 he, hrule⟩, n, List.mem_of_find?_eq_some hfind,
      by simpa [isTooLong] using hlong, ?_⟩
    rw [Stop.crash.inj hcrash]

/-- The rules that are on from the start. -/
def usual : Linter where
  rules := standardRules

theorem usual_rules : ∀ e ∈ usual.rules, ∃ s ∈ Shipped.standard, e.2.rule = s.2.toRule := by
  intro e he
  obtain ⟨s, hs, rfl⟩ := List.mem_map.1 he
  exact ⟨s, hs, rfl⟩

/-- Numbers in a list and in a title, and digits that are not taken for numbers. -/
def usualText : String := "---\nrequires: 9, x1, 010\ntitle: EIP-7 and EIP-8x\n---\n"

theorem usual_discovery : ∃ d, Document.parse usualText none none = .ok d ∧
    requiredStatusRule.numerals d = [['9'], ['0', '1', '0']] ∧
    (discoverAll d usual.orderedRules).result = .ok (usual.wanted d, usual.orderedRules) := by
  have hnumerals : (Document.parse usualText none none).toOption.any (fun d =>
      requiredStatusRule.numerals d == [['9'], ['0', '1', '0']] &&
      Shipped.standard.all fun s => (s.2.numerals d).all fun n =>
        n.length ≤ Text.Numeral.maxDigits) = true := by decide +kernel
  cases hparse : Document.parse usualText none none with
  | error e =>
    rw [hparse] at hnumerals
    cases hnumerals
  | ok d =>
    rw [hparse] at hnumerals
    obtain ⟨hlist, hshort⟩ := (Bool.and_eq_true _ _).mp hnumerals
    refine ⟨d, rfl, beq_iff_eq.1 hlist, ?_⟩
    refine (discovery_of_standard usual d usual_rules).2.1 fun s hs _ n hn => ?_
    exact of_decide_eq_true (List.all_eq_true.1 (List.all_eq_true.1 hshort s hs) n hn)

/-! ### Numbers that are too long -/

/-- A text that lists a single number. -/
def listing (cs : List Char) : String :=
  Document.joined [("requires", String.ofList cs)] ""

theorem byName?_of_pair {fields : List Field} {name value : String}
    (h : fields.map Field.pair = [(name, value)]) :
    ∃ f, Preamble.byName? ⟨fields⟩ name = some f ∧ f.value = value := by
  obtain ⟨f, rfl, hpair⟩ := List.map_eq_singleton_iff.1 h
  obtain ⟨rfl, rfl⟩ := Prod.mk.inj hpair
  exact ⟨f, by simp [Preamble.byName?], rfl⟩

/-- A list of a single number is read as such, however long the number is. -/
theorem numerals_of_listing {cs : List Char} (h : Digits cs) (origin : Option String)
    (path : Option Path) : ∃ d, Document.parse (listing cs) origin path = .ok d ∧
      requiredStatusRule.numerals d = [cs] := by
  have hne : [("requires", String.ofList cs)] ≠ [] := List.cons_ne_nil _ _
  have hnames : ∀ p ∈ [("requires", String.ofList cs)], ':' ∉ p.1.toList :=
    List.forall_mem_singleton.2 (by decide : ':' ∉ "requires".toList)
  have hlines : ∀ p ∈ [("requires", String.ofList cs)], '\n' ∉ (Field.lineOf p).toList := by
    have hdigits : '\n' ∉ cs := fun hmem => by cases h.isDigit _ hmem
    exact List.forall_mem_singleton.2 (by simp [Field.lineOf, hdigits])
  obtain ⟨fields, hfields, hpreamble⟩ := Document.exists_fields_of_lines hne hnames hlines
  have hparse := Document.parse_of_split (Document.split_joined hne hlines "") hpreamble origin path
  have hread : Markup.read "" = .ok (.node .root none []) := rfl
  rw [hread] at hparse
  refine ⟨_, hparse, ?_⟩
  obtain ⟨f, hf, hvalue⟩ := byName?_of_pair hfields
  simp only [requiredStatusRule, Shipped.numerals, Shipped.texts, Shipped.numeralsIn, hf, hvalue,
    Option.toList_some, List.map_singleton, List.flatMap_singleton]
  exact Rule.RequiredStatus.numerals_of_digits h

/-- One digit more than are read. -/
def overlong : List Char :=
  List.replicate (Text.Numeral.maxDigits + 1) '1'

theorem digits_overlong : Digits overlong :=
  ⟨List.cons_ne_nil _ _, fun c hc => by rw [List.eq_of_mem_replicate hc]; rfl⟩

/-- Two rules and a text with a number that is too long. -/
def overrun : Linter where
  rules := [("preamble-no-dup", { rule := .duplicates, level := none }),
    ("preamble-requires-status", { rule := requiredStatusRule.toRule, level := none })]
  sources := [.text (listing overlong) (some "a.md")]

/-- A number that is too long ends the run. -/
theorem run_of_overlong :
    (∃ e ∈ Shipped.standard, ∃ d, Document.parse (listing overlong) none none = .ok d ∧
      (e.2.toRule.discover d).stop = some (.crash (.numeral (.tooLong 4301)))) ∧
    overrun.run.result = .error (.crash (.numeral (.tooLong 4301))) := by
  have hstop {d : Document} (hd : requiredStatusRule.numerals d = [overlong]) :
      (requiredStatusRule.toRule.discover d).stop = some (.crash (.numeral (.tooLong 4301))) := by
    rw [(Shipped.reads_discover rfl d).stop, hd]
    have hlength : overlong.length = 4301 := List.length_replicate
    have hlong : isTooLong overlong = true := by
      rw [isTooLong, hlength]
      rfl
    rw [List.find?_cons, hlong]
    simp only [Option.map_some, hlength]
  constructor
  · obtain ⟨d, hparse, hd⟩ := numerals_of_listing digits_overlong none none
    exact ⟨("preamble-requires-status", requiredStatusRule),
      by simp [Shipped.standard, requiredStatusRule], d, hparse, hstop hd⟩
  · obtain ⟨d, hparse, hd⟩ := numerals_of_listing digits_overlong (some "a.md")
      (some (Path.ofText "a.md"))
    refine run_eq_error (List.cons_ne_nil _ _) rfl hparse ?_
    cases hresult : (discoverAll d overrun.orderedRules).result with
    | ok found =>
      have hbenign := (discoverAll_result.1 hresult).1
        ("preamble-requires-status", { rule := requiredStatusRule.toRule, level := none })
        (mem_orderedRules.2 (List.mem_cons_of_mem _ List.mem_cons_self))
      rw [hstop hd] at hbenign
      exact absurd hbenign (Stop.not_benign_crash _)
    | error x =>
      obtain ⟨e, he, c, hcrash, rfl⟩ := discoverAll_eq_error hresult
      rcases List.mem_cons.1 (mem_orderedRules.1 he) with rfl | he
      · cases hcrash
      · obtain rfl := List.mem_singleton.1 he
        rw [hstop hd] at hcrash
        rw [Stop.crash.inj (Option.some.inj hcrash)]

end Linter

end ProposalCheck
