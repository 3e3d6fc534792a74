import ProposalCheck.Files.Basic
import ProposalCheck.Proofs.Encodings
import ProposalCheck.Proofs.Lines
import ProposalCheck.Proofs.Stages
import ProposalCheck.Report.Delivery

/-!
# Checking a file and checking its text

`Linter.run_of_file`: a run in which a file is among the sources reports what the run reports that
has the text of the file in its place, under the path of the file as origin. The text of a file is
not the text that its bytes encode but that text with a line feed for every way to end a line
(`Files.unified`); the two differ if there is a carriage return (`Files.unified_eq_self_iff`), and
then they may be reported on differently (`Linter.run_of_returns_differs`).

The two runs differ in one read, which no reporter sees: they are compared without their reads
(`Trace.unread`).
-/

namespace ProposalCheck

/-! ### Paths and their texts -/

namespace Path

/-- The names are ones that a text can have between slashes. -/
def Proper (p : Path) : Prop :=
  ∀ n ∈ p.names, n ≠ "" ∧ n ≠ "." ∧ '/' ∉ n.toList

theorem proper_ofText (s : String) : (ofText s).Proper := by
  intro n hn
  obtain ⟨hmem, hkept⟩ := List.mem_filter.1 hn
  obtain ⟨l, hl, rfl⟩ := List.mem_map.1 hmem
  have hslash : '/' ∉ (String.ofList l).toList := by
    rw [String.toList_ofList]
    exact Text.not_mem_of_mem_split hl
  simp only [Bool.and_eq_true, bne_iff_ne] at hkept
  exact ⟨hkept.1, hkept.2, hslash⟩

variable {names : List String}

theorem names_intercalate (h : ∀ n ∈ names, n ≠ "" ∧ n ≠ "." ∧ '/' ∉ n.toList) :
    (Text.splitOn '/' ("/".intercalate names)).filter (fun n => n != "" && n != ".") = names := by
  by_cases hnil : names = []
  · subst hnil
    rfl
  have hslash : ∀ l ∈ names.map String.toList, '/' ∉ l := by
    intro l hl
    obtain ⟨n, hn, rfl⟩ := List.mem_map.1 hl
    exact (h n hn).2.2
  have hchars : ("/".intercalate names).toList = ['/'].intercalate (names.map String.toList) :=
    String.toList_intercalate
  have hsplit : Text.splitOn '/' ("/".intercalate names) = names := by
    rw [Text.splitOn, hchars, Text.split_eq_splitOn,
      List.splitOn_intercalate _ hslash (by simpa using hnil), List.map_map]
    simp
  rw [hsplit, List.filter_eq_self]
  intro n hn
  simp [(h n hn).1, (h n hn).2.1]

theorem head?_intercalate (h : ∀ n ∈ names, n ≠ "" ∧ n ≠ "." ∧ '/' ∉ n.toList) :
    ("/".intercalate names).toList.head? ≠ some '/' := by
  have hchars : ("/".intercalate names).toList = ['/'].intercalate (names.map String.toList) :=
    String.toList_intercalate
  rw [hchars]
  cases names with
  | nil => simp
  | cons n rest =>
    obtain ⟨hne, -, hslash⟩ := h n List.mem_cons_self
    obtain ⟨c, cs, hn⟩ : ∃ c cs, n.toList = c :: cs :=
      List.exists_cons_of_ne_nil (by simpa using hne)
    have hc : c ≠ '/' := by
      rintro rfl
      exact hslash (hn ▸ List.mem_cons_self)
    cases rest <;> simp [hn, hc, List.intercalate_cons_cons]

theorem rootOf_rootText {cs : List Char} (h : cs.head? ≠ some '/') (r : Root) :
    rootOf ((rootText r).toList ++ cs) = r := by
  cases cs with
  | nil => cases r <;> rfl
  | cons c rest =>
    have hc : c ≠ '/' := by simpa using h
    cases r <;> simp [rootText, rootOf, hc]

theorem names_rootText (r : Root) (s : String) :
    (Text.splitOn '/' (rootText r ++ s)).filter (fun n => n != "" && n != ".")
      = (Text.splitOn '/' s).filter (fun n => n != "" && n != ".") := by
  cases r <;> simp [Text.splitOn, rootText, Text.split]

/-- A path comes back from its text. -/
theorem ofText_text {p : Path} (h : p.Proper) : ofText p.text = p := by
  obtain ⟨root, names⟩ := p
  unfold text
  split
  · rename_i hhere
    simp only [Bool.and_eq_true, beq_iff_eq, List.isEmpty_iff] at hhere
    obtain ⟨rfl, rfl⟩ := hhere
    rfl
  · have hroot : rootOf (rootText root ++ "/".intercalate names).toList = root := by
      rw [String.toList_append]
      exact rootOf_rootText (head?_intercalate h) root
    rw [ofText, hroot, names_rootText, names_intercalate h]

end Path

/-! ### The text of a file -/

namespace Files

theorem unifyBreaks_eq_self {cs : List Char} (h : '\r' ∉ cs) : unifyBreaks cs = cs := by
  fun_induction unifyBreaks cs with
  | case1 => rfl
  | case2 r ih => exact absurd List.mem_cons_self h
  | case3 c r _ ih =>
    rw [List.mem_cons, not_or] at h
    rw [ih h.2, if_neg (by simpa using Ne.symm h.1)]

theorem not_mem_unifyBreaks (cs : List Char) : '\r' ∉ unifyBreaks cs := by
  fun_induction unifyBreaks cs with
  | case1 => exact List.not_mem_nil
  | case2 r ih =>
    rw [List.mem_cons, not_or]
    exact ⟨by decide, ih⟩
  | case3 c r _ ih =>
    rw [List.mem_cons, not_or]
    refine ⟨?_, ih⟩
    split
    · decide
    · rename_i hc
      exact fun h => hc (by rw [← h]; rfl)

/-- A text with a line feed for every way to end a line. -/
def unified (text : String) : String :=
  String.ofList (unifyBreaks text.toList)

theorem not_mem_unified (text : String) : '\r' ∉ (unified text).toList := by
  rw [unified, String.toList_ofList]
  exact not_mem_unifyBreaks _

theorem unified_eq_self_iff {text : String} : unified text = text ↔ '\r' ∉ text.toList := by
  constructor
  · intro h
    rw [← h]
    exact not_mem_unified text
  · intro h
    rw [unified, unifyBreaks_eq_self h, String.ofList_toList]

/-- There is one file, with these bytes. -/
def single (name : String) (bytes : List UInt8) : Files := fun p =>
  if p = Path.ofText name then .ok (.file bytes) else .error .missing

theorem single_self (name : String) (bytes : List UInt8) :
    single name bytes (Path.ofText name) = .ok (.file bytes) :=
  if_pos rfl

/-- A text with a carriage return in front of every line feed. -/
def withReturns (text : String) : String :=
  String.ofList (text.toList.flatMap fun c => if c = '\n' then ['\r', '\n'] else [c])

/-- A file whose lines end in a carriage return and a line feed is read with line feeds there. -/
theorem unified_withReturns {text : String} (h : '\r' ∉ text.toList) :
    unified (withReturns text) = text := by
  have hchars (cs : List Char) (hcs : '\r' ∉ cs) :
      unifyBreaks (cs.flatMap fun c => if c = '\n' then ['\r', '\n'] else [c]) = cs := by
    induction cs with
    | nil => rfl
    | cons c rest ih =>
      rw [List.mem_cons, not_or] at hcs
      rw [List.flatMap_cons]
      by_cases hc : c = '\n'
      · rw [if_pos hc, hc]
        exact congrArg _ (ih hcs.2)
      · have hr : ¬ c = '\r' := Ne.symm hcs.1
        simp [hc, hr, unifyBreaks, ih hcs.2]
  rw [unified, withReturns, String.toList_ofList, hchars _ h, String.ofList_toList]

theorem readDocument_toUTF8 {files : Files} {p : Path} {text : String}
    (h : files p = .ok (.file text.toUTF8.toList)) :
    files.readDocument p = .ok (unified text) := by
  have hread : files.read p = .ok text.toUTF8.toList := by
    rw [read, h]
    rfl
  have hdecode : decode text.toUTF8.toList = .ok (unified text) := by
    rw [decode, Text.decode_toUTF8]
    rfl
  rw [readDocument, hread]
  simp only [hdecode]
  rfl

end Files

/-! ### Runs without their reads -/

namespace Event

/-- Whether the reader is asked. -/
def isRead : Event → Bool
  | read _ => true
  | _ => false

theorem filterMap_unread {β : Type} {view : Event → Option β}
    (hread : ∀ p, view (.read p) = none) (es : List Event) :
    (es.filter fun e => !e.isRead).filterMap view = es.filterMap view := by
  rw [List.filterMap_filter]
  refine List.filterMap_congr fun e _ => ?_
  cases e <;> simp [isRead, hread]

end Event

namespace Trace

variable {α β : Type}

/-- The stretch without the reads in it. -/
def unread (t : Trace α) : Trace α :=
  { t with events := t.events.filter fun e => !e.isRead }

@[simp] theorem result_unread (t : Trace α) : t.unread.result = t.result := rfl

@[simp] theorem messages_unread (t : Trace α) : t.unread.messages = t.messages :=
  Event.filterMap_unread (fun _ => rfl) t.events

@[simp] theorem failures_unread (t : Trace α) : t.unread.failures = t.failures :=
  Event.filterMap_unread (fun _ => rfl) t.events

theorem unread_bind (t : Trace α) (f : α → Trace β) :
    (t >>= f).unread = t.unread >>= fun x => (f x).unread := by
  cases h : t.result with
  | ok x =>
    rw [bind_of_ok h, bind_of_ok (t := t.unread) h]
    simp [unread]
  | error e =>
    rw [bind_of_error h, bind_of_error (t := t.unread) h]
    simp [unread]

end Trace

namespace Reporter

variable {σ α : Type}

/-- A reporter takes no notice of reads. -/
theorem deliverEvents_unread (r : Reporter σ) (s : σ) (es : List Event) :
    r.deliverEvents s (es.filter fun e => !e.isRead)
      = ((r.deliverEvents s es).1, (r.deliverEvents s es).2.1.filter (fun e => !e.isRead),
          (r.deliverEvents s es).2.2) := by
  induction es generalizing s with
  | nil => rfl
  | cons e rest ih =>
    cases hread : e.isRead with
    | true =>
      obtain ⟨p, rfl⟩ : ∃ p, e = .read p := by
        cases e <;> first | exact ⟨_, rfl⟩ | cases hread
      rw [List.filter_cons_of_neg (by simp [hread]), ih]
      simp only [deliverEvents, Event.message?]
      rw [List.filter_cons_of_neg (by simp [hread])]
    | false =>
      rw [List.filter_cons_of_pos (by simp [hread])]
      simp only [deliverEvents]
      split <;> split <;> simp_all

theorem deliver_unread (r : Reporter σ) (s : σ) (t : Trace α) :
    (r.deliver s t.unread).state = (r.deliver s t).state ∧
      (r.deliver s t.unread).error = (r.deliver s t).error ∧
      (r.deliver s t.unread).failures = (r.deliver s t).failures := by
  have h := r.deliverEvents_unread s t.events
  refine ⟨?_, ?_, ?_⟩
  · simp only [deliver, Trace.unread, h]
  · simp only [deliver, Trace.unread, h]
  · simp only [deliver, Delivery.failures, Trace.unread, h]
    exact Event.filterMap_unread (fun _ => rfl) _

end Reporter

/-! ### A file in the place of its text -/

namespace Linter

variable {l : Linter}

/-- The linter over other sources. -/
def withSources (l : Linter) (sources : List Source) : Linter :=
  { l with sources }

theorem withSources_checkSources (l : Linter) (all : List Source)
    (cache : Cache FetchError Document) (sources : List Source) :
    (l.withSources all).checkSources cache sources = l.checkSources cache sources := by
  induction sources generalizing cache with
  | nil => rfl
  | cons s rest ih =>
    simp only [checkSources, ih]
    rfl

theorem withSources_run (l : Linter) (sources : List Source) :
    (l.withSources sources).run = (do
      if l.rules.isEmpty then Trace.fail .noRules
      if sources.isEmpty then Trace.fail .noSources
      Trace.emit (.started sources.length l.rules.length)
      l.checkSources .empty sources) := by
  rw [← withSources_checkSources l sources]
  rfl

theorem checkSource_file {p : Path} {text : String} (hread : l.reader p = .ok text)
    (hpath : Path.ofText p.text = p) (cache : Cache FetchError Document) :
    (l.checkSource cache (.file p)).unread
      = (l.checkSource cache (.text text (some p.text))).unread := by
  have hfile : l.checkSource cache (.file p)
      = (do Trace.emit (.read p); l.checkText text (some p.text) (some p) cache) := by
    simp only [checkSource, sourceText, hread]
    rfl
  have htext : l.checkSource cache (.text text (some p.text))
      = l.checkText text (some p.text) (some p) cache := by
    simp only [checkSource, sourceText, Trace.pure_bind, Source.origin, Source.path,
      Option.map_some, hpath]
  rw [hfile, htext, Trace.unread_bind]
  rfl

variable {before rest : List Source} {one two : Source}

theorem checkSources_unread
    (h : ∀ cache, (l.checkSource cache one).unread = (l.checkSource cache two).unread)
    (cache : Cache FetchError Document) :
    (l.checkSources cache (before ++ one :: rest)).unread
      = (l.checkSources cache (before ++ two :: rest)).unread := by
  induction before generalizing cache with
  | nil => simp only [List.nil_append, checkSources, Trace.unread_bind, h]
  | cons s before ih => simp only [List.cons_append, checkSources, Trace.unread_bind, ih]

/-- A source whose check differs in the reads only may take the place of another one. -/
theorem run_unread
    (h : ∀ cache, (l.checkSource cache one).unread = (l.checkSource cache two).unread) :
    (l.withSources (before ++ one :: rest)).run.unread
      = (l.withSources (before ++ two :: rest)).run.unread := by
  have hlength : (before ++ one :: rest).length = (before ++ two :: rest).length := by simp
  have hone : (before ++ one :: rest).isEmpty = false := by simp
  have htwo : (before ++ two :: rest).isEmpty = false := by simp
  rw [withSources_run, withSources_run, hlength, hone, htwo]
  cases l.rules.isEmpty with
  | true => rfl
  | false => simp only [Bool.false_eq_true, if_false, Trace.unread_bind, checkSources_unread h]

/-- The hint on carriage returns is given for no text without them. -/
theorem footers_fenceMessage {text : String} (h : '\r' ∉ text.toList) (e : FenceError)
    (origin : Option String) : (fenceMessage e text origin).footers = [] := by
  have hbyte : ((text.toUTF8.toList.drop 3).head? == some 13) = false := by
    rw [beq_eq_false_iff_ne]
    intro hhead
    have hmem := List.mem_of_mem_drop (List.mem_of_mem_head? hhead)
    rw [Text.toList_toUTF8, List.mem_flatMap] at hmem
    obtain ⟨c, hc, hmem⟩ := hmem
    obtain rfl : c = '\r' := Text.eq_of_mem_encodeChar (by decide) hmem
    exact h hc
  cases e with
  | missingEnd => rfl
  | _ =>
    simp only [fenceMessage, hbyte]
    rfl

/-- A file is reported on as the text that has a line feed for every way to end a line in the file,
and as the text in the file itself if that has no carriage returns. So the hint on carriage returns
is given for no file. -/
theorem run_of_file (l : Linter) (files : Files) (before rest : List Source) (name text : String)
    (hreader : l.reader = files.reader)
    (hfile : files (Path.ofText name) = .ok (.file text.toUTF8.toList)) :
    let path := Path.ofText name
    let byFile := (l.withSources (before ++ .file path :: rest)).run
    let byText :=
      (l.withSources (before ++ .text (Files.unified text) (some path.text) :: rest)).run
    byFile.messages = byText.messages ∧ byFile.failures = byText.failures ∧
      byFile.result = byText.result ∧
      (∀ {σ : Type} (r : Reporter σ) (s : σ),
        (r.deliver s byFile).state = (r.deliver s byText).state ∧
          (r.deliver s byFile).error = (r.deliver s byText).error ∧
          (r.deliver s byFile).failures = (r.deliver s byText).failures) ∧
      (Files.unified text = text ↔ '\r' ∉ text.toList) ∧
      ∀ e, (fenceMessage e (Files.unified text) (some path.text)).footers = [] := by
  intro path byFile byText
  have hread : l.reader path = .ok (Files.unified text) := by
    rw [hreader]
    exact Files.readDocument_toUTF8 hfile
  have hrun : byFile.unread = byText.unread :=
    run_unread (checkSource_file hread (Path.ofText_text (Path.proper_ofText name)))
  refine ⟨?_, ?_, ?_, fun r s => ?_, Files.unified_eq_self_iff, fun e => ?_⟩
  · rw [← Trace.messages_unread byFile, hrun, Trace.messages_unread]
  · rw [← Trace.failures_unread byFile, hrun, Trace.failures_unread]
  · rw [← Trace.result_unread byFile, hrun, Trace.result_unread]
  · obtain ⟨hstate, herror, hfailures⟩ := r.deliver_unread s byFile
    rw [← hstate, ← herror, ← hfailures, hrun]
    exact r.deliver_unread s byText
  · exact footers_fenceMessage (Files.not_mem_unified text) e _

/-- A proposal whose lines end in a carriage return and a line feed. -/
def returnedProposal : String :=
  Files.withReturns "---\ntitle:b\n---\n"

/-- The file with that proposal. -/
def returnedFile : Files :=
  Files.single "a.md" returnedProposal.toUTF8.toList

/-- A linter with one rule for that file. -/
def returned : Linter where
  rules := [("preamble-trim", { rule := .spacing, level := none })]
  reader := returnedFile.reader

theorem run_of_returned_file :
    returnedFile (Path.ofText "a.md") = .ok (.file returnedProposal.toUTF8.toList) ∧
      (returned.withSources [.file (Path.ofText "a.md")]).run.messages
        = (returned.withSources [.text "---\ntitle:b\n---\n" (some "a.md")]).run.messages ∧
      (returned.withSources [.file (Path.ofText "a.md")]).run.result
        = (returned.withSources [.text "---\ntitle:b\n---\n" (some "a.md")]).run.result := by
  have hfile : returnedFile (Path.ofText "a.md") = .ok (.file returnedProposal.toUTF8.toList) :=
    Files.single_self _ _
  have htext : Files.unified returnedProposal = "---\ntitle:b\n---\n" :=
    Files.unified_withReturns (by decide)
  obtain ⟨hmessages, -, hresult, -⟩ :=
    run_of_file returned returnedFile [] [] "a.md" returnedProposal rfl hfile
  rw [htext] at hmessages hresult
  exact ⟨hfile, hmessages, hresult⟩

/-- The file is taken for a proposal whose title lacks a space. The text in it is none at all. -/
theorem run_of_returns_differs :
    (returned.withSources [.file (Path.ofText "a.md")]).run.messages.map (·.title)
        = ["preamble header values must begin with a space"] ∧
      (returned.withSources [.text returnedProposal (some "a.md")]).run.messages.map
          (fun m => (m.title, m.footers.map (·.title)))
        = [("first line must be \x60---\x60 exactly", [carriageReturnHint])] := by
  constructor <;> decide +kernel

end Linter

end ProposalCheck
