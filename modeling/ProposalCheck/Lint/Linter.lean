import ProposalCheck.Lint.Run
import ProposalCheck.Rule.Shipped

/-!
# The linter

A linter holds rules under slugs, modifiers, a reader and the sources to check. `Linter.run` checks
the sources in order. Each one is read and parsed; the rules say which documents they need; those
are read, each at most once in a run; the modifiers settle the level; then the rules are asked for
their findings in the order of their slugs.
-/

namespace ProposalCheck

/-- A rule under a slug. Without a level of its own it reports at the level of the document. -/
structure Registration where
  rule : Rule
  level : Option Level
deriving Inhabited

/-- What to check. -/
inductive Source where
  /-- A text that is at hand, with the origin it is given. -/
  | text (text : String) (origin : Option String)
  /-- The text that the reader gives for a path. -/
  | file (p : Path)
deriving Repr, Inhabited

namespace Source

/-- The origin under which a source is named. -/
def origin : Source → Option String
  | text _ origin => origin
  | file p => some p.text

/-- The path from which the references of a source are read. -/
def path : Source → Option Path
  | text _ origin => origin.map Path.ofText
  | file p => some p

end Source

/-- Why the rules of a linter cannot be changed. -/
inductive RegistryError where
  /-- There is a rule under the slug. -/
  | taken (slug : String)
  /-- There is no rule under the slug. -/
  | unknown (slug : String)
deriving DecidableEq, Repr, Inhabited

namespace RegistryError

/-- The wording of the error. -/
def message : RegistryError → String
  | taken slug => "lint slug \x60" ++ slug ++ "\x60 is already registered"
  | unknown slug => Text.quoted ("no lint registered under \x60" ++ slug ++ "\x60")

end RegistryError

/-- Rules with all that they need to run. -/
structure Linter where
  rules : List (String × Registration) := []
  modifiers : List Modifier := DefaultLevel.standard.map .defaultLevel
  reader : Reader := .refusing
  /-- The template of the file names of proposals. -/
  proposalFormat : String := "eip-\x7b\x7d"
  sources : List Source := []
deriving Inhabited

namespace Linter

/-! ## Rules and sources -/

/-- The rule under a slug. -/
def rule? (l : Linter) (slug : String) : Option Registration :=
  (l.rules.find? fun e => e.1 == slug).map (·.2)

/-- Adds a rule. -/
def register (l : Linter) (slug : String) (rule : Rule) (level : Option Level) :
    Except RegistryError Linter :=
  if (l.rule? slug).isSome then .error (.taken slug)
  else .ok { l with rules := l.rules ++ [(slug, { rule, level })] }

/-- Takes a rule out. -/
def allow (l : Linter) (slug : String) : Except RegistryError Linter :=
  if (l.rule? slug).isSome then .ok { l with rules := l.rules.filter fun e => e.1 != slug }
  else .error (.unknown slug)

/-- Takes all rules out. -/
def clear (l : Linter) : Linter :=
  { l with rules := [] }

/-- Adds a modifier after the others. -/
def modify (l : Linter) (m : Modifier) : Linter :=
  { l with modifiers := l.modifiers ++ [m] }

/-- Adds a source after the others. -/
def add (l : Linter) (s : Source) : Linter :=
  { l with sources := l.sources ++ [s] }

/-- The rules that are on from the start. -/
def standardRules : List (String × Registration) :=
  Shipped.standard.map fun e => (e.1, { rule := e.2.toRule, level := none })

/-- The rules in the order of their slugs. -/
def orderedRules (l : Linter) : List (String × Registration) :=
  l.rules.mergeSort fun a b => Text.le a.1 b.1

/-! ## Following references -/

/-- The paths at which the document of a reference may be. -/
def candidates (l : Linter) : Reference → Except TemplateError (List Path)
  | .path text => .ok [Path.ofText text]
  | .proposal root number => do
    let name ← Template.fill l.proposalFormat (.number number)
    let root := Path.ofText root
    return [root.child (name ++ ".md"), (root.child name).child Path.indexName]

/-- The paths that are read for a reference. -/
def pathsOf (l : Linter) (r : Reference) : List Path :=
  match l.candidates r with
  | .ok ps => ps
  | .error _ => []

/-- A text that was read for a reference, as a document. -/
def parseFetched (text : String) (p : Path) : Except Crash (Except FetchError Document) :=
  match Document.parse text (some p.text) (some p) with
  | .ok d => .ok (.ok d)
  | .error (.markup e) => .error (.markup e)
  | .error e => .ok (.error (.malformed e))

/-- The text at a path, if the reader does not break. -/
def readText (l : Linter) (p : Path) : Except Crash (Except ReadError String) :=
  match l.reader p with
  | .ok text => .ok (.ok text)
  | .error (.unreadable reason) => .ok (.error (.unreadable reason))
  | .error e => .error (.reader e)

/-- The document that is meant when one of these paths has it. -/
def choose (r : Reference) (found : List (Path × Except ReadError String)) :
    Except Crash (Except FetchError Document) :=
  let texts := found.filterMap fun e =>
    match e.2 with
    | .ok text => some (e.1, text)
    | .error _ => none
  match texts, found with
  | [(p, text)], _ => parseFetched text p
  | (first, _) :: (second, _) :: _, _ =>
    let number := match r with
      | .proposal _ n => n
      | .path _ => 0
    .ok (.error (.ambiguous number first second))
  | [], (_, .error e) :: _ => .ok (.error (.unreadable e))
  | [], _ => .ok (.error (.unreadable .impossiblePath))

/-- What a reference leads to. -/
def load (l : Linter) (r : Reference) : Except Crash (Except FetchError Document) := do
  let paths ← (l.candidates r).mapError .template
  let found ← paths.mapM fun p => return (p, ← l.readText p)
  choose r found

/-- Whether a reference is settled before the documents of proposals are looked at: a path, or a
number for which there is no name. -/
def isEarly (l : Linter) : Reference → Bool
  | .path _ => true
  | r => (l.candidates r).toOption.isNone

/-- The first reference that breaks the run, if one does. Proposals come after all others. -/
def firstCrash? (l : Linter) (loaded : List (Reference × Except Crash (Except FetchError Document))) :
    Option Crash :=
  let crash? (e : Reference × Except Crash (Except FetchError Document)) : Option Crash :=
    match e.2 with
    | .error c => some c
    | .ok _ => none
  let (early, late) := loaded.partition fun e => l.isEarly e.1
  (early ++ late).findSome? crash?

/-- Puts the results for references into the cache. -/
def storeAll (cache : Cache FetchError Document) :
    List (Reference × Except Crash (Except FetchError Document)) → Trace (Cache FetchError Document)
  | [] => pure cache
  | (r, .ok x) :: rest => do
    match x with
    | .error e => Trace.emit (.unresolved r e)
    | .ok _ => pure ()
    storeAll (cache.store r x) rest
  | (_, .error _) :: rest => storeAll cache rest

/-- Follows the references that have not been followed yet. -/
def fetchAll (l : Linter) (references : List Reference) (cache : Cache FetchError Document) :
    Trace (Cache FetchError Document) := do
  let pending := Reference.sorted (references.eraseDups.filter fun r => !cache.contains r)
  if pending.isEmpty then return cache
  Trace.emit (.fetching pending.length)
  Trace.emitAll ((pending.flatMap l.pathsOf).map .read)
  let loaded := pending.map fun r => (r, l.load r)
  match l.firstCrash? loaded with
  | some c => Trace.crash c
  | none => storeAll cache loaded

/-! ## One document -/

/-- The hint for texts in which lines end in a carriage return. -/
def carriageReturnHint : String :=
  "found a carriage return (CR), use Unix-style line endings (LF) instead"

/-- The diagnostic for a text without its fences. -/
def fenceMessage (e : FenceError) (text : String) (origin : Option String) : Message :=
  match e with
  | .missingEnd => Level.error.message "preamble must be followed by a line containing \x60---\x60 exactly"
  | _ =>
    let first := text.toList.takeWhile (· != '\n')
    let shown := if first.getLast? == some '\r' then first.dropLast else first
    let m := (Level.error.message "first line must be \x60---\x60 exactly").addSnippet
      { source := String.ofList shown, lineStart := 1, origin, fold := false }
    if (text.toUTF8.toList.drop 3).head? == some 13 then
      m.addFooter (Level.help.message carriageReturnHint)
    else m

/-- The diagnostics for a text that is not a document; an error of another kind ends the run. -/
def parseMessages (text : String) (origin : Option String) :
    DocumentError → Except Crash (List Message)
  | .fences e => .ok [fenceMessage e text origin]
  | .preamble ls => .ok (ls.map fun l => l.message origin)
  | .markup e => .error (.markup e)

/-- A rule stopped: a fault is recorded, a crash ends the run. -/
def handle (slug : String) (origin : Option String) (phase : Phase) : Option Stop → Trace Bool
  | none => pure true
  | some (.fault fault) => do
    Trace.emit (.failure { slug, origin, phase, fault })
    return false
  | some (.crash c) => Trace.crash c

/-- Asks the rules which documents they need. The result has the references, and the rules that did
not stop. A fetch error is none that a rule may stop with here. -/
def discoverAll (d : Document) :
    List (String × Registration) → Trace (List Reference × List (String × Registration))
  | [] => pure ([], [])
  | (slug, g) :: rest => do
    Trace.emit (.discover slug)
    let found := g.rule.discover d
    let goesOn ← handle slug d.origin .discovery found.stop
    let (references, others) ← discoverAll d rest
    return (found.references ++ references, if goesOn then (slug, g) :: others else others)

/-- Applies the modifiers in order. -/
def modifyAll (c : Context) : Settings → List Modifier → Trace Settings
  | s, [] => pure s
  | s, m :: rest => do
    Trace.emit (.modify m.summary)
    match m.change c s with
    | .ok s => modifyAll c s rest
    | .error (.failed reason) => Trace.fail (.modifier m.summary reason c.origin)
    | .error (.frozen e) => Trace.crash (.frozen e)

/-- Asks the rules for their findings. -/
def checkAll (d : Document) (cache : Cache FetchError Document) (s : Settings) :
    List (String × Registration) → Trace Unit
  | [] => pure ()
  | (slug, g) :: rest => do
    Trace.emit (.check slug)
    let findings := g.rule.check slug
      { document := d, cache, level := g.level.getD s.defaultLevel, settings := s }
    Trace.emitAll (findings.messages.map .report)
    let _ ← handle slug d.origin .check findings.stop
    checkAll d cache s rest

/-- Checks a document, with what references have led to so far. -/
def checkDocument (l : Linter) (d : Document) (cache : Cache FetchError Document) :
    Trace (Cache FetchError Document) := do
  let state (s : Progress) := Trace.emit (.progress d.origin s)
  state .parsed
  state .discovering
  let (references, active) ← discoverAll d l.orderedRules
  state .fetching
  let cache ← l.fetchAll references cache
  let start : Settings := {}
  let context : Context := { document := d, cache, level := start.defaultLevel, settings := start }
  let settings ← modifyAll context start l.modifiers
  let settings := settings.freeze
  state .modified
  state .checking
  checkAll d cache settings active
  state .done
  return cache

/-- Checks a text. -/
def checkText (l : Linter) (text : String) (origin : Option String) (path : Option Path)
    (cache : Cache FetchError Document) : Trace (Cache FetchError Document) := do
  Trace.emit (.progress origin .unparsed)
  match Document.parse text origin path with
  | .ok d => l.checkDocument d cache
  | .error e =>
    match parseMessages text origin e with
    | .error c => Trace.crash c
    | .ok ms =>
      Trace.emitAll (ms.map .report)
      Trace.emit (.progress origin .notParsed)
      return cache

/-- The text of a source. -/
def sourceText (l : Linter) : Source → Trace String
  | .text text _ => pure text
  | .file p => do
    Trace.emit (.read p)
    match l.reader p with
    | .ok text => return text
    | .error (.unreadable reason) => Trace.fail (.unreadable p (.unreadable reason))
    | .error e => Trace.crash (.reader e)

/-- Checks a source. -/
def checkSource (l : Linter) (cache : Cache FetchError Document) (s : Source) :
    Trace (Cache FetchError Document) := do
  let text ← l.sourceText s
  l.checkText text s.origin s.path cache

/-- Checks sources in order. -/
def checkSources (l : Linter) (cache : Cache FetchError Document) : List Source → Trace Unit
  | [] => pure ()
  | s :: rest => do
    let cache ← l.checkSource cache s
    l.checkSources cache rest

/-- Checks all sources. -/
def run (l : Linter) : Trace Unit := do
  if l.rules.isEmpty then Trace.fail .noRules
  if l.sources.isEmpty then Trace.fail .noSources
  Trace.emit (.started l.sources.length l.rules.length)
  l.checkSources .empty l.sources

end Linter

end ProposalCheck
