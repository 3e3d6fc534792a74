import ProposalCheck.CommandLine.Switch

/-!
# Reading the command line

`Arguments.read` reads the words of a command line. First each word is classed by itself: it is a
switch, a plain word, or the separator after which all words are plain. A switch may be shortened as
long as no other one is meant, and may hold its value. Then the words are taken in order; the
sources are the plain words up to the first switch after them, and plain words further on are left
over.
-/

namespace ProposalCheck.CommandLine

/-- What a command line asks for. The separator in place of a value is no value. -/
structure Arguments where
  sources : List Path := []
  format : Option OutputFormat := none
  listRules : Bool := false
  noStandardRules : Bool := false
  /-- The rules that are given a severity. -/
  severities : List (Severity × Option String) := []
  /-- The configuration file, if one is asked for. -/
  config : Option (Option Path) := none
  verbose : Bool := false
deriving Repr, Inhabited

/-- Why a command line is not carried out. -/
inductive Interruption where
  /-- The help text was asked for. -/
  | help
  /-- The version was asked for. -/
  | version
  | ambiguous (word : String) (names : List String)
  /-- A switch has a value that does not belong to it. -/
  | extraValue (s : Switch) (value : String)
  | missingValue (s : Switch)
  | unknownFormat (given : String)
  | leftOver (words : List String)
  | noSources
deriving DecidableEq, Repr, Inhabited

namespace Arguments

/-- The word after which all words are plain. -/
def separator : String := "--"

/-! ## Single words -/

/-- What a word is by itself. -/
inductive Word where
  | plain
  | separator
  /-- A switch as it is written in full, perhaps with a value in the same word. -/
  | switch (name : String) (s : Switch) (value : Option String)
  /-- It looks like a switch, and there is none. -/
  | unknown
deriving DecidableEq, Repr, Inhabited

/-- A word before and after its first equals sign. -/
def splitValue (word : String) : String × Option String :=
  let cs := word.toList
  let before := cs.takeWhile (· != '=')
  if before.length == cs.length then (word, none)
  else (String.ofList before, some (String.ofList (cs.drop (before.length + 1))))

/-- The switches that a word can be short for. Two dashes start the long way of writing, whose end
may be left out; after one dash and a letter the rest is a value. -/
def candidates (word : String) : List (String × Switch × Option String) :=
  match word.toList with
  | '-' :: '-' :: _ =>
    let (start, value) := splitValue word
    (Switch.names.filter (·.1.startsWith start)).map fun e => (e.1, e.2, value)
  | a :: b :: rest =>
    Switch.names.filterMap fun e =>
      if e.1 == String.ofList [a, b] then some (e.1, e.2, some (String.ofList rest))
      else if e.1.startsWith word then some (e.1, e.2, none)
      else none
  | _ => []

/-- Whether a word is a negative number, perhaps with a part below one. -/
def isNegativeNumber (word : String) : Bool :=
  let body := if word.endsWith "\n" then word.toList.dropLast else word.toList
  let digits (cs : List Char) : Bool := !cs.isEmpty && cs.all Text.isDecimalDigit
  match body with
  | '-' :: cs =>
    digits cs || (match cs.dropWhile Text.isDecimalDigit with
      | '.' :: r => digits r
      | _ => false)
  | _ => false

/-- Classes a word that stands in front of the separator. -/
def classify (word : String) : Except Interruption Word := do
  if !word.startsWith "-" then return .plain
  if let some s := Switch.ofName? word then return .switch word s none
  if word == "-" then return .plain
  let (name, value) := splitValue word
  if let (some s, some _) := (Switch.ofName? name, value) then return .switch name s value
  match candidates word with
  | [(name, s, value)] => return .switch name s value
  | [] =>
    if isNegativeNumber word || word.toList.contains ' ' then return .plain
    else return .unknown
  | several => throw (.ambiguous word (several.map (·.1)))

/-- Classes all words. -/
def classifyAll : List String → Except Interruption (List (String × Word))
  | [] => .ok []
  | w :: ws => do
    if w == separator then return (w, .separator) :: ws.map (·, .plain)
    let c ← classify w
    return (w, c) :: (← classifyAll ws)

/-! ## Switches with their values -/

/-- A switch that is complete, or that takes the next word as its value. -/
structure Asked where
  switch : Switch
  value : Option String
deriving DecidableEq, Repr, Inhabited

/-- The switches that one word holds: behind a letter that takes no value more letters
may follow. -/
def expand (s : Switch) (letters : Bool) : Option (List Char) → Except Interruption (List Asked)
  | none => .ok [⟨s, none⟩]
  | some value =>
    let text := String.ofList value
    if s.takesValue then .ok [⟨s, some text⟩]
    else match letters, value with
      | true, c :: rest =>
        match Switch.ofName? (String.ofList ['-', c]) with
        | some next => do
          let others ← match rest with
            | [] => pure [⟨next, none⟩]
            | d :: more => expand next true (some (d :: more))
          return ⟨s, none⟩ :: others
        | none => .error (.extraValue s text)
      | _, _ => .error (.extraValue s text)
termination_by value => (value.map List.length).getD 0
decreasing_by simp_all

/-- Whether a switch is written with one dash and a letter. -/
def isLetter (name : String) : Bool :=
  !name.startsWith "--"

/-- What a switch with its value changes. -/
def change (a : Arguments) (s : Switch) (value : String) : Except Interruption Arguments :=
  let given := if value == separator then none else some value
  match s with
  | .help => .error .help
  | .version => .error .version
  | .listRules => .ok { a with listRules := true }
  | .noStandardRules => .ok { a with noStandardRules := true }
  | .verbose => .ok { a with verbose := true }
  | .severity s => .ok { a with severities := a.severities ++ [(s, given)] }
  | .config => .ok { a with config := some (given.map Path.ofText) }
  | .format =>
    match given with
    | none => .ok { a with format := none }
    | some name =>
      match OutputFormat.ofName? name with
      | some f => .ok { a with format := some f }
      | none => .error (.unknownFormat name)

/-- What the switches of one word change; `next` is the value of the last one. -/
def changeAll (next : String) (a : Arguments) : List Asked → Except Interruption Arguments
  | [] => .ok a
  | x :: xs => do
    let a ← a.change x.switch (x.value.getD next)
    changeAll next a xs

/-- The switch that lacks a value, if one of them does. -/
def lacking? (xs : List Asked) : Option Switch :=
  (xs.find? fun x => x.switch.takesValue && x.value.isNone).map (·.switch)

/-! ## All words -/

/-- What has been read. -/
structure Progress where
  arguments : Arguments := {}
  /-- Whether the sources have been read. -/
  complete : Bool := false
  /-- The words that are left over. -/
  others : List String := []
deriving Inhabited

/-- Takes plain words: the first time, they are the sources, without the separator. -/
def Progress.takePlain (p : Progress) (words : List String) : Progress :=
  if p.complete then { p with others := p.others ++ words }
  else
    let sources := (words.erase separator).map Path.ofText
    { p with arguments := { p.arguments with sources }, complete := true }

/-- Whether a word is no switch. -/
def Word.isPlain : Word → Bool
  | .plain => true
  | .separator => true
  | _ => false

/-- Reads words in order, where `plain` are plain words that have not been taken yet. -/
def readWords (p : Progress) (plain : List String) :
    List (String × Word) → Except Interruption Progress
  | [] => .ok (p.takePlain plain)
  | (w, .plain) :: rest => readWords p (plain ++ [w]) rest
  | (w, .separator) :: rest => readWords p (plain ++ [w]) rest
  | (w, .unknown) :: rest =>
    let p := if plain.isEmpty then p else p.takePlain plain
    readWords { p with others := p.others ++ [w] } [] rest
  | (_, .switch name s value) :: rest => do
    let p := if plain.isEmpty then p else p.takePlain plain
    let asked ← expand s (isLetter name) (value.map String.toList)
    match lacking? asked, rest with
    | none, rest =>
      let arguments ← p.arguments.changeAll "" asked
      readWords { p with arguments } [] rest
    | some _, (w, .plain) :: rest =>
      let arguments ← p.arguments.changeAll w asked
      readWords { p with arguments } [] rest
    | some s, _ => throw (.missingValue s)

/-- Reads a command line. -/
def read (words : List String) : Except Interruption Arguments := do
  let words ← classifyAll words
  let p ← readWords {} [] words
  unless p.others.isEmpty do throw (.leftOver p.others)
  let a := p.arguments
  if !a.listRules && a.sources.isEmpty then throw .noSources
  return a

end Arguments

end ProposalCheck.CommandLine
