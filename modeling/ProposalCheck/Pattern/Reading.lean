import ProposalCheck.Pattern.Escape
import ProposalCheck.Pattern.OptionGroup
import ProposalCheck.Pattern.Width

/-!
# Reading patterns

`Pattern.read` reads a regular expression from its text. A text that is no regular expression gives
a `PatternError`, which tells what is wrong and where.
-/

namespace ProposalCheck

namespace Pattern

open Read

/-! ## Names and groups -/

/-- Refuses what cannot name a group. -/
def checkName (name : String) : Read Unit := do
  if !Text.isIdentifier name then
    fail ("bad character in group name " ++ Text.quoted name) (name.length + 1)

/-- Opens a group, perhaps with a name, and gives its number. -/
def openGroup (name : Option String) : Read Nat := do
  let r ← get
  let index := r.groups
  match name with
  | none => set { r with groups := index + 1 }
  | some n =>
    match r.names.find? (·.1 == n) with
    | some (_, old) =>
      set { r with groups := index + 1 }
      fail ("redefinition of group name " ++ Text.quoted n ++ " as group " ++ toString index
        ++ "; was group " ++ toString old) (n.length + 1)
    | none => set { r with groups := index + 1, names := (n, index) :: r.names }
  return index

/-- The group that a condition refers to. -/
def conditionGroup (name : String) : Read Nat := do
  let r ← get
  if Text.isIdentifier name then
    match r.names.find? (·.1 == name) with
    | some (_, index) => return index
    | none => fail ("unknown group name " ++ Text.quoted name) (name.length + 1)
  else
    match Text.Numeral.read name with
    | .ok (.ofNat n) =>
      if n == 0 then fail "bad group number" (name.length + 1)
      if n ≥ 1073741823 then
        fail ("invalid group reference " ++ toString n) (name.length + 1)
      let p ← position
      modify fun r =>
        if r.conditions.any (·.1 == n) then r
        else { r with conditions := r.conditions ++ [(n, p - name.length - 1)] }
      return n
    | _ => fail ("bad character in group name " ++ Text.quoted name) (name.length + 1)

/-! ## Sequences -/

/-- A part of a sequence. A plain bracket holds parts that are later joined to those around it. -/
inductive Part where
  | one (n : Node)
  | bracket (ns : List Node)

namespace Part

/-- The nodes of a part. -/
def nodes : Part → List Node
  | one n => [n]
  | bracket ns => ns

/-- Whether a part has no width, so that it cannot be repeated. -/
def isAnchor : Part → Bool
  | one (.anchor _) => true
  | _ => false

/-- Whether a part is a repetition. -/
def isRepetition : Part → Bool
  | one (.repetition _ _ _ _) => true
  | _ => false

end Part

/-- The bounds of a repetition: numbers in braces, or one of the signs. `none` when a brace does not
start a repetition. -/
def bounds (sign : Char) : Read (Option (Nat × Option Nat)) := do
  match sign with
  | '?' => return some (0, some 1)
  | '*' => return some (0, none)
  | '+' => return some (1, none)
  | _ =>
    let here ← position
    if (← get).next == some (.plain '\x7d') then return none
    let n ← fuel
    let low ← takeWhile Char.isDigit n
    let high ← if ← accept ',' then takeWhile Char.isDigit n else pure low
    if !(← accept '\x7d') then
      goTo here
      return none
    let limit := 4294967295
    for ds in [low, high] do
      if ds.length > Text.Numeral.maxDigits then throw (.numeral (.tooLong ds.length))
      if !ds.isEmpty && numberOf 10 ds ≥ limit then throw .tooManyRepetitions
    let min := if low.isEmpty then 0 else numberOf 10 low
    let max := if high.isEmpty then none else some (numberOf 10 high)
    if let some m := max then
      if m < min then
        fail "min repeat greater than max repeat" ((← position) - here)
    return some (min, max)

/-- The sign after the bounds of a repetition, which tells how often it tries to repeat. -/
def readGreed : Read Greed := do
  if ← accept '?' then return .lazy
  if ← accept '+' then return .possessive
  return .greedy

/-- Skips a comment up to a closing character. -/
def skipComment (start : Nat) : Nat → Read Unit
  | 0 => return ()
  | fuel + 1 => do
    if (← get).next.isNone then
      fail "missing ), unterminated comment" ((← position) - start)
    if (← take) == some (.plain ')') then return () else skipComment start fuel

/-- Skips the rest of a line. -/
def skipLine : Nat → Read Unit
  | 0 => return ()
  | fuel + 1 => do
    match ← take with
    | none => return ()
    | some t => if t == .plain '\n' then return () else skipLine fuel

/-- Wants the bracket that closes a group. -/
def closeGroup (start : Nat) : Read Unit := do
  if !(← accept ')') then
    fail "missing ), unterminated subpattern" ((← position) - start)

/-! ## Alternatives -/

/-- Whether a node has no parts, so that it can be told whether it is the same as another one. -/
def isSimple : Node → Bool
  | .any _ => true
  | .char _ _ _ => true
  | .set _ _ _ => true
  | .anchor _ => true
  | .reference _ _ => true
  | _ => false

/-- The node that all of some sequences start with, if it has no parts. -/
def commonHead? : List (List Node) → Option Node
  | (n :: _) :: others =>
    if isSimple n && others.all (·.head? == some n) then some n else none
  | _ => none

/-- The nodes that all of some sequences start with, and what follows them in each. -/
def splitHead : Nat → List (List Node) → List Node × List (List Node)
  | 0, sequences => ([], sequences)
  | fuel + 1, sequences =>
    match commonHead? sequences with
    | none => ([], sequences)
    | some n =>
      let (heads, rests) := splitHead fuel (sequences.map List.tail)
      (n :: heads, rests)

/-- The items of a set that a sequence is equal to, if it is a single character or such a set. -/
def itemsOf? : List Node → Option (List SetItem)
  | [.char _ false n] => some [.char n]
  | [.set _ false items] => some items
  | _ => none

/-- The nodes that stand for some alternatives: what they start with in common, then one set if each
of them is a set or a character, else the choice between them. -/
def union (o : Options) : List (List Node) → List Node
  | [ns] => ns
  | sequences =>
    let (heads, rests) := splitHead ((sequences.headD []).length + 1) sequences
    heads ++ [match rests.mapM itemsOf? with
      | some items => setNode o false (distinct items.flatten)
      | none => .ofAlternatives (rests.map .ofList)]

/-! ## Sequences and groups -/

mutual

/-- Reads alternatives up to a closing bracket or the end. `top` marks the whole pattern. -/
def alternatives (o : Options) (top : Bool) : Nat → Bool → Read (List (List Node))
  | 0, _ => return []
  | fuel + 1, first => do
    let ns ← sequence o (top && first) fuel []
    if ← accept '|' then
      let whole := (← get).options
      return ns :: (← alternatives (if top then whole else o) top fuel false)
    else return [ns]

/-- Reads the parts of a sequence. `first` tells that options for the whole pattern may stand
here. -/
def sequence (o : Options) (first : Bool) : Nat → List Part → Read (List Node)
  | 0, parts => return parts.flatMap Part.nodes
  | fuel + 1, parts => do
    match (← get).next with
    | none => return parts.flatMap Part.nodes
    | some t =>
      if t == .plain '|' || t == .plain ')' then return parts.flatMap Part.nodes
      advance
      let add (n : Node) : Read (List Node) := sequence o first fuel (parts ++ [.one n])
      match t with
      | .escape c => add (← escape o c)
      | .plain c =>
        if o.verbose && (c == ' ' || (0x9 ≤ c.toNat && c.toNat ≤ 0xD)) then
          sequence o first fuel parts
        else if o.verbose && c == '#' then
          skipLine fuel
          sequence o first fuel parts
        else if c == '[' then
          let here := (← position) - 1
          let negated ← accept '^'
          add (bracketed o negated (← setItems o here fuel []))
        else if c == '.' then add (.any o.dotAll)
        else if c == '^' then add (.anchor (if o.multiline then .lineStart else .start))
        else if c == '$' then add (.anchor (if o.multiline then .lineEnd else .finish))
        else if c == '?' || c == '*' || c == '+' || c == '\x7b' then
          let here ← position
          match ← bounds c with
          | none => add (literal o c.toNat)
          | some (min, max) =>
            let offset := (← position) - here + 1
            match parts.getLast? with
            | none => fail "nothing to repeat" offset
            | some part =>
              if part.isAnchor then fail "nothing to repeat" offset
              if part.isRepetition then fail "multiple repeat" offset
              let greed ← readGreed
              sequence o first fuel
                (parts.dropLast ++ [.one (.repetition greed min max (.ofList part.nodes))])
        else if c == '(' then
          let start := (← position) - 1
          match ← bracket o start first parts.isEmpty fuel with
          | none =>
            let whole := (← get).options
            sequence (if first && parts.isEmpty then whole else o) first fuel parts
          | some part => sequence o first fuel (parts ++ [part])
        else add (literal o c.toNat)

/-- Reads what follows an opening bracket. Comments and options for the whole pattern give no
node. -/
def bracket (o : Options) (start : Nat) (first alone : Bool) : Nat → Read (Option Part)
  | 0 => return none
  | fuel + 1 => do
    let contents (o : Options) : Read (List Node) := do
      return union o (← alternatives o false fuel false)
    let captured (name : Option String) : Read (Option Part) := do
      let index ← openGroup name
      let body := Node.ofList (← contents o)
      closeGroup start
      modify fun r => { r with widths := (index, body.width r.widths) :: r.widths }
      return some (.one (.group (some index) body))
    let look (behind negated : Bool) : Read (Option Part) := do
      let outer := (← get).lookBehindGroups
      if behind && outer.isNone then
        modify fun r => { r with lookBehindGroups := some r.groups }
      let body := Node.ofList (← contents o)
      if behind && outer.isNone then
        modify fun r => { r with lookBehindGroups := none }
      closeGroup start
      let width := (body.width (← get).widths).least
      return some (.one (.look (if behind then some width else none) negated body))
    if !(← accept '?') then captured none
    else
      match ← take with
      | none => fail "unexpected end of pattern" 0
      | some (.escape c) => fail ("unknown extension ?\\" ++ String.ofList [c]) 3
      | some (.plain 'P') =>
        if ← accept '<' then
          let name ← takeUntil '>' "group name" fuel ""
          checkName name
          captured (some name)
        else if ← accept '=' then
          let name ← takeUntil ')' "group name" fuel ""
          checkName name
          match (← get).names.find? (·.1 == name) with
          | none => fail ("unknown group name " ++ Text.quoted name) (name.length + 1)
          | some (_, index) =>
            if !((← get).widths.any (·.1 == index)) then
              fail "cannot refer to an open group" (name.length + 1)
            checkReference index
            return some (.one (.reference o.comparison index))
        else
          match ← take with
          | none => fail "unexpected end of pattern" 0
          | some t => fail ("unknown extension ?P" ++ t.text) (t.length + 2)
      | some (.plain ':') =>
        let ns ← contents o
        closeGroup start
        return some (.bracket ns)
      | some (.plain '#') =>
        skipComment start fuel
        return none
      | some (.plain '=') => look false false
      | some (.plain '!') => look false true
      | some (.plain '<') =>
        match ← take with
        | none => fail "unexpected end of pattern" 0
        | some t =>
          if t == .plain '=' then look true false
          else if t == .plain '!' then look true true
          else fail ("unknown extension ?<" ++ t.text) (t.length + 2)
      | some (.plain '(') =>
        let name ← takeUntil ')' "group name" fuel ""
        let index ← conditionGroup name
        checkReference index
        let yes ← sequence o false fuel []
        let no ← if ← accept '|' then do
            let no ← sequence o false fuel []
            if (← get).next == some (.plain '|') then
              fail "conditional backref with more than two branches" 0
            pure no
          else pure []
        closeGroup start
        return some (.one (.conditional index (.ofList yes) (.ofList no)))
      | some (.plain '>') =>
        let ns ← contents o
        closeGroup start
        return some (.one (.atomic (.ofList ns)))
      | some (.plain c) =>
        if isOption c || c == '-' then
          match ← optionGroup c with
          | .forAll on =>
            if !first || !alone then
              fail "global flags not at the start of the expression" ((← position) - start)
            modify fun r => { r with
              options := r.options.enable on
              optionLetters := r.optionLetters ++ on }
            return none
          | .forGroup on off =>
            let ns ← contents ((o.enable on).disable off)
            closeGroup start
            return some (.one (.group none (.ofList ns)))
        else fail ("unknown extension ?" ++ String.ofList [c]) 2

end

/-- Reads a whole pattern. -/
def wholePattern : Read Pattern := do
  advance
  let sequences ← alternatives {} true (8 * (← get).chars.size + 16) true
  let r ← get
  if r.optionLetters.contains 'a' && r.optionLetters.contains 'u' then throw .clashingOptions
  if r.next.isSome then fail "unbalanced parenthesis" 0
  if let some (n, p) := r.conditions.find? (·.1 ≥ r.groups) then
    throw (.malformed ("invalid group reference " ++ toString n) r.source (some p))
  let node := Node.ofList (union r.options sequences)
  if let some reason := node.fault? r.widths (r.optionLetters.contains 't') then
    throw (.malformed reason r.source none)
  return { node, groups := r.groups - 1, ascii := r.options.ascii }

/-- The pattern that a text denotes. -/
def read (source : String) : Except PatternError Pattern :=
  match wholePattern.run { source, chars := source.toList.toArray } with
  | .ok (p, _) => .ok p
  | .error e => .error e

/-- The pattern that matches nowhere. -/
def never : Pattern :=
  { node := .set .exact false [], groups := 0 }

/-- A pattern whose text is known to be well formed. -/
def ofText (source : String) : Pattern :=
  match read source with
  | .ok p => p
  | .error _ => never

end Pattern

end ProposalCheck
