import ProposalCheck.Markup.Inline.Delimiter
import ProposalCheck.Markup.Inline.Item
import ProposalCheck.Markup.Inline.Notes

/-!
# Reading the inside of a text

`readText` reads a text into events: items one after the other, with the marks of emphasis between
them paired up at the end. The text of a link is read in its place; the texts of images and of
footnotes are read on their own.
-/

namespace ProposalCheck.Markup.Inline

/-- A reader of texts that stand on their own. -/
abbrev Reader := List Char → Notes → Array Event × Notes

/-- The greatest depth of links, and of items that are skipped. -/
def maxDepth : Nat := 20

/-- The state of reading a text. -/
structure State where
  pos : Nat := 0
  /-- The end of the part that is read. -/
  stop : Nat
  /-- The plain characters since the last event, the last one first. -/
  pending : List Char := []
  events : Array Event := #[]
  /-- The marks of emphasis, those of each link on their own. -/
  groups : Array (Array Delimiter) := #[#[]]
  /-- The group of the link that is read. -/
  group : Nat := 0
  /-- The number of links around the text; HTML may close more links than it opens. -/
  linkLevel : Int := 0
  memory : Memory := {}
  notes : Notes
deriving Inhabited

namespace State

/-- Turns pending characters into an event. -/
def flush (s : State) : State :=
  if s.pending.isEmpty then s
  else { s with
    events := s.events.push (.text (String.ofList s.pending.reverse)), pending := [] }

/-- Adds an event. -/
def push (s : State) (e : Event) : State :=
  let s := s.flush
  { s with events := s.events.push e }

/-- Adds a construct without children. -/
def leaf (s : State) (c : Construct) : State :=
  s.push (.leaf c none [])

/-- Adds plain characters. -/
def plain (s : State) (cs : List Char) : State :=
  { s with pending := cs.reverse ++ s.pending }

/-- Adds a link around a text that is shown as it is. -/
def shownLink (s : State) (target shown : List Char) : State :=
  let link := Construct.link (String.ofList target) none
  ((s.push (.opening link none)).leaf (.text (String.ofList shown))).push (.closing link)

/-- Adds a mark of emphasis. -/
def mark (s : State) (text : List Char) (d : Delimiter) : State :=
  let s := s.leaf (.text (String.ofList text))
  { s with groups := s.groups.modify s.group (·.push { d with event := s.events.size - 1 }) }

/-- Adds a break at the end of a line: two spaces in front of it make it a hard one. -/
def lineEnd (s : State) : State :=
  match s.pending with
  | ' ' :: ' ' :: r => { s with pending := r.dropWhile (· == ' ') }.leaf .hardBreak
  | ' ' :: r => { s with pending := r }.leaf .softBreak
  | _ => s.leaf .softBreak

end State

/-- The title of a link, if it is not empty. -/
def titleOf (title : List Char) : Option String :=
  if title.isEmpty then none else some (String.ofList title)

/-- Adds a run of asterisks or underscores. -/
def addEmphasis (text : Array Char) (c : Char) (s : State) : State :=
  let run := scanRun text c s.pos s.stop (c == '*')
  let d : Delimiter :=
    { marker := c, length := run.length, event := 0, opens := run.opens, closes := run.closes }
  let s := (List.range run.length).foldl (fun s _ => s.mark [c] d) s
  { s with pos := s.pos + run.length }

/-- Adds a run of two or more tildes, in pairs. -/
def addStrike? (text : Array Char) (s : State) : Option State :=
  let run := scanRun text '~' s.pos s.stop true
  if run.length < 2 then none
  else
    let d : Delimiter :=
      { marker := '~', length := 0, event := 0, opens := run.opens, closes := run.closes }
    let s := if run.length % 2 == 1 then s.leaf (.text "~") else s
    let s := (List.range (run.length / 2)).foldl (fun s _ => s.mark ['~', '~'] d) s
    some { s with pos := s.pos + run.length }

/-- Adds an item. The text of a link is read by `nested`, texts of their own by `own`. -/
def addItem (own : Reader) (nested : State → State) (text : Array Char) (item : Item) (s : State) :
    State :=
  match item with
  | .plain cs => s.plain cs
  | .address before target shown =>
    { s with pending := s.pending.drop before }.shownLink target shown
  | .lineEnd => s.lineEnd
  | .hardBreak => s.leaf .hardBreak
  | .special cs => s.leaf (.special (String.ofList cs))
  | .code content => s.leaf (.code (String.ofList content))
  | .link start stop target title =>
    let link := Construct.link (String.ofList target) (titleOf title)
    let s := s.push (.opening link none)
    let (outer, limit) := (s.group, s.stop)
    let s := nested { s with
      pos := start, stop, groups := s.groups.push #[], group := s.groups.size,
      linkLevel := s.linkLevel + 1 }
    { s with stop := limit, group := outer, linkLevel := s.linkLevel - 1 }.push (.closing link)
  | .image start stop target title =>
    let content := slice text start stop
    let (events, notes) := own content s.notes
    let image := Construct.image (String.ofList target) (titleOf title) (String.ofList content)
    { s with notes }.push
      (.leaf image none ((Event.toNodes? (joinSpecials events.toList)).getD []))
  | .note start stop =>
    let content := slice text start stop
    let number := s.notes.list.size
    let (events, notes) := own content s.notes.reserve
    { s with notes := notes.write number { content := String.ofList content, events } }.leaf
      (.footnoteRef none)
  | .noteRef label => { s with notes := s.notes.refer label }.leaf (.footnoteRef (some label))
  | .autolink target shown => s.shownLink target shown
  | .html content =>
    let chars := content.toArray
    let opened := (Html.linkOpen.find? chars).isSome
    let closed := (Html.linkClose.find? chars).isSome
    let s := s.leaf (.html (String.ofList content))
    { s with
      linkLevel := s.linkLevel + (if opened then 1 else 0) - (if closed then 1 else 0) }

/-- Adds the character at the current position as a plain one. -/
def addPlain (text : Array Char) (s : State) : State :=
  { s.plain (text[s.pos]?).toList with pos := s.pos + 1 }

/-- Reads what stands at the current position. -/
def readItem (own : Reader) (nested : State → State) (room : Nat) (text : Array Char)
    (references : List (String × Reference)) (s : State) : State :=
  match text[s.pos]? with
  | some '~' => (addStrike? text s).getD (addPlain text s)
  | some '*' => addEmphasis text '*' s
  | some '_' => addEmphasis text '_' s
  | _ =>
    let v : View :=
      { text, stop := s.stop, pending := s.pending, inLink := 0 < s.linkLevel, references
        notes := s.notes.labels.map (·.1) }
    let (found, memory) := (v.recognize (v.skipItem room) s.pos).run s.memory
    let s := { s with memory }
    match found with
    | some (item, q) => { addItem own nested text item s with pos := q }
    | none => addPlain text s

/-- Reads items until the end of the part that is read. -/
def readItems (step : State → State) : Nat → State → State
  | 0, s => s.flush
  | fuel + 1, s => if s.stop ≤ s.pos then s.flush else readItems step fuel (step s)

/-- Reads a part of a text in which links are nested at most `room` deep. What is nested deeper is
plain. -/
def readPart (own : Reader) (text : Array Char) (references : List (String × Reference)) :
    Nat → State → State
  | 0, s => { s.plain (slice text s.pos s.stop) with pos := s.stop }.flush
  | room + 1, s =>
    readItems (readItem own (readPart own text references room) (room + 1) text references)
      (s.stop - s.pos + 1) s

/-- The events of a text with the marks of emphasis paired up. -/
def State.finish (s : State) : Array Event :=
  let groups := s.groups.map pairUp
  let events := groups.foldl (fun es ds => strike ds es) s.events
  let events := groups.foldl (fun es ds => emphasize ds es) events
  (joinTexts events.toList).toArray

/-- Reads a text, with texts of their own inside it at most `depth` deep. -/
def readOwn (references : List (String × Reference)) : Nat → Reader
  | 0 => fun _ notes => (#[], notes)
  | depth + 1 => fun cs notes =>
    let text := cs.toArray
    let s := readPart (readOwn references depth) text references maxDepth
      { stop := text.size, notes }
    (s.finish, s.notes)

/-- Reads a text. -/
def readText (references : List (String × Reference)) : Reader :=
  fun cs notes => readOwn references (cs.length + 1) cs notes

end ProposalCheck.Markup.Inline
