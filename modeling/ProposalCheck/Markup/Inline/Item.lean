import ProposalCheck.Markup.Autolink
import ProposalCheck.Markup.Html
import ProposalCheck.Markup.Target
import Std.Data.TreeMap

/-!
# Items of a text

An item is what a text is made of between emphasis marks: runs of plain characters, code, links,
images, references to footnotes, HTML and characters written by name. `recognize` finds the item at
a position; where a link ends depends on the items inside its brackets, so that it has to skip over
items itself.
-/

namespace ProposalCheck.Markup.Inline

/-- What stands at a position of a text. -/
inductive Item where
  | plain (cs : List Char)
  /-- An address with its scheme, of which `before` characters have been read as plain ones. -/
  | address (before : Nat) (target shown : List Char)
  | lineEnd
  | hardBreak
  | special (cs : List Char)
  | code (content : List Char)
  /-- A link or an image: the range of its text, the target and the title. -/
  | link (start stop : Nat) (target title : List Char)
  | image (start stop : Nat) (target title : List Char)
  /-- A footnote written in its place: the range of its text. -/
  | note (start stop : Nat)
  | noteRef (label : String)
  /-- An address in angle brackets. -/
  | autolink (target shown : List Char)
  | html (content : List Char)
deriving Repr, Inhabited

/-- What recognizing items depends on besides the position. -/
structure View where
  text : Array Char
  /-- The end of the part of the text that is read. -/
  stop : Nat
  /-- The plain characters read last, the last one first. -/
  pending : List Char
  /-- Whether the text belongs to a link. -/
  inLink : Bool
  references : List (String × Reference)
  /-- The labels of the footnotes that are defined. -/
  notes : List String
deriving Inhabited

/-- What is remembered of a text while its items are recognized. -/
structure Memory where
  /-- Where the items at positions that have been skipped before end. -/
  ends : Std.TreeMap Nat Nat := ∅
  /-- For each length the start of the last run of backticks that a search has passed by. -/
  runs : Std.TreeMap Nat Nat := ∅
  /-- Whether a search for a run of backticks has reached the end of the text. -/
  searched : Bool := false
deriving Inhabited

/-- A computation that skips items. -/
abbrev Skipping := StateM Memory

/-- A way to skip the item at a position. -/
abbrev Skip := Nat → Skipping Nat

namespace View

/-- The character at a position of the part that is read. -/
def at? (v : View) (p : Nat) : Option Char :=
  if p < v.stop then v.text[p]? else none

/-- The first position from `p` on with no blank and no line ending. -/
def skipBlanks (v : View) (p : Nat) : Nat :=
  skip v.text (fun c => isSpace c || c == '\n') p v.stop

/-! ## Plain characters, breaks and code -/

/-- Whether a character can start an item. -/
def startsItem (c : Char) : Bool :=
  "\n!#$%&*+-:<=>@[\\]^_\x60\x7b\x7d~".toList.contains c

/-- A run of plain characters. -/
def plain? (v : View) (p : Nat) : Option (Item × Nat) :=
  let q := skip v.text (fun c => !startsItem c) p v.stop
  if q == p then none else some (.plain (slice v.text p q), q)

/-- The word in front of an address: letters, digits and some marks, starting with a letter. -/
private def schemeWord : Pattern := .ofText "(?i)(?:^|[^a-z0-9.+-])([a-z][a-z0-9.+-]*)$"

/-- An address with a scheme, at the colon after the scheme. -/
def address? (v : View) (p : Nat) : Option (Item × Nat) :=
  if v.inLink || v.at? p != some ':' || v.at? (p + 1) != some '/' || v.at? (p + 2) != some '/' then none
  else
    match (schemeWord.find? v.pending.reverse.toArray).bind (·.group? 1) with
    | none => none
    | some (start, stop) =>
      let before := stop - start
      match Autolink.atStart? (v.text.extract (p - before) v.text.size) with
      | none => none
      | some url =>
        if url.length ≤ before then none
        else
          let url := (url.reverse.dropWhile (· == '*')).reverse
          match allowedTarget? url with
          | none => none
          | some target => some (.address before target (Url.display url), p + (url.length - before))

/-- The end of a line. -/
def lineEnd? (v : View) (p : Nat) : Option (Item × Nat) :=
  if v.text[p]? == some '\n' then some (.lineEnd, skip v.text isSpace (p + 1) v.stop) else none

/-- A character after a backslash. -/
def escape? (v : View) (p : Nat) : Option (Item × Nat) :=
  if v.text[p]? != some '\\' then none
  else match v.at? (p + 1) with
    | none => none
    | some '\n' => some (.hardBreak, skip v.text isSpace (p + 2) v.stop)
    | some c => some (.special (if isAsciiPunctuation c then [c] else ['\\', c]), p + 2)

/-- The start and the end of the next run of exactly `n` backticks; runs of other lengths on the way
to it are remembered. -/
def backticks? (v : View) (n : Nat) : Nat → Nat → Skipping (Option (Nat × Nat))
  | 0, _ => return none
  | fuel + 1, p => do
    let start := skip v.text (· != '\x60') p v.text.size
    if v.text.size ≤ start then
      modify fun m => { m with searched := true }
      return none
    let stop := skip v.text (· == '\x60') (start + 1) v.stop
    if stop - start == n then return some (start, stop)
    modify fun m => { m with runs := m.runs.insert (stop - start) start }
    v.backticks? n fuel stop

/-- The text of a piece of code: line endings count as spaces, and one space at both ends is left
out unless there are only spaces. -/
def codeText (cs : List Char) : List Char :=
  let cs := cs.map fun c => if c == '\n' then ' ' else c
  if cs.head? == some ' ' && cs.getLast? == some ' ' && cs.any (· != ' ') then
    cs.tail.dropLast
  else cs

/-- Code between runs of backticks, or a run of them that nothing closes. Once a search has reached
the end of the text, a run opens code only if a run of its length is remembered further on. -/
def code? (v : View) (p : Nat) : Skipping (Option (Item × Nat)) := do
  if v.text[p]? != some '\x60' then return none
  let q := skip v.text (· == '\x60') (p + 1) v.stop
  let plain := some (Item.plain (slice v.text p q), q)
  let m ← get
  if m.searched && m.runs.getD (q - p) 0 ≤ p then return plain
  match ← v.backticks? (q - p) (v.text.size - q + 1) q with
  | some (start, stop) => return some (.code (codeText (slice v.text q start)), stop)
  | none => return plain

/-! ## Brackets -/

/-- The position of the bracket that closes a label: the first one that is not part of an item and
not paired with an opening one. A strict label holds no links. -/
def labelEndFrom (v : View) (skip : Skip) (strict : Bool) : Nat → Nat → Nat → Skipping (Option Nat)
  | 0, _, _ => return none
  | fuel + 1, level, p => do
    match v.at? p with
    | none => return none
    | some c =>
      if c == ']' && level == 1 then return some p
      let level := if c == ']' then level - 1 else level
      let q ← skip p
      if c != '[' then labelEndFrom v skip strict fuel level q
      else if q == p + 1 then labelEndFrom v skip strict fuel (level + 1) q
      else if strict then return none
      else labelEndFrom v skip strict fuel level q

/-- The position of the bracket that closes the one at a position. -/
def labelEnd? (v : View) (skip : Skip) (strict : Bool) (p : Nat) : Skipping (Option Nat) :=
  v.labelEndFrom skip strict (v.stop - p + 1) 1 (p + 1)

/-- The target and the title after an opening parenthesis and the position after them; `none` where
the text ends before them. -/
def parenthesized? (v : View) (p : Nat) : Option (List Char × List Char × Nat) :=
  let p := v.skipBlanks p
  if v.stop ≤ p then none
  else
    let (target, p) : List Char × Nat :=
      match target? v.text p v.stop with
      | some (t, q) =>
        match allowedTarget? t with
        | some url => (url, q)
        | none => ([], p)
      | none => ([], p)
    let q := v.skipBlanks p
    match if q == p then TitleScan.invalid else scanTitle v.text q v.stop with
    | .closed title after => some (target, title, v.skipBlanks after)
    | _ => some (target, [], q)

/-- What the label of a reference, which may follow the text of a link in brackets of its own,
refers to, and the position after it. -/
def reference? (v : View) (skip : Skip) (start stop p : Nat) : Skipping (Option (Reference × Nat)) := do
  if v.references.isEmpty then return none
  let text := slice v.text start stop
  let (label, q) ←
    if v.at? p == some '[' then
      match ← v.labelEnd? skip false p with
      | some q => pure (slice v.text (p + 1) q, q + 1)
      | none => pure ([], stop + 1)
    else pure ([], stop + 1)
  let key := labelKey (if label.isEmpty then text else label)
  return (v.references.find? (·.1 == key)).map fun r => (r.2, q)

/-- A link. -/
def link? (v : View) (skip : Skip) (p : Nat) : Skipping (Option (Item × Nat)) := do
  if v.text[p]? != some '[' then return none
  let some stop ← v.labelEnd? skip true p | return none
  let byReference (q : Nat) : Skipping (Option (Item × Nat)) := do
    let some (r, q) ← v.reference? skip (p + 1) stop q | return none
    return some (.link (p + 1) stop r.target.toList r.title.toList, q)
  if v.at? (stop + 1) == some '(' then
    match v.parenthesized? (stop + 2) with
    | none => return none
    | some (target, title, q) =>
      if v.at? q == some ')' then return some (.link (p + 1) stop target title, q + 1)
      byReference (q + 1)
  else byReference (stop + 1)

/-- An image. -/
def image? (v : View) (skip : Skip) (p : Nat) : Skipping (Option (Item × Nat)) := do
  if v.text[p]? != some '!' || v.at? (p + 1) != some '[' then return none
  let some stop ← v.labelEnd? skip false (p + 1) | return none
  if v.at? (stop + 1) == some '(' then
    match v.parenthesized? (stop + 2) with
    | none => return none
    | some (target, title, q) =>
      if v.at? q == some ')' then return some (.image (p + 2) stop target title, q + 1)
      return none
  else
    let some (r, q) ← v.reference? skip (p + 2) stop (stop + 1) | return none
    return some (.image (p + 2) stop r.target.toList r.title.toList, q)

/-! ## Footnotes -/

/-- A footnote written in the place of its reference. -/
def note? (v : View) (skip : Skip) (p : Nat) : Skipping (Option (Item × Nat)) := do
  if v.at? p != some '^' || v.at? (p + 1) != some '[' || v.stop ≤ p + 2 then return none
  let some stop ← v.labelEnd? skip false (p + 1) | return none
  return some (.note (p + 2) stop, stop + 1)

/-- A reference to a footnote that is defined. -/
def noteRef? (v : View) (p : Nat) : Option (Item × Nat) :=
  if v.notes.isEmpty || v.at? p != some '[' || v.at? (p + 1) != some '^' then none
  else
    let q := Markup.skip v.text (fun c => c != ' ' && c != '\n' && c != ']') (p + 2) v.stop
    let label := String.ofList (slice v.text (p + 2) q)
    if v.at? q == some ']' && q != p + 2 && v.notes.contains label then some (.noteRef label, q + 1)
    else none

/-! ## Angle brackets and named characters -/

/-- An address with a scheme. -/
private def schemeAddress : Pattern := .ofText "^([a-zA-Z][a-zA-Z0-9+.\\-]\x7b1,31\x7d):([^<>\\x00-\\x20]*)$"

/-- A mail address. -/
private def mailAddress : Pattern :=
  let label := "[a-zA-Z0-9](?:[a-zA-Z0-9-]\x7b0,61\x7d[a-zA-Z0-9])?"
  .ofText ("^([a-zA-Z0-9.!#$%&'*+\\/=?^_\x60\x7b|\x7d~-]+@" ++ label ++ "(?:\\." ++ label ++ ")*)$")

/-- An address in angle brackets. -/
def autolink? (v : View) (p : Nat) : Option (Item × Nat) :=
  if v.text[p]? != some '<' then none
  else
    let q := Markup.skip v.text (fun c => c != '<' && c != '>') (p + 1) v.stop
    if v.at? q != some '>' then none
    else
      let url := slice v.text (p + 1) q
      let target :=
        if (schemeAddress.find? url.toArray).isSome then some url
        else if (mailAddress.find? url.toArray).isSome then some ("mailto:".toList ++ url)
        else none
      (target.bind allowedTarget?).map fun t => (.autolink t (Url.display url), q + 1)

/-- A piece of HTML. -/
def html? (v : View) (p : Nat) : Option (Item × Nat) :=
  if v.text[p]? != some '<' || v.stop ≤ p + 2 then none
  else match v.text[p + 1]? with
    | none => none
    | some c =>
      if c == '!' || c == '?' || c == '/' || c.isAlpha then
        (Html.tag.find? (v.text.extract p v.text.size)).map fun m =>
          (.html (slice v.text p (p + m.stop)), p + m.stop)
      else none

/-- A character written by its name or number. -/
def entity? (v : View) (p : Nat) : Option (Item × Nat) :=
  if v.text[p]? != some '&' || v.stop ≤ p + 1 then none
  else match Entity.split? (slice v.text (p + 1) (p + 35)) with
    | none => none
    | some (name, _) =>
      let found :=
        match name with
        | '#' :: ds =>
          (Entity.number? 7 6 ds).map fun n =>
            [if Entity.isCharacter n then Char.ofNat n else '\uFFFD']
        | _ => Entity.named? (String.ofList name)
      found.map fun cs => (.special cs, p + name.length + 2)

/-! ## All items -/

/-- The item at a position and the position after it. -/
def recognize (v : View) (skip : Skip) (p : Nat) : Skipping (Option (Item × Nat)) := do
  let first := v.plain? p <|> v.address? p <|> v.lineEnd? p <|> v.escape? p
  if first.isSome then return first
  if let some item ← v.code? p then return some item
  if let some item ← v.link? skip p then return some item
  if let some item ← v.image? skip p then return some item
  if let some item ← v.note? skip p then return some item
  return v.noteRef? p <|> v.autolink? p <|> v.html? p <|> v.entity? p

/-- The position after the item at a position, or after its character if there is no item. Items are
nested at most `room` deep; what is nested deeper is skipped to the end. -/
def skipItem (v : View) : Nat → Skip
  | 0 => fun p => do
    if let some q := (← get).ends[p]? then return q
    modify fun m => { m with ends := m.ends.insert p (v.stop + 1) }
    return v.stop + 1
  | room + 1 => fun p => do
    if let some q := (← get).ends[p]? then return q
    let q := match ← v.recognize (v.skipItem room) p with
      | some (_, q) => q
      | none => p + 1
    modify fun m => { m with ends := m.ends.insert p q }
    return q

end View

end ProposalCheck.Markup.Inline
