import ProposalCheck.Markup.Character
import ProposalCheck.Markup.Event

/-!
# Emphasis

Runs of asterisks, underscores and tildes may open or close emphasis. Each mark of a run is an event
of its own at first; `pairUp` finds the marks that belong together, and `strike` and `emphasize`
turn their events into openings and closings.
-/

namespace ProposalCheck.Markup.Inline

/-- A mark that may open or close emphasis. -/
structure Delimiter where
  marker : Char
  /-- The length of the run, zero for marks that pair regardless of lengths. -/
  length : Nat
  /-- The index of the mark's event. -/
  event : Nat
  opens : Bool
  closes : Bool
  /-- The index of the delimiter that closes what this one opens. -/
  partner : Option Nat := none
deriving Repr, Inhabited

/-! ## Runs -/

/-- A run of one character: its length, and whether it can open and close emphasis. -/
structure Run where
  length : Nat
  opens : Bool
  closes : Bool
deriving Repr, Inhabited

/-- The run of a character at a position. Unless words can be split, a run between letters neither
opens nor closes. -/
def scanRun (text : Array Char) (c : Char) (p stop : Nat) (splitsWords : Bool) : Run :=
  let q := skip text (· == c) p stop
  let before := if p == 0 then ' ' else (text[p - 1]?).getD ' '
  let after := if q < stop then (text[q]?).getD ' ' else ' '
  let left := !(isWhite after || (isPunctuation after && !(isWhite before || isPunctuation before)))
  let right := !(isWhite before || (isPunctuation before && !(isWhite after || isPunctuation after)))
  { length := q - p
    opens := left && (splitsWords || !right || isPunctuation before)
    closes := right && (splitsWords || !left || isPunctuation after) }

/-! ## Pairing -/

/-- Whether the lengths of two runs forbid that they pair: one of them could both open and close,
and their sum, but not both of them, is divisible by three. -/
def forbidden (opener closer : Delimiter) : Bool :=
  (opener.closes || closer.opens) && (opener.length + closer.length) % 3 == 0
    && (opener.length % 3 != 0 || closer.length % 3 != 0)

/-- The state of pairing. -/
structure Pairing where
  delimiters : Array Delimiter
  /-- For each delimiter seen, how many before it need not be looked at. -/
  jumps : Array Nat := #[]
  /-- The first delimiter of the current run. -/
  header : Nat := 0
  /-- The event of the last delimiter, if it may belong to the current run. -/
  last : Option Nat := none
  /-- For each kind of closer, the delimiter before which there is no opener for it. -/
  bottoms : List ((Char × Bool × Nat) × Int) := []
deriving Inhabited

/-- The nearest opener for a closer from index `i` down to above `bottom`. -/
def findOpener (s : Pairing) (closer : Delimiter) (bottom : Int) : Nat → Int → Option Nat
  | 0, _ => none
  | fuel + 1, i =>
    if i ≤ bottom || i < 0 then none
    else match s.delimiters[i.toNat]? with
      | none => none
      | some o =>
        if o.marker == closer.marker && o.opens && o.partner.isNone && !forbidden o closer then
          some i.toNat
        else findOpener s closer bottom fuel (i - ((s.jumps[i.toNat]?).getD 0 + 1 : Nat))

/-- Marks two delimiters as partners. -/
def Pairing.join (s : Pairing) (opener closer : Nat) : Pairing :=
  let blocked := opener != 0 && match s.delimiters[opener - 1]? with
    | some d => !d.opens
    | none => false
  let jump := if blocked then (s.jumps[opener - 1]?).getD 0 + 1 else 0
  { s with
    delimiters := (s.delimiters.modify closer fun d => { d with opens := false }).modify opener
      fun d => { d with partner := some closer, closes := false }
    jumps := (s.jumps.setIfInBounds closer (closer - opener + jump)).setIfInBounds opener jump
    last := none }

/-- Looks for the opener of the delimiter at an index. -/
def Pairing.step (s : Pairing) (k : Nat) : Pairing :=
  match s.delimiters[k]? with
  | none => s
  | some closer =>
    let inRun := s.last.map (· + 1) == some closer.event
      && (match s.delimiters[s.header]? with
        | some d => d.marker == closer.marker
        | none => false)
    let s := { s with
      jumps := s.jumps.push 0, header := if inRun then s.header else k, last := some closer.event }
    if !closer.closes then s
    else
      let key := (closer.marker, closer.opens, closer.length % 3)
      let bottom : Int := ((s.bottoms.find? (·.1 == key)).map (·.2)).getD (-1)
      let start : Int := (s.header : Int) - ((s.jumps[s.header]?).getD 0 : Nat) - 1
      match findOpener s closer bottom (k + 1) start with
      | some o => s.join o k
      | none =>
        if start == -1 then s
        else { s with bottoms := (key, start) :: s.bottoms.filter (·.1 != key) }

/-- The delimiters with their partners. -/
def pairUp (ds : Array Delimiter) : Array Delimiter :=
  ((List.range ds.size).foldl Pairing.step { delimiters := ds }).delimiters

/-! ## Openings and closings -/

/-- The events with those of a pair turned into the ends of a construct. -/
def markPair (es : Array Event) (c : Construct) (opener closer : Nat) : Array Event :=
  (es.setIfInBounds opener (.opening c none)).setIfInBounds closer (.closing c)

/-- Whether an event closes a construct. -/
def closes (c : Construct) : Event → Bool
  | .closing d => d == c
  | _ => false

/-- The end of the run of closings of a construct from an index on. -/
def closingsEnd (es : Array Event) (c : Construct) : Nat → Nat → Nat
  | 0, i => i
  | fuel + 1, i =>
    match es[i]? with
    | some e => if closes c e then closingsEnd es c fuel (i + 1) else i
    | none => i

/-- Moves the single mark at an index behind the closings that follow it. -/
def moveBehind (es : Array Event) (i : Nat) : Array Event :=
  let j := closingsEnd es .strikethrough (es.size - i) (i + 1) - 1
  match es[i]?, es[j]? with
  | some a, some b => (es.setIfInBounds i b).setIfInBounds j a
  | _, _ => es

/-- Turns paired tildes into strikethrough. A single tilde before a closing pair moves behind all
the closings there. -/
def strike (ds : Array Delimiter) (es : Array Event) : Array Event :=
  let (es, lone) := ds.foldl (fun (es, lone) d =>
    match d.marker == '~', d.partner.bind (ds[·]?) with
    | true, some closer =>
      let es := markPair es .strikethrough d.event closer.event
      let before := closer.event - 1
      match es[before]? with
      | some e => if e.text? == some "~" then (es, before :: lone) else (es, lone)
      | none => (es, lone)
    | _, _ => (es, lone)) (es, ([] : List Nat))
  lone.foldl moveBehind es

/-- Whether a delimiter and the one before it open strong emphasis together: both stand together,
and so do their partners. -/
def isStrong (ds : Array Delimiter) (i : Nat) (d : Delimiter) (partner : Nat) : Bool :=
  match (if i == 0 then none else ds[i - 1]?), ds[partner]?, ds[partner + 1]? with
  | some before, some closer, some after =>
    before.partner == some (partner + 1) && before.marker == d.marker
      && before.event + 1 == d.event && after.event == closer.event + 1
  | _, _, _ => false

/-- Turns paired asterisks and underscores into emphasis, the delimiters below index `i`, last one
first. With `merged` the first of them belongs to strong emphasis already. -/
def emphasizeBelow (ds : Array Delimiter) : Nat → Bool → Array Event → Array Event
  | 0, _, es => es
  | i + 1, merged, es =>
    match merged, ds[i]? with
    | false, some d =>
      match (d.marker == '_' || d.marker == '*'), d.partner with
      | true, some partner =>
        match ds[partner]? with
        | none => emphasizeBelow ds i false es
        | some closer =>
          if isStrong ds i d partner then
            let es := markPair es .strong d.event closer.event
            let es := (es.setIfInBounds (d.event - 1) (.text "")).setIfInBounds (closer.event + 1)
              (.text "")
            emphasizeBelow ds i true es
          else emphasizeBelow ds i false (markPair es .emphasis d.event closer.event)
      | _, _ => emphasizeBelow ds i false es
    | _, _ => emphasizeBelow ds i false es

/-- Turns paired asterisks and underscores into emphasis. -/
def emphasize (ds : Array Delimiter) (es : Array Event) : Array Event :=
  emphasizeBelow ds ds.size false es

/-! ## Texts -/

/-- Joins texts that follow each other. -/
def joinTexts : List Event → List Event
  | [] => []
  | e :: es =>
    match joinTexts es with
    | [] => [e]
    | f :: fs =>
      match e.text?, f.text? with
      | some a, some b => .text (a ++ b) :: fs
      | _, _ => e :: f :: fs

/-- The events with special characters made part of the texts around them. -/
def joinSpecials (es : List Event) : List Event :=
  joinTexts (es.map fun e =>
    match e with
    | .leaf (.special s) _ _ => .text s
    | e => e)

end ProposalCheck.Markup.Inline
