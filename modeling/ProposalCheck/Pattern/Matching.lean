import ProposalCheck.Pattern.Basic

/-!
# Matching a pattern

A node is run from a position of a text with the marks that groups have left so far and a
continuation for what follows; it tries its ways of matching in order and gives the first one with
which the continuation succeeds. `Pattern.find?` looks for the leftmost match.

What a failed attempt has marked is undone inside of repetitions only. Elsewhere an attempt leaves
behind where groups end that had started before it, which a later condition on such a group can
tell.
-/

namespace ProposalCheck

namespace Pattern

/-! ## Marks -/

/-- The positions that groups have marked: where the first one starts and ends, then the second one,
and so on, up to the last mark that has been made. -/
structure Marks where
  positions : Array (Option Nat) := #[]
deriving DecidableEq, Repr, Inhabited

namespace Marks

/-- Makes a mark. Marks before it that have not been made belong to groups that take no part. -/
def put (m : Marks) (index position : Nat) : Marks :=
  if index < m.positions.size then ⟨m.positions.setIfInBounds index (some position)⟩
  else ⟨(m.positions ++ Array.replicate (index - m.positions.size) none).push (some position)⟩

/-- What is left when an attempt that started with `m` has failed: with `undo` the marks are as
before, else marks have only been forgotten that were made after all those. -/
def after (m left : Marks) (undo : Bool) : Marks :=
  if undo then m else ⟨left.positions.extract 0 m.positions.size⟩

/-- Where a group starts and ends, if it has taken part. -/
def group? (m : Marks) (index : Nat) : Option (Nat × Nat) :=
  match m.positions[2 * (index - 1)]?, m.positions[2 * (index - 1) + 1]? with
  | some (some start), some (some stop) => some (start, stop)
  | _, _ => none

/-- Where a group starts and ends that is not under way again. -/
def closed? (m : Marks) (index : Nat) : Option (Nat × Nat) :=
  (m.group? index).filter fun g => g.1 ≤ g.2

end Marks

/-- What comes of an attempt: the end of a match, or the marks that a failure leaves behind. -/
inductive Outcome where
  | matched (stop : Nat) (marks : Marks)
  | failed (left : Marks)
deriving Repr, Inhabited

/-- Another attempt where the first one has failed. -/
def Outcome.orElse (o : Outcome) (next : Marks → Outcome) : Outcome :=
  match o with
  | matched stop marks => matched stop marks
  | failed left => next left

/-- A way to go on from a position. -/
abbrev Continuation := Nat → Marks → Outcome

/-- A matcher: from a position, with marks, towards a continuation. -/
abbrev Matcher := Nat → Marks → Continuation → Outcome

/-! ## Repetition -/

/-- Whether a count is below a maximum. -/
def isBelow (count : Nat) : Option Nat → Bool
  | some max => count < max
  | none => true

/-- Repeats as often as possible first. A repetition past the minimum may not follow one that has
matched nothing. -/
def repeatGreedy (step : Matcher) (min : Nat) (max : Option Nat) (k : Continuation) :
    Nat → Nat → Option Nat → Nat → Marks → Outcome
  | 0, _, _, p, m => k p m
  | fuel + 1, count, last, p, m =>
    if count < min then
      step p m (repeatGreedy step min max k fuel (count + 1) last)
    else if isBelow count max && last != some p then
      (step p m (repeatGreedy step min max k fuel (count + 1) (some p))).orElse fun _ => k p m
    else k p m

/-- Repeats as seldom as possible first. `undo` tells whether what follows is inside of another
repetition. -/
def repeatLazy (step : Matcher) (min : Nat) (max : Option Nat) (undo : Bool) (k : Continuation) :
    Nat → Nat → Option Nat → Nat → Marks → Outcome
  | 0, _, _, p, m => k p m
  | fuel + 1, count, last, p, m =>
    if count < min then
      step p m (repeatLazy step min max undo k fuel (count + 1) last)
    else
      (k p m).orElse fun left =>
        let m := m.after left undo
        if isBelow count max && last != some p then
          step p m (repeatLazy step min max undo k fuel (count + 1) (some p))
        else .failed m

/-- Repeats as often as possible, each time in the first way that matches. -/
def repeatPossessive (step : Matcher) (min : Nat) (max : Option Nat) :
    Nat → Nat → Nat → Marks → Outcome
  | 0, _, p, m => .matched p m
  | fuel + 1, count, p, m =>
    if count < min then
      match step p m .matched with
      | .matched q m => repeatPossessive step min max fuel (count + 1) q m
      | .failed left => .failed left
    else if isBelow count max then
      match step p m .matched with
      | .matched q m' =>
        if q == p then .matched q m' else repeatPossessive step min max fuel (count + 1) q m'
      | .failed _ => .matched p m
    else .matched p m

/-- The position after the longest run of characters that satisfy a test, at most `fuel` of them. -/
def runEnd (text : Array Char) (test : Char → Bool) : Nat → Nat → Nat
  | 0, p => p
  | fuel + 1, p =>
    match text[p]? with
    | some c => if test c then runEnd text test fuel (p + 1) else p
    | none => p

/-- Goes on from the latest position first, down to `least`. -/
def tryDown (least : Nat) (undo : Bool) (k : Continuation) : Nat → Marks → Outcome
  | 0, m =>
    if least == 0 then (k 0 m).orElse fun left => .failed (m.after left undo) else .failed m
  | p + 1, m =>
    if p + 1 < least then .failed m
    else (k (p + 1) m).orElse fun left => tryDown least undo k p (m.after left undo)

/-- Goes on from the earliest position first, up to `fuel` characters later as long as they satisfy
a test. -/
def tryUp (text : Array Char) (test : Char → Bool) (undo : Bool) (k : Continuation) :
    Nat → Nat → Marks → Outcome
  | 0, p, m => (k p m).orElse fun left => .failed (m.after left undo)
  | fuel + 1, p, m =>
    (k p m).orElse fun left =>
      let m := m.after left undo
      match text[p]? with
      | some c => if test c then tryUp text test undo k fuel (p + 1) m else .failed m
      | none => .failed m

/-! ## Single parts -/

/-- Whether a character belongs to a set. -/
def setHas (k : Comparison) (negated : Bool) (items : List SetItem) (c : Char) : Bool :=
  let found :=
    match k with
    | .exact => items.any (·.has c)
    | _ => let folded := k.fold c; items.any (·.hasFolded k folded)
  found != negated

/-- The test of a part that always takes one character. -/
def Node.single? : Node → Option (Char → Bool)
  | .any lineFeedToo => some fun c => lineFeedToo || c != '\n'
  | .char k negated code => some fun c => k.same code c != negated
  | .set k negated items => some (setHas k negated items)
  | .group none body => body.single?
  | _ => none

/-- Whether a word character stands on exactly one side of a position. -/
def atBoundary (text : Array Char) (ascii : Bool) (p : Nat) : Bool :=
  let isWord (c? : Option Char) : Bool :=
    match c? with
    | some c => Category.word.has ascii c
    | none => false
  isWord (if p == 0 then none else text[p - 1]?) != isWord text[p]?

/-- Whether an anchor holds at a position. -/
def Anchor.holds (a : Anchor) (text : Array Char) (p : Nat) : Bool :=
  match a with
  | start => p == 0
  | lineStart => p == 0 || text[p - 1]? == some '\n'
  | finish => p == text.size || (p + 1 == text.size && text[p]? == some '\n')
  | lineEnd => p == text.size || text[p]? == some '\n'
  | strictEnd => p == text.size
  | boundary ascii => text.size != 0 && atBoundary text ascii p
  | nonBoundary ascii => text.size != 0 && !atBoundary text ascii p

/-- Whether the text at a position repeats an earlier part of `length` characters. -/
def repeatsAt (text : Array Char) (k : Comparison) (start length p : Nat) : Bool :=
  p + length ≤ text.size &&
    (List.range length).all fun i =>
      match text[start + i]?, text[p + i]? with
      | some a, some b => k.fold a == k.fold b
      | _, _ => false

/-- Goes on behind a character that satisfies a test. -/
def takeOne (text : Array Char) (test : Char → Bool) : Matcher := fun p m k =>
  match text[p]? with
  | some c => if test c then k (p + 1) m else .failed m
  | none => .failed m

/-! ## Running a node -/

/-- Repeats a single character between `min` and `max` times. -/
def repeatSingle (text : Array Char) (greed : Greed) (min : Nat) (max : Option Nat) (undo : Bool)
    (test : Char → Bool) : Matcher := fun p m k =>
  let left := text.size - p
  let limit := match max with
    | some n => Nat.min n left
    | none => left
  if left < min then .failed m
  else match greed with
    | .greedy => tryDown (p + min) undo k (runEnd text test limit p) m
    | .lazy =>
      if runEnd text test min p < p + min then .failed m
      else tryUp text test undo k (limit - min) (p + min) m
    | .possessive =>
      let q := runEnd text test limit p
      if q < p + min then .failed m else k q m

/-- Runs a node from a position. `undo` tells whether it is inside of a repetition. -/
def Node.run (text : Array Char) : Node → Bool → Matcher
  | .empty, _, p, m, k => k p m
  | .any lineFeedToo, _, p, m, k => takeOne text (fun c => lineFeedToo || c != '\n') p m k
  | .char f negated code, _, p, m, k => takeOne text (fun c => f.same code c != negated) p m k
  | .set f negated items, _, p, m, k => takeOne text (setHas f negated items) p m k
  | .anchor a, _, p, m, k => if a.holds text p then k p m else .failed m
  | .cat a b, undo, p, m, k => a.run text undo p m fun p m => b.run text undo p m k
  | .alt a b, undo, p, m, k =>
    (a.run text undo p m k).orElse fun left =>
      (b.run text undo p (m.after left undo) k).orElse fun left => .failed (m.after left undo)
  | .repetition greed min max body, undo, p, m, k =>
    match body.single? with
    | some test => repeatSingle text greed min max undo test p m k
    | none =>
      let fuel := min + (text.size - p) + 2
      match greed with
      | .greedy => repeatGreedy (body.run text true) min max k fuel 0 none p m
      | .lazy => repeatLazy (body.run text true) min max undo k fuel 0 none p m
      | .possessive =>
        match repeatPossessive (body.run text undo) min max fuel 0 p m with
        | .matched q m => k q m
        | .failed left => .failed left
  | .group none body, undo, p, m, k => body.run text undo p m k
  | .group (some index) body, undo, p, m, k =>
    body.run text undo p (m.put (2 * (index - 1)) p) fun q m =>
      k q (m.put (2 * (index - 1) + 1) q)
  | .look behind negated body, undo, p, m, k =>
    let attempt : Outcome :=
      match behind with
      | none => body.run text undo p m .matched
      | some width =>
        if width ≤ p then body.run text undo (p - width) m .matched else .failed m
    match negated, attempt with
    | false, .matched _ m => k p m
    | false, .failed left => .failed left
    | true, .matched _ m => .failed m
    | true, .failed left => k p (m.after left undo)
  | .reference f index, _, p, m, k =>
    match m.closed? index with
    | some (start, stop) =>
      if repeatsAt text f start (stop - start) p then k (p + (stop - start)) m else .failed m
    | none => .failed m
  | .conditional index yes no, undo, p, m, k =>
    if (m.closed? index).isSome then yes.run text undo p m k else no.run text undo p m k
  | .atomic body, undo, p, m, k =>
    match body.run text undo p m .matched with
    | .matched q m => k q m
    | .failed left => .failed left

/-- A match in a text: the positions of its first character and past its last one, and the marks of
the groups. -/
structure Match where
  start : Nat
  stop : Nat
  marks : Marks
deriving DecidableEq, Repr, Inhabited

/-- Where a group of a match starts and ends, if it has taken part. -/
def Match.group? (m : Match) (index : Nat) : Option (Nat × Nat) :=
  m.marks.group? index

/-- The set that the first character of every match belongs to, where a pattern starts with one. -/
def Node.firstSet? : Node → Option (Bool × List SetItem)
  | .set .exact negated items => some (negated, items)
  | .cat a _ => a.firstSet?
  | .group _ body => body.firstSet?
  | _ => none

end Pattern

namespace Pattern

/-- The match that starts at a position. With `nonempty` the match has to take a character. -/
def matchAt? (r : Pattern) (text : Array Char) (start : Nat) (nonempty : Bool) : Option Match :=
  match r.node.run text false start {} fun q m =>
      if nonempty && q == start then .failed m else .matched q m with
  | .matched stop marks => some ⟨start, stop, marks⟩
  | .failed _ => none

/-- Whether a match may start with a character. Here classes have the meaning that they have outside
of groups with options. -/
def mayStart (r : Pattern) : Option Char → Bool :=
  match r.node.firstSet? with
  | none => fun _ => true
  | some (negated, items) =>
    let items := items.map fun i =>
      match i with
      | .category c negated _ => SetItem.category c negated r.ascii
      | i => i
    fun c? => c?.any (setHas .exact negated items)

/-- The leftmost match that starts within `fuel` characters of a position. -/
def findFrom (r : Pattern) (text : Array Char) (nonempty : Bool) : Nat → Nat → Option Match
  | 0, p => if r.mayStart text[p]? then r.matchAt? text p nonempty else none
  | fuel + 1, p =>
    match if r.mayStart text[p]? then r.matchAt? text p nonempty else none with
    | some m => some m
    | none => findFrom r text false fuel (p + 1)

/-- The leftmost match in a text. -/
def find? (r : Pattern) (text : Array Char) : Option Match :=
  r.findFrom text false text.size 0

/-- Whether a group of a match starts behind its end, which happens when a group is left half-way by
a failed attempt that is not undone. Such a match is of no use. -/
def isGarbled (r : Pattern) (m : Match) : Bool :=
  (List.range r.groups).any fun i =>
    match m.group? (i + 1) with
    | some (start, stop) => stop < start
    | none => false

/-- The matches from a position on, each starting where the one before ends or later. -/
def findAllFrom (r : Pattern) (text : Array Char) : Nat → Bool → Nat → List Match
  | 0, _, _ => []
  | fuel + 1, nonempty, p =>
    if text.size < p then []
    else match r.findFrom text nonempty (text.size - p) p with
      | none => []
      | some m => m :: findAllFrom r text fuel (m.stop == m.start) m.stop

/-- All matches in a text, from left to right, without overlap. -/
def findAll (r : Pattern) (text : Array Char) : List Match :=
  r.findAllFrom text (2 * text.size + 2) false 0

end Pattern

end ProposalCheck
