import ProposalCheck.Markup.Block.Interruption
import ProposalCheck.Markup.Target

/-!
# Definitions of link references

A definition gives a target and perhaps a title to a label: `[label]: target 'title'`. It may go on
over several lines, as long as a paragraph would.
-/

namespace ProposalCheck.Markup.Block

/-- The characters of a definition gathered so far and the line that would come next. -/
structure Gathered where
  chars : Array Char
  next : Nat
deriving Repr, Inhabited

namespace Gathered

/-- Adds the next line, unless the paragraph ends before it. -/
def extend? (ctx : Context) (g : Gathered) : Option Gathered :=
  let i := g.next
  if ctx.limit ≤ i || ctx.isEmpty i then none
  else if !ctx.isCode i && 0 ≤ (ctx.line i).indent && interrupts ctx .definition i ctx.limit then none
  else
    let l := ctx.line i
    some { chars := g.chars ++ ctx.text.extract l.content (l.stop + 1), next := i + 1 }

/-- Adds the next line if there is one. -/
def extend (ctx : Context) (g : Gathered) : Gathered :=
  (g.extend? ctx).getD g

/-- The position of the bracket that closes a label. -/
def labelEnd? (ctx : Context) : Nat → Gathered → Nat → Option (Gathered × Nat)
  | 0, _, _ => none
  | fuel + 1, g, p =>
    match g.chars[p]? with
    | none => none
    | some '[' => none
    | some ']' => some (g, p)
    | some '\n' => labelEnd? ctx fuel (g.extend ctx) (p + 1)
    | some '\\' =>
      if g.chars[p + 1]? == some '\n' then labelEnd? ctx fuel (g.extend ctx) (p + 2)
      else labelEnd? ctx fuel g (p + 2)
    | _ => labelEnd? ctx fuel g (p + 1)

/-- The first position from `p` on with no blank and no line ending. -/
def skipBlanks (ctx : Context) : Nat → Gathered → Nat → Gathered × Nat
  | 0, g, p => (g, p)
  | fuel + 1, g, p =>
    match g.chars[p]? with
    | some '\n' => skipBlanks ctx fuel (g.extend ctx) (p + 1)
    | some ' ' => skipBlanks ctx fuel g (p + 1)
    | some '\t' => skipBlanks ctx fuel g (p + 1)
    | _ => (g, p)

/-- Goes on reading a title over the lines that follow: how the reading ends, what has been
gathered, and where its last part starts. -/
def closeTitle (ctx : Context) : Nat → Gathered → Nat → TitleScan → TitleScan × Gathered × Nat
  | fuel + 1, g, p, .unclosed title closer =>
    match g.extend? ctx with
    | none => (.unclosed title closer, g, p)
    | some g' =>
      let q := g.chars.size
      closeTitle ctx fuel g' q (continueTitle g'.chars title closer q g'.chars.size)
  | _, g, p, scan => (scan, g, p)

/-- The position after the spaces and tabs at a position. -/
def skipSpaces (g : Gathered) (p : Nat) : Nat :=
  skip g.chars isSpace p g.chars.size

/-- Whether a line ends at a position. -/
def endsLine (g : Gathered) (p : Nat) : Bool :=
  g.chars.size ≤ p || g.chars[p]? == some '\n'

end Gathered

/-- The definition that starts at a line: its label, what it refers to, and the line after it. -/
def definition? (ctx : Context) (i : Nat) : Option (String × Reference × Nat) := do
  if ctx.isCode i || ctx.first? i != some '[' then none
  let fuel := ctx.text.size + 2
  let l := ctx.line i
  let start : Gathered := { chars := ctx.text.extract l.content (l.stop + 1), next := i + 1 }
  let (g, close) ← start.labelEnd? ctx fuel 1
  if g.chars[close + 1]? != some ':' then none
  let (g, p) := g.skipBlanks ctx fuel (close + 2)
  let (target, afterTarget) ← target? g.chars p g.chars.size
  let target ← allowedTarget? target
  let lineOfTarget := g.next
  let (g, p) := g.skipBlanks ctx fuel afterTarget
  let (scan, g, p) := g.closeTitle ctx fuel p (scanTitle g.chars p g.chars.size)
  let (title, p, next) :=
    match scan with
    | .closed title after =>
      if p != afterTarget then (title, after, g.next) else ([], afterTarget, lineOfTarget)
    | _ => ([], afterTarget, lineOfTarget)
  let p := g.skipSpaces p
  let (title, p, next) :=
    if !g.endsLine p && !title.isEmpty then ([], g.skipSpaces afterTarget, lineOfTarget)
    else (title, p, next)
  if !g.endsLine p then none
  let key := labelKey (slice g.chars 1 close)
  if key.isEmpty then none
  return (key, { target := String.ofList target, title := String.ofList title }, next)

end ProposalCheck.Markup.Block
