import ProposalCheck.Markup.Character
import ProposalCheck.Markup.Entity
import ProposalCheck.Markup.Url
import ProposalCheck.Text.Numeral

/-!
# Link targets, titles and labels

Where a link leads is written between angle brackets or as a run of characters with balanced
parentheses; a title stands in quotes or parentheses. In both, backslashes escape punctuation and
characters may be written by name or number.
-/

namespace ProposalCheck.Markup

/-- What a label of a link reference refers to. -/
structure Reference where
  target : String
  title : String
deriving DecidableEq, Repr, Inhabited

/-! ## Escapes -/

/-- The value of a text of digits. -/
private def digitsValue (base : Nat) (cs : List Char) : Nat :=
  cs.foldl (fun n c => base * n + Url.hexValue c) 0

/-- The number in a reference to a character, which stands after `#`, within limits of length. -/
def Entity.number? (decimals hexadecimals : Nat) : List Char → Option Nat
  | 'x' :: ds => hex ds
  | 'X' :: ds => hex ds
  | ds =>
    if !ds.isEmpty && ds.length ≤ decimals && ds.all Char.isDigit then some (digitsValue 10 ds) else none
where
  hex (ds : List Char) : Option Nat :=
    if !ds.isEmpty && ds.length ≤ hexadecimals && ds.all Url.isHex then some (digitsValue 16 ds)
    else none

/-- The name between an ampersand and a semicolon: a letter or number sign, then up to 31 letters
and digits. The text starts after the ampersand; what follows the semicolon is left over. -/
def Entity.split? : List Char → Option (List Char × List Char)
  | [] => none
  | c :: r =>
    if c.isAlpha || c == '#' then
      let tail := r.takeWhile Char.isAlphanum
      match r.drop tail.length with
      | ';' :: rest => if !tail.isEmpty && tail.length ≤ 31 then some (c :: tail, rest) else none
      | _ => none
    else none

/-- The characters that a name or a number between an ampersand and a semicolon stands for. -/
def Entity.characters? (name : List Char) : Option (List Char) :=
  match named? (String.ofList name) with
  | some cs => some cs
  | none =>
    match name with
    | '#' :: ds =>
      match number? 8 8 ds with
      | some n => if isCharacter n then some [Char.ofNat n] else none
      | none => none
    | _ => none

/-- The text without its escapes, for texts of at most `fuel` characters. -/
def unescapeFrom : Nat → List Char → List Char
  | 0, cs => cs
  | _, [] => []
  | fuel + 1, '\\' :: c :: r =>
    if isAsciiPunctuation c then c :: unescapeFrom fuel r else '\\' :: unescapeFrom fuel (c :: r)
  | fuel + 1, '&' :: r =>
    match Entity.split? r with
    | some (name, rest) =>
      match Entity.characters? name with
      | some cs => cs ++ unescapeFrom fuel rest
      | none => '&' :: name ++ ';' :: unescapeFrom fuel rest
    | none => '&' :: unescapeFrom fuel r
  | fuel + 1, c :: r => c :: unescapeFrom fuel r

/-- The text without its escapes. -/
def unescape (cs : List Char) : List Char :=
  unescapeFrom cs.length cs

/-! ## Targets -/

/-- The end of a target between angle brackets, if it is closed. -/
def angleEnd? (text : Array Char) (stop : Nat) : Nat → Nat → Option Nat
  | 0, _ => none
  | fuel + 1, p =>
    if stop ≤ p then none
    else match text[p]? with
      | some '\n' => none
      | some '<' => none
      | some '>' => some p
      | some '\\' => angleEnd? text stop fuel (if p + 1 < stop then p + 2 else p + 1)
      | _ => angleEnd? text stop fuel (p + 1)

/-- The end of a target that is not in brackets, and how many parentheses are open there; `none`
when too many are open on the way. -/
def plainEnd? (text : Array Char) (stop : Nat) : Nat → Nat → Nat → Option (Nat × Nat)
  | 0, level, p => some (p, level)
  | fuel + 1, level, p =>
    if stop ≤ p then some (p, level)
    else match text[p]? with
      | none => some (p, level)
      | some c =>
        if c == ' ' || isControl c then some (p, level)
        else if c == '\\' && p + 1 < stop then
          if text[p + 1]? == some ' ' then some (p, level) else plainEnd? text stop fuel level (p + 2)
        else if c == '(' then
          if level + 1 > 32 then none else plainEnd? text stop fuel (level + 1) (p + 1)
        else if c == ')' then
          if level == 0 then some (p, level) else plainEnd? text stop fuel (level - 1) (p + 1)
        else plainEnd? text stop fuel level (p + 1)

/-- The target at a position and the position after it. -/
def target? (text : Array Char) (p stop : Nat) : Option (List Char × Nat) :=
  if text[p]? == some '<' then
    (angleEnd? text stop (stop - p) (p + 1)).map fun q => (unescape (slice text (p + 1) q), q + 1)
  else
    match plainEnd? text stop (stop - p) 0 p with
    | some (q, 0) => if q == p then none else some (unescape (slice text p q), q)
    | _ => none

/-! ## Titles -/

/-- The state of reading a title: read to its end, not a title, or open at the end of the text, with
what has been read so far and the character that closes it. -/
inductive TitleScan where
  | closed (title : List Char) (after : Nat)
  | invalid
  | unclosed (title : List Char) (closer : Char)
deriving Repr, Inhabited

/-- The position of the character that closes a title: `none` where a parenthesis opens inside
parentheses. -/
def titleEnd (text : Array Char) (closer : Char) (stop : Nat) : Nat → Nat → Option Nat
  | 0, p => some p
  | fuel + 1, p =>
    if stop ≤ p then some p
    else match text[p]? with
      | none => some p
      | some c =>
        if c == closer then some p
        else if c == '(' && closer == ')' then none
        else if c == '\\' && p + 1 < stop then titleEnd text closer stop fuel (p + 2)
        else titleEnd text closer stop fuel (p + 1)

/-- Goes on reading a title. -/
def continueTitle (text : Array Char) (read : List Char) (closer : Char) (p stop : Nat) : TitleScan :=
  match titleEnd text closer stop (stop - p) p with
  | none => .invalid
  | some q =>
    let title := read ++ unescape (slice text p q)
    if q < stop then .closed title (q + 1) else .unclosed title closer

/-- Reads the title at a position. -/
def scanTitle (text : Array Char) (p stop : Nat) : TitleScan :=
  if stop ≤ p then .invalid
  else match text[p]? with
    | some '"' => continueTitle text [] '"' (p + 1) stop
    | some '\'' => continueTitle text [] '\'' (p + 1) stop
    | some '(' => continueTitle text [] ')' (p + 1) stop
    | _ => .invalid

/-! ## Labels -/

/-- The text with every run of white space replaced by a single space. -/
def collapseBlanks : List Char → List Char
  | [] => []
  | [c] => [if isWhite c then ' ' else c]
  | c :: d :: r =>
    if isWhite c then
      if isWhite d then collapseBlanks (d :: r) else ' ' :: collapseBlanks (d :: r)
    else c :: collapseBlanks (d :: r)

/-- The form of a label in which labels are compared: without regard to case and to how white space
is written. -/
def labelKey (label : List Char) : String :=
  Text.caseKey (String.ofList (collapseBlanks (trimWhite label)))

/-- The stored form of a target, if links may lead to it. -/
def allowedTarget? (target : List Char) : Option (List Char) :=
  let url := Url.normalize target
  if Url.isAllowed url then some url else none

end ProposalCheck.Markup
