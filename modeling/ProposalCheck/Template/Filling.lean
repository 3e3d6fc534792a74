import ProposalCheck.Template.Layout

/-!
# Templates

A template is a text with fields between braces, which are filled with one argument: `{}` and `{0}`
stand for the argument itself. A field may take a part of the argument, convert it to its quoted
form and say how it is laid out; a layout may hold fields again. A brace that is text is written
twice.
-/

namespace ProposalCheck

namespace Template

/-- The categories that arguments and their parts belong to. A category is a part that can be asked
for. -/
inductive Category where
  | plain (kind : Kind)
  | category
  /-- The category that all others belong under. -/
  | anything
  | row
  | nothing
deriving DecidableEq, Repr, Inhabited

namespace Category

/-- The name of a category. -/
def name : Category → String
  | plain kind => kind.name
  | category => "type"
  | anything => "object"
  | row => "tuple"
  | nothing => "NoneType"

/-- A category inside other text. -/
def quoted (c : Category) : String :=
  "<class '" ++ c.name ++ "'>"

/-- The categories above a category. -/
def above : Category → List Category
  | anything => []
  | _ => [anything]

end Category

end Template

/-- Why a template cannot be filled. -/
inductive TemplateError where
  | loneBrace (c : Char)
  | braceInName
  | unclosedField
  | missingConversion
  | textAfterConversion
  | unclosedLayout
  | nestedTooDeep
  | unknownConversion (c : Char)
  | switchToAutomatic
  | switchToManual
  | textAfterBracket
  | emptyPart
  | unclosedBracket
  /-- There is no argument of this number. -/
  | noArgument (index : Nat)
  /-- There is no argument of this name. -/
  | unknownName (name : String)
  /-- Something of a category has no attribute of this name. -/
  | noAttribute (c : Template.Category) (name : String)
  /-- A category has no attribute of this name. -/
  | noCategoryAttribute (c : Template.Category) (name : String)
  | noItems (c : Template.Category)
  | noCategoryItems (c : Template.Category)
  /-- Something is asked for the item of a name, while it has numbered ones. -/
  | itemName (c : Template.Category)
  | itemOutOfRange (c : Template.Category)
  /-- Nothing of this category can be laid out. -/
  | noLayout (c : Template.Category)
  | layout (e : Template.LayoutError)
deriving DecidableEq, Repr, Inhabited

namespace TemplateError

/-- The wording of the error. -/
def message : TemplateError → String
  | loneBrace c => "Single '" ++ String.ofList [c] ++ "' encountered in format string"
  | braceInName => "unexpected '\x7b' in field name"
  | unclosedField => "expected '\x7d' before end of string"
  | missingConversion => "end of string while looking for conversion specifier"
  | textAfterConversion => "expected ':' after conversion specifier"
  | unclosedLayout => "unmatched '\x7b' in format spec"
  | nestedTooDeep => "Max string recursion exceeded"
  | unknownConversion c =>
    "Unknown conversion specifier " ++
      (if 32 < c.toNat && c.toNat < 127 then String.ofList [c]
      else "\\x" ++ String.ofList (Nat.toDigits 16 c.toNat))
  | switchToAutomatic =>
    "cannot switch from manual field specification to automatic field numbering"
  | switchToManual =>
    "cannot switch from automatic field numbering to manual field specification"
  | textAfterBracket => "Only '.' or '[' may follow ']' in format field specifier"
  | emptyPart => "Empty attribute in format string"
  | unclosedBracket => "Missing ']' in format string"
  | noArgument i =>
    "Replacement index " ++ toString i ++ " out of range for positional args tuple"
  | unknownName name => Text.quoted name
  | noAttribute c name => "'" ++ c.name ++ "' object has no attribute " ++ Text.quoted name
  | noCategoryAttribute c name =>
    "type object '" ++ c.name ++ "' has no attribute " ++ Text.quoted name
  | noItems c => "'" ++ c.name ++ "' object is not subscriptable"
  | noCategoryItems c => "type '" ++ c.name ++ "' is not subscriptable"
  | itemName .row => "tuple indices must be integers or slices, not str"
  | itemName _ => "string indices must be integers, not 'str'"
  | itemOutOfRange .row => "tuple index out of range"
  | itemOutOfRange _ => "string index out of range"
  | noLayout c => "unsupported format string passed to " ++ c.name ++ ".__format__"
  | layout e => e.message

/-- Whether the template is well formed but asks for something that its argument does not have, or
for a layout that the argument is too large for. -/
def isMisfit : TemplateError → Bool
  | noArgument _ => true
  | unknownName _ => true
  | noAttribute _ _ => true
  | noCategoryAttribute _ _ => true
  | noItems _ => true
  | noCategoryItems _ => true
  | itemName _ => true
  | itemOutOfRange _ => true
  | noLayout _ => true
  | layout .noCharacter => true
  | layout .tooLargeForCharacter => true
  | layout .tooLargeForReal => true
  | _ => false

end TemplateError

namespace Template

/-- What fills a template, and what its parts may be. -/
inductive Argument where
  | text (s : String)
  | number (n : Int)
  | category (c : Category)
  | row (cs : List Category)
  | nothing
deriving DecidableEq, Repr, Inhabited

namespace Argument

/-- The category of an argument. -/
def categoryOf : Argument → Category
  | text _ => .plain .text
  | number _ => .plain .number
  | category _ => .category
  | row _ => .row
  | nothing => .nothing

/-- The argument inside other text. -/
def quoted : Argument → Except TemplateError String
  | text s => .ok (Text.quoted s)
  | number n => (Text.Numeral.write n).mapError fun e => .layout (.numeral e)
  | category c => .ok c.quoted
  | row [c] => .ok ("(" ++ c.quoted ++ ",)")
  | row cs => .ok ("(" ++ ", ".intercalate (cs.map Category.quoted) ++ ")")
  | nothing => .ok "None"

/-- The argument on its own. -/
def plain : Argument → Except TemplateError String
  | text s => .ok s
  | a => a.quoted

/-- The argument laid out. -/
def lay (a : Argument) (spec : List Char) : Except TemplateError (List Char) :=
  if spec.isEmpty then a.plain.map String.toList
  else match a with
    | .text s => ((Layout.read .text spec).bind (·.text s.toList)).mapError .layout
    | .number n => ((Layout.read .number spec).bind (·.number n)).mapError .layout
    | a => .error (.noLayout a.categoryOf)

end Argument

/-! ## Fields -/

/-- A field of a template. -/
structure Field where
  name : List Char
  conversion : Option Char
  layout : List Char
deriving Repr, Inhabited

/-- The name of a field, the character that ends it and what follows. In brackets no character ends
the name. -/
def takeName : Bool → List Char → Except TemplateError (List Char × Char × List Char)
  | _, [] => .error .unclosedField
  | inBrackets, c :: r =>
    if inBrackets then
      (takeName (c != ']') r).map fun p => (c :: p.1, p.2)
    else if c == '\x7b' then .error .braceInName
    else if c == '\x7d' || c == ':' || c == '!' then .ok ([], c, r)
    else (takeName (c == '[') r).map fun p => (c :: p.1, p.2)

/-- The layout of a field up to the brace that closes the field, and what follows. -/
def takeLayout : Nat → List Char → Except TemplateError (List Char × List Char)
  | _, [] => .error .unclosedLayout
  | depth, c :: r =>
    if c == '\x7d' && depth == 0 then .ok ([], r)
    else
      let depth := if c == '\x7b' then depth + 1 else if c == '\x7d' then depth - 1 else depth
      (takeLayout depth r).map fun p => (c :: p.1, p.2)

/-- A field, after its opening brace, and what follows it. -/
def takeField (cs : List Char) : Except TemplateError (Field × List Char) := do
  let (name, stop, r) ← takeName false cs
  if stop == '\x7d' then return ({ name, conversion := none, layout := [] }, r)
  if stop == ':' then
    let (layout, r) ← takeLayout 0 r
    return ({ name, conversion := none, layout }, r)
  match r with
  | [] => throw .missingConversion
  | [_] => throw .unclosedLayout
  | c :: '\x7d' :: r => return ({ name, conversion := some c, layout := [] }, r)
  | c :: ':' :: r =>
    let (layout, r) ← takeLayout 0 r
    return ({ name, conversion := some c, layout }, r)
  | _ => throw .textAfterConversion

/-- The text in front of the next field, the field if there is one, and what follows. -/
def takePart (cs : List Char) : Except TemplateError (List Char × Option Field × List Char) :=
  let (literal, rest) := cs.span fun c => c != '\x7b' && c != '\x7d'
  match rest with
  | [] => .ok (literal, none, [])
  | [c] => .error (.loneBrace c)
  | c :: d :: r =>
    if c == d then .ok (literal ++ [c], none, r)
    else if c == '\x7d' then .error (.loneBrace c)
    else (takeField (d :: r)).map fun p => (literal, some p.1, p.2)

/-! ## Names -/

/-- How the fields of a template say which argument they mean: not known yet, by counting them (with
the next number), or by writing numbers. -/
inductive Numbering where
  | unknown
  | automatic (next : Nat)
  | manual
deriving DecidableEq, Repr, Inhabited

/-- The number that a text denotes, if it has only digits. -/
def index? (cs : List Char) : Except TemplateError (Option Nat) :=
  match Layout.takeNumber cs with
  | .error e => .error (.layout e)
  | .ok (n, []) => .ok n
  | .ok (_, _) => .ok none

/-- The argument of a name, and how arguments are numbered from there on. -/
def choose (arg : Argument) (name : List Char) (numbering : Numbering) :
    Except TemplateError (Argument × Numbering) := do
  let index ← index? name
  let pick (i : Nat) (n : Numbering) : Except TemplateError (Argument × Numbering) :=
    if i == 0 then .ok (arg, n) else .error (.noArgument i)
  match name.isEmpty, index, numbering with
  | true, _, .manual => throw .switchToAutomatic
  | true, _, .automatic n => pick n (.automatic (n + 1))
  | true, _, .unknown => pick 0 (.automatic 1)
  | false, some _, .automatic _ => throw .switchToManual
  | false, some i, _ => pick i .manual
  | false, none, _ => throw (.unknownName (String.ofList name))

/-- An attribute of a number. -/
def numberAttribute? (n : Int) (name : String) : Option Argument :=
  if name == "real" || name == "numerator" then some (.number n)
  else if name == "imag" then some (.number 0)
  else if name == "denominator" then some (.number 1)
  else none

/-- An attribute of a category. -/
def categoryAttribute? (c : Category) (name : String) : Option Argument :=
  if name == "__name__" || name == "__qualname__" then some (.text c.name)
  else if name == "__module__" then some (.text "builtins")
  else if name == "__base__" then some ((c.above.head?.map .category).getD .nothing)
  else if name == "__bases__" then some (.row c.above)
  else if name == "__mro__" then some (.row (c :: c.above))
  else none

/-- An attribute of an argument. -/
def attribute? (a : Argument) (name : List Char) : Except TemplateError Argument :=
  let name := String.ofList name
  if name == "__class__" then .ok (.category a.categoryOf)
  else match a with
    | .number n => (numberAttribute? n name).elim (.error (.noAttribute a.categoryOf name)) .ok
    | .category c => (categoryAttribute? c name).elim (.error (.noCategoryAttribute c name)) .ok
    | _ => .error (.noAttribute a.categoryOf name)

/-- An item of an argument: a character of a text, or a category of a row. -/
def item? (a : Argument) (name : List Char) : Except TemplateError Argument := do
  match a, ← index? name with
  | .text s, some i =>
    ((s.toList[i]?).map fun c => .text (String.ofList [c])).elim
      (.error (.itemOutOfRange a.categoryOf)) .ok
  | .row cs, some i =>
    ((cs[i]?).map .category).elim (.error (.itemOutOfRange a.categoryOf)) .ok
  | .text _, none => throw (.itemName a.categoryOf)
  | .row _, none => throw (.itemName a.categoryOf)
  | .category c, _ => throw (.noCategoryItems c)
  | _, _ => throw (.noItems a.categoryOf)

/-- The part of an argument that the rest of a name leads to. -/
def follow : Nat → Argument → List Char → Except TemplateError Argument
  | 0, a, _ => .ok a
  | _, a, [] => .ok a
  | fuel + 1, a, '.' :: r => do
    let name := r.takeWhile fun c => c != '.' && c != '['
    if name.isEmpty then throw .emptyPart
    follow fuel (← attribute? a name) (r.drop name.length)
  | fuel + 1, a, '[' :: r => do
    let name := r.takeWhile (· != ']')
    match r.drop name.length with
    | [] => throw .unclosedBracket
    | _ :: rest =>
      discard (index? name)
      if name.isEmpty then throw .emptyPart
      follow fuel (← item? a name) rest
  | _, _, _ => .error .textAfterBracket

/-- The argument that a field means. -/
def find (arg : Argument) (name : List Char) (numbering : Numbering) :
    Except TemplateError (Argument × Numbering) := do
  let first := name.takeWhile fun c => c != '.' && c != '['
  let (a, numbering) ← choose arg first numbering
  return (← follow name.length a (name.drop first.length), numbering)

/-- Converts an argument. -/
def convert (a : Argument) : Option Char → Except TemplateError Argument
  | none => .ok a
  | some 'r' => a.quoted.map .text
  | some 's' => a.plain.map .text
  | some 'a' => a.quoted.map fun s => .text (Text.asciiOnly s)
  | some c => .error (.unknownConversion c)

/-! ## Filling -/

/-- Fills the fields of a template one after the other; layouts are filled by `nested`. -/
def fillParts (nested : List Char → Numbering → Except TemplateError (List Char × Numbering))
    (arg : Argument) : Nat → List Char → Numbering → Except TemplateError (List Char × Numbering)
  | 0, _, n => .ok ([], n)
  | _, [], n => .ok ([], n)
  | fuel + 1, cs, n => do
    let (literal, field, rest) ← takePart cs
    let (filled, n) ← match field with
      | none => pure ([], n)
      | some f => do
        let (a, n) ← find arg f.name n
        let a ← convert a f.conversion
        let (layout, n) ← if f.layout.contains '\x7b' then nested f.layout n else pure (f.layout, n)
        pure (← a.lay layout, n)
    let (tail, n) ← fillParts nested arg fuel rest n
    return (literal ++ filled ++ tail, n)

/-- Fills a template in which layouts hold fields at most `depth` deep. -/
def fillNested (arg : Argument) :
    Nat → List Char → Numbering → Except TemplateError (List Char × Numbering)
  | 0 => fun _ _ => .error .nestedTooDeep
  | depth + 1 => fun cs n => fillParts (fillNested arg depth) arg (cs.length + 1) cs n

/-- Fills a template with an argument. -/
def fill (template : String) (arg : Argument) : Except TemplateError String :=
  (fillNested arg 2 template.toList .unknown).map fun p => String.ofList p.1

end Template

end ProposalCheck
