import ProposalCheck.Data.Value

/-!
# Plain data as JSON text

`Json.write` prints a value. Without an indentation it stays on one line; with one, every item of a
list and every entry of a mapping has a line of its own. Characters outside ASCII stand for
themselves.
-/

namespace ProposalCheck.Data.Json

/-- One character of a string. -/
def escape (c : Char) : List Char :=
  if c == '"' then ['\\', '"']
  else if c == '\\' then ['\\', '\\']
  else if c == '\n' then ['\\', 'n']
  else if c == '\r' then ['\\', 'r']
  else if c == '\t' then ['\\', 't']
  else if c.toNat == 8 then ['\\', 'b']
  else if c.toNat == 12 then ['\\', 'f']
  else if c.toNat < 0x20 then '\\' :: 'u' :: Text.hexDigits 4 c.toNat
  else [c]

/-- A text as a JSON string. -/
def string (s : String) : String :=
  String.ofList ('"' :: s.toList.flatMap escape ++ ['"'])

/-- What separates the items of a list at a depth, and what stands before the first and after the
last one. -/
def breaks (indent : Option Nat) (depth : Nat) : String × String × String :=
  match indent with
  | none => (", ", "", "")
  | some n =>
    let inner := "\n" ++ Text.repeated (n * (depth + 1)) ' '
    ("," ++ inner, inner, "\n" ++ Text.repeated (n * depth) ' ')

/-- The items of a list or the entries of a mapping between their brackets. -/
def enclose (indent : Option Nat) (depth : Nat) (left right : String) (items : List String) :
    String :=
  if items.isEmpty then left ++ right
  else
    let (separator, first, last) := breaks indent depth
    left ++ first ++ separator.intercalate items ++ last ++ right

/-- The text of a scalar. What JSON does not have is written as its text between quotes. -/
def scalar : Value → String
  | .null => "null"
  | .bool b => if b then "true" else "false"
  | .int i => toString i
  | .real x => realFormat.write x
  | .text s => string s
  | v => match v.plain with
    | .ok s => string s
    | .error _ => "null"

/-- The text of a key. -/
def key : Value → String
  | .text s => string s
  | v => string (scalar v)

mutual

/-- The text of a value at a depth. -/
def writeAt (indent : Option Nat) (depth : Nat) : Value → String
  | .seq xs => enclose indent depth "[" "]" (writeItems indent (depth + 1) xs)
  | .record es => enclose indent depth "\x7b" "\x7d" (writeEntries indent (depth + 1) es)
  | v => scalar v

/-- The texts of the items of a list. -/
def writeItems (indent : Option Nat) (depth : Nat) : List Value → List String
  | [] => []
  | x :: xs => writeAt indent depth x :: writeItems indent depth xs

/-- The texts of the entries of a mapping. -/
def writeEntries (indent : Option Nat) (depth : Nat) : List (Value × Value) → List String
  | [] => []
  | (k, v) :: es => (key k ++ ": " ++ writeAt indent depth v) :: writeEntries indent depth es

end

/-- The JSON text of a value. -/
def write (indent : Option Nat) (v : Value) : String :=
  writeAt indent 0 v

end ProposalCheck.Data.Json
