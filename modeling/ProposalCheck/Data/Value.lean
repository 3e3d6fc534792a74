import ProposalCheck.Data.Amount
import ProposalCheck.Data.Timestamp

/-!
# Plain data

`Value` is what a configuration file or a stored diagnostic holds: scalars, lists and mappings.
Mappings keep the order of their entries. `Value.plain` is the text of a value on its own and
`Value.quoted` its text inside another one, where texts stand between quotes.

A list or a mapping may have itself as a part. Such a value is written down by labels: `loop` gives
an enclosure a label, and `again` stands for the enclosure of a label around it. `Value.opened` puts
the enclosure itself into these places, so that its parts can be taken out of it.
-/

namespace ProposalCheck.Data

/-- What can have values inside that have it as a part. -/
inductive Enclosure where
  | list
  | mapping
  | pair
deriving DecidableEq, Repr, Inhabited

/-- Tells the enclosures of one value apart. -/
abbrev Label := Nat × Nat

/-- Plain data. -/
inductive Value where
  | null
  | bool (b : Bool)
  | int (i : Int)
  | real (x : Float)
  | text (s : String)
  | bytes (bs : List UInt8)
  | timestamp (t : Timestamp)
  | pair (first second : Value)
  | seq (items : List Value)
  | record (entries : List (Value × Value))
  | set (items : List Value)
  /-- An enclosure that has itself as a part, with its label. -/
  | loop (label : Label) (whole : Value)
  /-- The enclosure with a label, as a part of itself. -/
  | again (label : Label) (enclosure : Enclosure)
deriving Repr, Inhabited

/-- The text of bytes between quotes. -/
def quotedBytes (bs : List UInt8) : String :=
  let chars := bs.map fun b => Char.ofNat b.toNat
  let quote := Text.Quoted.delimiter chars
  let body := chars.flatMap fun c =>
    if c == quote || c == '\\' then ['\\', c]
    else if c == '\t' then ['\\', 't']
    else if c == '\n' then ['\\', 'n']
    else if c == '\r' then ['\\', 'r']
    else if 0x20 ≤ c.toNat && c.toNat < 0x7F then [c]
    else '\\' :: 'x' :: Text.hexDigits 2 c.toNat
  String.ofList ('b' :: quote :: body ++ [quote])

/-- The name of the kind of an enclosure. -/
def Enclosure.kindName : Enclosure → String
  | list => "list"
  | mapping => "dict"
  | pair => "tuple"

/-- The text of an enclosure inside itself. -/
def Enclosure.folded : Enclosure → String
  | list => "[...]"
  | mapping => "\x7b...\x7d"
  | pair => "(...)"

namespace Value

/-- The name of a value's kind. -/
def kindName : Value → String
  | null => "NoneType"
  | bool _ => "bool"
  | int _ => "int"
  | real _ => "float"
  | text _ => "str"
  | bytes _ => "bytes"
  | timestamp t => if t.time.isSome then "datetime" else "date"
  | pair _ _ => Enclosure.pair.kindName
  | seq _ => Enclosure.list.kindName
  | record _ => Enclosure.mapping.kindName
  | set _ => "set"
  | loop _ v => v.kindName
  | again _ e => e.kindName

/-- The name of a value's kind with the name of the family it belongs to. -/
def fullKindName : Value → String
  | timestamp t => if t.time.isSome then "datetime.datetime" else "datetime.date"
  | v => v.kindName

/-- Whether a value counts as absent: null, false, zero or empty. -/
def isVoid : Value → Bool
  | null => true
  | bool b => !b
  | int i => i == 0
  | real x => x == 0.0
  | text s => s.isEmpty
  | bytes bs => bs.isEmpty
  | timestamp _ => false
  | pair _ _ => false
  | seq xs => xs.isEmpty
  | record es => es.isEmpty
  | set xs => xs.isEmpty
  | loop _ _ => false
  | again _ _ => false

/-- The kinds that no mapping can have as a key. -/
def isKey : Value → Bool
  | seq _ => false
  | record _ => false
  | set _ => false
  | loop _ _ => false
  | again _ _ => false
  | pair a b => a.isKey && b.isKey
  | _ => true

/-- The kind of the part of a value because of which it cannot be a key. -/
def unusableKind : Value → String
  | pair a b => if a.isKey then b.unusableKind else a.unusableKind
  | v => v.kindName

/-! ## Enclosures inside themselves -/

/-- The enclosure that a value is. -/
def enclosure : Value → Enclosure
  | pair _ _ => .pair
  | record _ => .mapping
  | loop _ v => v.enclosure
  | again _ e => e
  | _ => .list

mutual

/-- The value with another one in place of the enclosure of a label. -/
def putBack (label : Label) (w : Value) : Value → Value
  | again l e => if l == label then w else again l e
  | loop l v => if l == label then loop l v else loop l (putBack label w v)
  | pair a b => pair (putBack label w a) (putBack label w b)
  | seq xs => seq (putBackItems label w xs)
  | record es => record (putBackEntries label w es)
  | v => v

/-- The items of a list with another value in place of the enclosure of a label. -/
def putBackItems (label : Label) (w : Value) : List Value → List Value
  | [] => []
  | x :: xs => putBack label w x :: putBackItems label w xs

/-- The entries of a mapping with another value in place of the enclosure of a label. -/
def putBackEntries (label : Label) (w : Value) : List (Value × Value) → List (Value × Value)
  | [] => []
  | (k, v) :: es => (k, putBack label w v) :: putBackEntries label w es

end

/-- The value as an enclosure whose parts stand for themselves. -/
def opened : Value → Value
  | loop l v => putBack l (loop l v) v
  | v => v

/-! ## Texts -/

mutual

/-- The text of a value inside the enclosures of some labels. -/
def quotedInside (around : List Label) : Value → Except Text.NumeralError String
  | null => .ok "None"
  | bool b => .ok (if b then "True" else "False")
  | int i => Text.Numeral.write i
  | real x => .ok (realFormat.write x)
  | text s => .ok (Text.quoted s)
  | bytes bs => .ok (quotedBytes bs)
  | timestamp t => .ok t.quoted
  | pair a b => do
    let a ← a.quotedInside around
    let b ← b.quotedInside around
    return "(" ++ a ++ ", " ++ b ++ ")"
  | seq xs => do
    let items ← quotedItems around xs
    return "[" ++ ", ".intercalate items ++ "]"
  | record es => do
    let entries ← quotedEntries around es
    return "\x7b" ++ ", ".intercalate entries ++ "\x7d"
  | set xs => do
    let items ← quotedItems around xs
    return if items.isEmpty then "set()" else "\x7b" ++ ", ".intercalate items ++ "\x7d"
  | loop l v => if around.contains l then .ok v.enclosure.folded else v.quotedInside (l :: around)
  | again _ e => .ok e.folded

/-- The texts of the items of a list. -/
def quotedItems (around : List Label) : List Value → Except Text.NumeralError (List String)
  | [] => .ok []
  | x :: xs => do
    let s ← x.quotedInside around
    let rest ← quotedItems around xs
    return s :: rest

/-- The texts of the entries of a mapping. -/
def quotedEntries (around : List Label) :
    List (Value × Value) → Except Text.NumeralError (List String)
  | [] => .ok []
  | (k, v) :: es => do
    let key ← k.quotedInside around
    let value ← v.quotedInside around
    let rest ← quotedEntries around es
    return (key ++ ": " ++ value) :: rest

end

/-- The text of a value inside another one. -/
def quoted (v : Value) : Except Text.NumeralError String :=
  v.quotedInside []

/-- The text of a value on its own. -/
def plain : Value → Except Text.NumeralError String
  | text s => .ok s
  | timestamp t => .ok t.plain
  | v => v.quoted

/-! ## Keys -/

/-- The amount of a number or a truth value. -/
def amount? : Value → Option Amount
  | int i => some (.ofInt i)
  | bool b => some (.ofInt (if b then 1 else 0))
  | real x => some (.ofReal x)
  | _ => none

/-- Whether two keys denote the same entry: numbers and truth values are compared by amount, moments
by what they denote. -/
def sameKey : Value → Value → Bool
  | null, null => true
  | text s, text t => s == t
  | bytes as, bytes bs => as == bs
  | timestamp a, timestamp b => a.same b
  | pair a b, pair c d => a.sameKey c && b.sameKey d
  | a, b =>
    match a.amount?, b.amount? with
    | some x, some y => x.same y
    | _, _ => false

theorem sameKey_text {v : Value} {s : String} : v.sameKey (text s) = true ↔ v = text s := by
  cases v <;> simp [sameKey, amount?]

/-- The entries with one set: an entry of the same key keeps its place and its key. -/
def insertEntry (es : List (Value × Value)) (key value : Value) : List (Value × Value) :=
  match es with
  | [] => [(key, value)]
  | (k, v) :: es =>
    if k.sameKey key then (k, value) :: es else (k, v) :: insertEntry es key value

/-- The entry of a textual key in a mapping. -/
def get? (v : Value) (key : String) : Option Value :=
  match v with
  | record es => (es.find? fun e => e.1.sameKey (text key)).map (·.2)
  | _ => none

@[simp] theorem get?_record_nil {key : String} : (record []).get? key = none :=
  rfl

@[simp] theorem get?_record_cons {k key : String} {v : Value} {es : List (Value × Value)} :
    (record ((text k, v) :: es)).get? key = if k = key then some v else (record es).get? key := by
  simp only [get?, List.find?_cons]
  split
  case h_1 h =>
    rw [if_pos (text.inj (sameKey_text.1 h))]
    rfl
  case h_2 h =>
    have hk : k ≠ key := fun hk => Bool.eq_false_iff.1 h (sameKey_text.2 (congrArg text hk))
    rw [if_neg hk]

/-- The value of an entry is smaller than the mapping. -/
theorem sizeOf_lt_of_get? {v x : Value} {key : String} (h : v.get? key = some x) :
    sizeOf x < sizeOf v := by
  cases v with
  | record es =>
    simp only [get?, Option.map_eq_some_iff] at h
    obtain ⟨e, he, rfl⟩ := h
    have hm := List.sizeOf_lt_of_mem (List.mem_of_find?_eq_some he)
    have hp : sizeOf e.2 < sizeOf e := by cases e; simp +arith
    simp only [record.sizeOf_spec]
    omega
  | _ => simp [get?] at h

end Value

end ProposalCheck.Data
