import ProposalCheck.Diagnostic.Rendering
import ProposalCheck.Data.Value

/-!
# Diagnostics as plain data

A message is stored as a mapping with the keys `level`, `id`, `title`, `snippets` and `footer`, and
its parts likewise. `MessageRecord` is what such a mapping says: its levels are levels and its lists
are lists, while every other entry may be any value. `MessageRecord.toValue` writes all keys;
`MessageRecord.ofValue` wants only the level and the title and takes defaults for the rest.

Every message has a record, and a record is a message when its entries are of the right kinds
(`MessageRecord.message`). A stored form that has itself as a part is refused.
-/

namespace ProposalCheck

open Data (Value)

/-- Why plain data is not a diagnostic. -/
inductive RecordError where
  /-- A mapping lacks a key. -/
  | missing (key : String)
  /-- A level has an unknown name. -/
  | unknownLevel (value : Value)
  /-- The value of a key is of the wrong kind. -/
  | wrongKind (key : String)
deriving Repr, Inhabited

namespace RecordError

/-- The wording of the error. -/
def message : RecordError → String
  | missing key => Text.quoted key
  | unknownLevel v =>
    (match v.quoted with
      | .ok s => s
      | .error e => e.message) ++ " is not a valid Level"
  | wrongKind key => "unexpected kind of value under " ++ Text.quoted key

end RecordError

/-! ## Reading single entries -/

namespace Record

/-- The value of a key. -/
def require (v : Value) (key : String) : Except RecordError Value :=
  match v.get? key with
  | some x => .ok x
  | none => .error (.missing key)

/-- The value of a key, read as a level. -/
def level (v : Value) : Except RecordError Level := do
  match ← require v "level" with
  | .text s =>
    match Level.ofName? s with
    | some l => .ok l
    | none => .error (.unknownLevel (.text s))
  | x => .error (.unknownLevel x)

/-- The value of a key, or another one if the key is absent. -/
def valueOr (v : Value) (key : String) (otherwise : Value) : Value :=
  (v.get? key).getD otherwise

/-- The parts of a value that is gone through in order. What is found in a text, in bytes, in a set
or among the keys of a mapping is never a mapping, so that only the empty ones count. -/
def parts? : Value → Option (List Value)
  | .seq xs => some xs
  | .pair a b => some [a, b]
  | .text s => if s.isEmpty then some [] else none
  | .bytes bs => if bs.isEmpty then some [] else none
  | .set xs => if xs.isEmpty then some [] else none
  | .record es => if es.isEmpty then some [] else none
  | _ => none

/-- The parts of the value of a key that may be absent. -/
def items (v : Value) (key : String) : Except RecordError (List Value) :=
  match v.get? key with
  | none => .ok []
  | some x =>
    match parts? x with
    | some xs => .ok xs
    | none => .error (.wrongKind key)

/-- A part is smaller than the whole. -/
theorem sizeOf_lt_of_mem_parts {v x : Value} {xs : List Value} (h : parts? v = some xs)
    (hx : x ∈ xs) : sizeOf x < sizeOf v := by
  unfold parts? at h
  split at h
  case h_1 =>
    obtain rfl := Option.some.inj h
    have := List.sizeOf_lt_of_mem hx
    simp only [Value.seq.sizeOf_spec]
    omega
  case h_2 =>
    obtain rfl := Option.some.inj h
    simp only [List.mem_cons, List.not_mem_nil, or_false] at hx
    obtain rfl | rfl := hx <;> simp only [Value.pair.sizeOf_spec] <;> omega
  all_goals simp_all

/-- An item is smaller than the mapping. -/
theorem sizeOf_lt_of_mem_items {v x : Value} {key : String} {xs : List Value}
    (h : items v key = .ok xs) (hx : x ∈ xs) : sizeOf x < sizeOf v := by
  unfold items at h
  split at h
  case h_1 =>
    obtain rfl := Except.ok.inj h
    exact absurd hx List.not_mem_nil
  case h_2 w hw =>
    split at h
    case h_1 ys hys =>
      obtain rfl := Except.ok.inj h
      exact Nat.lt_trans (sizeOf_lt_of_mem_parts hys hx) (Value.sizeOf_lt_of_get? hw)
    case h_2 => cases h

/-- The items, each known to be smaller than the mapping. -/
def smallerItems (v : Value) (key : String) :
    Except RecordError (List { x : Value // sizeOf x < sizeOf v }) :=
  match h : items v key with
  | .ok xs => .ok (xs.attach.map fun x => ⟨x.1, sizeOf_lt_of_mem_items h x.2⟩)
  | .error e => .error e

/-! ## Kinds of entries -/

/-- A whole number. -/
def int (key : String) : Value → Except RecordError Int
  | .int i => .ok i
  | _ => .error (.wrongKind key)

/-- A text. -/
def text (key : String) : Value → Except RecordError String
  | .text s => .ok s
  | _ => .error (.wrongKind key)

/-- A truth value. -/
def bool (key : String) : Value → Except RecordError Bool
  | .bool b => .ok b
  | _ => .error (.wrongKind key)

/-- A text or null. -/
def textOrNull (key : String) : Value → Except RecordError (Option String)
  | .null => .ok none
  | .text s => .ok (some s)
  | _ => .error (.wrongKind key)

/-- A text as a value, or null. -/
def ofText? : Option String → Value
  | some s => .text s
  | none => .null

end Record

open Record

/-! ## Records -/

/-- What a stored annotation says. -/
structure HighlightRecord where
  start : Value
  stop : Value
  level : Level
  label : Value
deriving Repr, Inhabited

/-- What a stored excerpt says. -/
structure SnippetRecord where
  source : Value
  lineStart : Value
  origin : Value
  annotations : List HighlightRecord
  fold : Value
deriving Repr, Inhabited

/-- What a stored message says. -/
structure MessageRecord where
  level : Level
  title : Value
  id : Value
  snippets : List SnippetRecord
  footers : List MessageRecord
deriving Repr, Inhabited

namespace HighlightRecord

/-- The stored form of an annotation. -/
def toValue (a : HighlightRecord) : Value :=
  .record [
    (.text "range", .record [(.text "start", a.start), (.text "end", a.stop)]),
    (.text "level", .text a.level.name),
    (.text "label", a.label)]

/-- The annotation of a stored form. -/
def ofValue (v : Value) : Except RecordError HighlightRecord := do
  let range ← require v "range"
  let start ← require range "start"
  let stop ← require range "end"
  let level ← Record.level v
  return { start, stop, level, label := valueOr v "label" .null }

/-- The annotation, if its entries are of the right kinds. -/
def highlight (a : HighlightRecord) : Except RecordError Highlight := do
  let start ← int "start" a.start
  let stop ← int "end" a.stop
  let label ← textOrNull "label" a.label
  return { start, stop, level := a.level, label }

end HighlightRecord

/-- The record of an annotation. -/
def Highlight.record (a : Highlight) : HighlightRecord where
  start := .int a.start
  stop := .int a.stop
  level := a.level
  label := ofText? a.label

namespace SnippetRecord

/-- The stored form of an excerpt. -/
def toValue (s : SnippetRecord) : Value :=
  .record [
    (.text "source", s.source),
    (.text "line_start", s.lineStart),
    (.text "origin", s.origin),
    (.text "fold", s.fold),
    (.text "annotations", .seq (s.annotations.map HighlightRecord.toValue))]

/-- The excerpt of a stored form. -/
def ofValue (v : Value) : Except RecordError SnippetRecord := do
  let source ← require v "source"
  let annotations ← (← items v "annotations").mapM HighlightRecord.ofValue
  return {
    source
    lineStart := valueOr v "line_start" (.int 1)
    origin := valueOr v "origin" .null
    annotations
    fold := valueOr v "fold" (.bool false) }

/-- The excerpt, if its entries are of the right kinds. -/
def snippet (s : SnippetRecord) : Except RecordError Snippet := do
  let source ← text "source" s.source
  let lineStart ← int "line_start" s.lineStart
  let origin ← textOrNull "origin" s.origin
  let annotations ← s.annotations.mapM HighlightRecord.highlight
  let fold ← bool "fold" s.fold
  return { source, lineStart, origin, annotations, fold }

end SnippetRecord

namespace Snippet

/-- The record of an excerpt. -/
def record (s : Snippet) : SnippetRecord where
  source := .text s.source
  lineStart := .int s.lineStart
  origin := ofText? s.origin
  annotations := s.annotations.map Highlight.record
  fold := .bool s.fold

/-- The stored form of an excerpt. -/
def toValue (s : Snippet) : Value :=
  s.record.toValue

/-- The excerpt of a stored form whose entries are of the right kinds. -/
def ofValue (v : Value) : Except RecordError Snippet :=
  SnippetRecord.ofValue v >>= SnippetRecord.snippet

end Snippet

namespace MessageRecord

mutual

/-- The stored form of a message. -/
def toValue : MessageRecord → Value
  | { level, title, id, snippets, footers } =>
    .record [
      (.text "level", .text level.name),
      (.text "id", id),
      (.text "title", title),
      (.text "snippets", .seq (snippets.map SnippetRecord.toValue)),
      (.text "footer", .seq (toValues footers))]

/-- The stored forms of several messages. -/
def toValues : List MessageRecord → List Value
  | [] => []
  | r :: rs => r.toValue :: toValues rs

end

/-- The message of a stored form. -/
def ofValue (v : Value) : Except RecordError MessageRecord := do
  let level ← Record.level v
  let title ← require v "title"
  let snippets ← (← items v "snippets").mapM SnippetRecord.ofValue
  let footers ← (← smallerItems v "footer").mapM fun x => ofValue x.1
  return { level, title, id := valueOr v "id" .null, snippets, footers }
termination_by sizeOf v
decreasing_by exact x.2

mutual

/-- The message, if its entries are of the right kinds. -/
def message : MessageRecord → Except RecordError Message
  | { level, title, id, snippets, footers } => do
    let title ← text "title" title
    let id ← textOrNull "id" id
    let snippets ← snippets.mapM SnippetRecord.snippet
    let footers ← messages footers
    return { level, title, id, snippets, footers }

/-- The messages, if their entries are of the right kinds. -/
def messages : List MessageRecord → Except RecordError (List Message)
  | [] => .ok []
  | r :: rs => do
    let m ← r.message
    let ms ← messages rs
    return m :: ms

end

end MessageRecord

namespace Message

mutual

/-- The record of a message. -/
def record : Message → MessageRecord
  | { level, title, id, snippets, footers } => {
    level
    title := .text title
    id := ofText? id
    snippets := snippets.map Snippet.record
    footers := records footers }

/-- The records of several messages. -/
def records : List Message → List MessageRecord
  | [] => []
  | m :: ms => m.record :: records ms

end

/-- The stored form of a message. -/
def toValue (m : Message) : Value :=
  m.record.toValue

/-- The message of a stored form whose entries are of the right kinds. -/
def ofValue (v : Value) : Except RecordError Message :=
  MessageRecord.ofValue v >>= MessageRecord.message

end Message

end ProposalCheck
