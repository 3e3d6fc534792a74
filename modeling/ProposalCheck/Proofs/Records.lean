import Mathlib.Data.List.Forall2
import ProposalCheck.Diagnostic.Record
import ProposalCheck.Proofs.Lookups

/-!
# Stored diagnostics

`Message.ofValue_canonical`: a message is what its stored form says, whatever its level, its
excerpts and the depth of its footers. A mapping that is accepted may leave keys out, have further
ones and hold values of any kind; the stored form of what it says has all keys and is canonical.

`ofValue_eq_ok` tells for each kind of record what a mapping has to hold. The way back and forth is
this lemma at a stored form, where each key is found as it was written. The entries of a message
are of the right kinds: `message_eq_ok` and its like make messages the records of that sort, so that
what holds of records holds of messages.
-/

namespace ProposalCheck

open Data (Value)
open Record

theorem Level.ofName?_eq_some {l : Level} {s : String} : ofName? s = some l ↔ s = l.name := by
  constructor
  · intro h
    have hname := List.find?_some (p := fun l : Level => l.name == s) h
    exact (beq_iff_eq.1 hname).symm
  · rintro rfl
    exact ofName?_name l

/-! ### Lists -/

section

variable {ε α β γ : Type} {f : α → Except ε β} {xs : List α} {ys : List β}

theorem mapM_eq_ok : xs.mapM f = .ok ys ↔ List.Forall₂ (fun x y => f x = .ok y) xs ys := by
  induction xs generalizing ys with
  | nil => cases ys <;> simp [pure, Except.pure]
  | cons x xs ih =>
    rw [List.mapM_cons]
    cases ys <;> simp [bind_eq_ok, pure, Except.pure, ih]

/-- What undoes a map element by element undoes it on a list. -/
theorem mapM_map_eq_ok {g : β → α} (h : ∀ y, f (g y) = .ok y) : (ys.map g).mapM f = .ok ys :=
  mapM_eq_ok.2 (List.forall₂_map_left_iff.2 (List.forall₂_same.2 fun y _ => h y))

/-- A check that only lets the images under a map pass does so on a list. -/
theorem mapM_eq_ok_iff {g : β → α} (h : ∀ x y, f x = .ok y ↔ x = g y) :
    xs.mapM f = .ok ys ↔ xs = ys.map g := by
  rw [mapM_eq_ok]
  simp only [h]
  rw [← List.forall₂_map_right_iff, List.forall₂_eq_eq_eq]

/-- What holds between an element and its result holds along the lists. -/
theorem forall₂_of_mapM {R : α → γ → Prop} {g : β → γ} (hR : ∀ x y, f x = .ok y → R x (g y))
    (h : xs.mapM f = .ok ys) : List.Forall₂ R xs (ys.map g) :=
  List.forall₂_map_right_iff.2 ((mapM_eq_ok.1 h).imp hR)

end

/-! ### Single entries -/

namespace Record

variable {v x : Value} {key : String}

theorem require_eq_ok : require v key = .ok x ↔ v.get? key = some x := by
  unfold require
  split <;> simp_all

theorem level_eq_ok {l : Level} :
    Record.level v = .ok l ↔ v.get? "level" = some (.text l.name) := by
  unfold Record.level
  rw [bind_eq_ok]
  simp only [require_eq_ok]
  constructor
  · rintro ⟨x, hx, h⟩
    split at h
    · split at h
      · rename_i l' hl
        obtain rfl := Except.ok.inj h
        rw [hx, Level.ofName?_eq_some.1 hl]
      · cases h
    · cases h
  · intro h
    refine ⟨_, h, ?_⟩
    simp only [Level.ofName?_name]

theorem items_of_seq {xs : List Value} (h : v.get? key = some (.seq xs)) :
    items v key = .ok xs := by
  simp only [items, h, parts?]

/-- What is done to the items one by one does not depend on their sizes. -/
theorem smallerItems_bind {α β : Type} (f : Value → Except RecordError α)
    (g : List α → Except RecordError β) :
    (smallerItems v key >>= fun xs => (xs.mapM fun x => f x.1) >>= g)
      = (items v key >>= List.mapM f) >>= g := by
  unfold smallerItems
  split
  case h_1 xs hxs =>
    conv => rhs; rw [hxs]
    change ((xs.attach.map _).mapM (f ∘ Subtype.val)) >>= g = xs.mapM f >>= g
    rw [← List.mapM_map, List.map_map]
    congr 2
    exact List.attach_map_subtype_val xs
  case h_2 e he =>
    conv => rhs; rw [he]
    rfl

theorem int_eq_ok {i : Int} : int key x = .ok i ↔ x = .int i := by
  cases x <;> simp [int]

theorem text_eq_ok {s : String} : text key x = .ok s ↔ x = .text s := by
  cases x <;> simp [text]

theorem bool_eq_ok {b : Bool} : bool key x = .ok b ↔ x = .bool b := by
  cases x <;> simp [bool]

theorem textOrNull_eq_ok {o : Option String} : textOrNull key x = .ok o ↔ x = ofText? o := by
  cases x <;> cases o <;> simp [textOrNull, ofText?]

end Record

/-! ### Annotations -/

namespace HighlightRecord

/-- What a stored annotation has to hold. -/
theorem ofValue_eq_ok {v : Value} {a : HighlightRecord} :
    ofValue v = .ok a ↔
      (∃ range, v.get? "range" = some range ∧
        range.get? "start" = some a.start ∧ range.get? "end" = some a.stop) ∧
      v.get? "level" = some (.text a.level.name) ∧ valueOr v "label" .null = a.label := by
  simp only [ofValue, bind_eq_ok, require_eq_ok, level_eq_ok]
  constructor
  · rintro ⟨range, hrange, start, hstart, stop, hstop, level, hlevel, h⟩
    obtain rfl := Except.ok.inj h
    exact ⟨⟨range, hrange, hstart, hstop⟩, hlevel, rfl⟩
  · rintro ⟨⟨range, hrange, hstart, hstop⟩, hlevel, hlabel⟩
    exact ⟨range, hrange, _, hstart, _, hstop, _, hlevel, by rw [hlabel]; rfl⟩

theorem ofValue_toValue (a : HighlightRecord) : ofValue a.toValue = .ok a :=
  ofValue_eq_ok.2 ⟨⟨_, by simp [toValue]; rfl, by simp, by simp⟩, by simp [toValue],
    by simp [toValue, valueOr]⟩

/-- The second of two stored annotations has all keys, with what the first has under them. -/
structure Completes (v w : Value) : Prop where
  range : ∃ one two, v.get? "range" = some one ∧ w.get? "range" = some two ∧
    two.get? "start" = one.get? "start" ∧ two.get? "end" = one.get? "end"
  level : w.get? "level" = v.get? "level"
  label : w.get? "label" = some (valueOr v "label" .null)

theorem completes_of_ofValue (v : Value) (a : HighlightRecord) (h : ofValue v = .ok a) :
    Completes v a.toValue := by
  obtain ⟨⟨range, hrange, hstart, hstop⟩, hlevel, hlabel⟩ := ofValue_eq_ok.1 h
  exact ⟨⟨range, _, hrange, by simp [toValue]; rfl, by simp [hstart], by simp [hstop]⟩,
    by simp [toValue, hlevel], by simp [toValue, hlabel]⟩

theorem highlight_eq_ok (a : HighlightRecord) (h : Highlight) :
    a.highlight = .ok h ↔ a = h.record := by
  simp only [highlight, bind_eq_ok, int_eq_ok, textOrNull_eq_ok]
  constructor
  · rintro ⟨start, hstart, stop, hstop, label, hlabel, he⟩
    obtain rfl := Except.ok.inj he
    cases a
    simp_all [Highlight.record]
  · rintro rfl
    exact ⟨_, rfl, _, rfl, _, rfl, rfl⟩

end HighlightRecord

/-! ### Excerpts -/

namespace SnippetRecord

/-- What a stored excerpt has to hold. -/
theorem ofValue_eq_ok {v : Value} {s : SnippetRecord} :
    ofValue v = .ok s ↔
      v.get? "source" = some s.source ∧
      items v "annotations" >>= List.mapM HighlightRecord.ofValue = .ok s.annotations ∧
      valueOr v "line_start" (.int 1) = s.lineStart ∧ valueOr v "origin" .null = s.origin ∧
      valueOr v "fold" (.bool false) = s.fold := by
  simp only [ofValue, bind_eq_ok, require_eq_ok]
  constructor
  · rintro ⟨source, hsource, xs, hxs, annotations, hannotations, h⟩
    obtain rfl := Except.ok.inj h
    exact ⟨hsource, ⟨xs, hxs, hannotations⟩, rfl, rfl, rfl⟩
  · rintro ⟨hsource, ⟨xs, hxs, hannotations⟩, hline, horigin, hfold⟩
    exact ⟨_, hsource, xs, hxs, _, hannotations, by rw [hline, horigin, hfold]; rfl⟩

theorem ofValue_toValue (s : SnippetRecord) : ofValue s.toValue = .ok s := by
  have hannotations : items s.toValue "annotations"
      = .ok (s.annotations.map HighlightRecord.toValue) :=
    items_of_seq (by simp [toValue])
  refine ofValue_eq_ok.2 ⟨by simp [toValue], ?_, by simp [toValue, valueOr],
    by simp [toValue, valueOr], by simp [toValue, valueOr]⟩
  rw [hannotations]
  exact mapM_map_eq_ok HighlightRecord.ofValue_toValue

/-- The second of two stored excerpts has all keys, with what the first has under them. -/
structure Completes (v w : Value) : Prop where
  source : w.get? "source" = v.get? "source"
  lineStart : w.get? "line_start" = some (valueOr v "line_start" (.int 1))
  origin : w.get? "origin" = some (valueOr v "origin" .null)
  fold : w.get? "fold" = some (valueOr v "fold" (.bool false))
  annotations : ∃ ones twos, items v "annotations" = .ok ones ∧
    w.get? "annotations" = some (.seq twos) ∧ List.Forall₂ HighlightRecord.Completes ones twos

theorem completes_of_ofValue (v : Value) (s : SnippetRecord) (h : ofValue v = .ok s) :
    Completes v s.toValue := by
  obtain ⟨hsource, hannotations, hline, horigin, hfold⟩ := ofValue_eq_ok.1 h
  obtain ⟨ones, hones, hannotations⟩ := bind_eq_ok.1 hannotations
  refine ⟨by simp [toValue, hsource], by simp [toValue, hline], by simp [toValue, horigin],
    by simp [toValue, hfold], ones, s.annotations.map HighlightRecord.toValue, hones,
    by simp [toValue], ?_⟩
  exact forall₂_of_mapM HighlightRecord.completes_of_ofValue hannotations

theorem snippet_eq_ok (s : SnippetRecord) (t : Snippet) : s.snippet = .ok t ↔ s = t.record := by
  simp only [snippet, bind_eq_ok, int_eq_ok, text_eq_ok, bool_eq_ok, textOrNull_eq_ok,
    mapM_eq_ok_iff HighlightRecord.highlight_eq_ok]
  constructor
  · rintro ⟨source, hsource, line, hline, origin, horigin, marks, hmarks, fold, hfold, he⟩
    obtain rfl := Except.ok.inj he
    cases s
    simp_all [Snippet.record]
  · rintro rfl
    exact ⟨_, rfl, _, rfl, _, rfl, _, rfl, _, rfl, rfl⟩

end SnippetRecord

/-! ### Messages -/

namespace MessageRecord

/-- What a stored message has to hold. -/
theorem ofValue_eq_ok {v : Value} {r : MessageRecord} :
    ofValue v = .ok r ↔
      v.get? "level" = some (.text r.level.name) ∧ v.get? "title" = some r.title ∧
      items v "snippets" >>= List.mapM SnippetRecord.ofValue = .ok r.snippets ∧
      items v "footer" >>= List.mapM ofValue = .ok r.footers ∧
      valueOr v "id" .null = r.id := by
  rw [ofValue]
  -- binds are taken apart only when the sizes of the footers are gone
  simp only [smallerItems_bind]
  simp only [bind_eq_ok, require_eq_ok, level_eq_ok]
  constructor
  · rintro ⟨level, hlevel, title, htitle, xs, hxs, snippets, hsnippets, footers, hfooters, h⟩
    obtain rfl := Except.ok.inj h
    exact ⟨hlevel, htitle, ⟨xs, hxs, hsnippets⟩, hfooters, rfl⟩
  · cases r
    rintro ⟨hlevel, htitle, ⟨xs, hxs, hsnippets⟩, hfooters, hid⟩
    exact ⟨_, hlevel, _, htitle, xs, hxs, _, hsnippets, _, hfooters, by rw [hid]; rfl⟩

theorem toValues_eq_map (rs : List MessageRecord) : toValues rs = rs.map toValue := by
  induction rs with
  | nil => rfl
  | cons r rs ih => rw [toValues, ih, List.map_cons]

theorem toValue_eq (r : MessageRecord) :
    r.toValue = .record [
      (.text "level", .text r.level.name),
      (.text "id", r.id),
      (.text "title", r.title),
      (.text "snippets", .seq (r.snippets.map SnippetRecord.toValue)),
      (.text "footer", .seq (r.footers.map toValue))] := by
  cases r
  rw [toValue, toValues_eq_map]

theorem items_toValue_snippets (r : MessageRecord) :
    items r.toValue "snippets" = .ok (r.snippets.map SnippetRecord.toValue) :=
  items_of_seq (by simp [toValue_eq])

theorem items_toValue_footer (r : MessageRecord) :
    items r.toValue "footer" = .ok (r.footers.map toValue) :=
  items_of_seq (by simp [toValue_eq])

mutual

/-- A record is what its stored form says. -/
theorem ofValue_toValue : ∀ r : MessageRecord, ofValue r.toValue = .ok r
  | { level, title, id, snippets, footers } => by
    refine ofValue_eq_ok.2 ⟨by simp [toValue_eq], by simp [toValue_eq], ?_, ?_,
      by simp [toValue_eq, valueOr]⟩
    · rw [items_toValue_snippets]
      exact mapM_map_eq_ok SnippetRecord.ofValue_toValue
    · -- the footers are smaller records, which come back by themselves
      rw [items_toValue_footer]
      exact mapM_toValue footers

theorem mapM_toValue : ∀ rs : List MessageRecord, (rs.map toValue).mapM ofValue = .ok rs
  | [] => rfl
  | r :: rs => by
    rw [List.map_cons, List.mapM_cons, ofValue_toValue r, mapM_toValue rs]
    rfl

end

mutual

/-- Messages are the records whose entries are of the right kinds. -/
theorem message_eq_ok : ∀ (r : MessageRecord) (m : Message), r.message = .ok m ↔ r = m.record
  | { level, title, id, snippets, footers }, m => by
    cases m
    simp only [message, bind_eq_ok, text_eq_ok, textOrNull_eq_ok,
      mapM_eq_ok_iff SnippetRecord.snippet_eq_ok, messages_eq_ok footers, Message.record]
    constructor
    · rintro ⟨title, rfl, id, rfl, snippets, rfl, footers, rfl, he⟩
      obtain ⟨rfl, rfl, rfl, rfl, rfl⟩ := Message.mk.inj (Except.ok.inj he)
      rfl
    · intro h
      obtain ⟨rfl, rfl, rfl, rfl, rfl⟩ := MessageRecord.mk.inj h
      exact ⟨_, rfl, _, rfl, _, rfl, _, rfl, rfl⟩

theorem messages_eq_ok : ∀ (rs : List MessageRecord) (ms : List Message),
    messages rs = .ok ms ↔ rs = Message.records ms
  | [], ms => by cases ms <;> simp [messages, Message.records]
  | r :: rs, ms => by
    simp only [messages, bind_eq_ok, message_eq_ok r, messages_eq_ok rs]
    cases ms <;> simp [Message.records, pure, Except.pure]

end

/-- The stored form of what a stored message says. -/
def canonical (v : Value) : Except RecordError Value :=
  toValue <$> ofValue v

theorem canonical_of_ofValue {v : Value} {r : MessageRecord} (h : ofValue v = .ok r) :
    canonical v = .ok r.toValue := by
  rw [canonical, h]
  rfl

/-- The second of two stored messages has all keys, with what the first has under them, and so do
their excerpts and footers. -/
inductive Completes : Value → Value → Prop
  | intro {v w : Value} {ss ss' fs fs' : List Value}
      (level : w.get? "level" = v.get? "level")
      (title : w.get? "title" = v.get? "title")
      (id : w.get? "id" = some (valueOr v "id" .null))
      (snippets : items v "snippets" = .ok ss) (snippets' : w.get? "snippets" = some (.seq ss'))
      (excerpts : List.Forall₂ SnippetRecord.Completes ss ss')
      (footer : items v "footer" = .ok fs) (footer' : w.get? "footer" = some (.seq fs'))
      (footers : List.Forall₂ Completes fs fs') : Completes v w

mutual

theorem completes_of_ofValue : ∀ (r : MessageRecord) {v : Value}, ofValue v = .ok r →
    Completes v r.toValue
  | { level, title, id, snippets, footers }, v, h => by
    obtain ⟨hlevel, htitle, hsnippets, hfooters, hid⟩ := ofValue_eq_ok.1 h
    obtain ⟨ss, hss, hsnippets⟩ := bind_eq_ok.1 hsnippets
    obtain ⟨fs, hfs, hfooters⟩ := bind_eq_ok.1 hfooters
    have hexcerpts := forall₂_of_mapM SnippetRecord.completes_of_ofValue hsnippets
    have hbelow := completes_of_forall₂ footers (mapM_eq_ok.1 hfooters)
    exact .intro (by simp [toValue_eq, hlevel]) (by simp [toValue_eq, htitle])
      (by simp [toValue_eq, hid]) hss (by simp [toValue_eq]) hexcerpts hfs (by simp [toValue_eq])
      hbelow

theorem completes_of_forall₂ : ∀ (rs : List MessageRecord) {vs : List Value},
    List.Forall₂ (fun v r => ofValue v = .ok r) vs rs →
      List.Forall₂ Completes vs (rs.map toValue)
  | [], _, .nil => .nil
  | r :: rs, _, .cons hv hvs => .cons (completes_of_ofValue r hv) (completes_of_forall₂ rs hvs)

end

end MessageRecord

namespace Message

/-- A stored form says a message just if its record is that of the message. -/
theorem ofValue_eq_ok {v : Value} {m : Message} :
    ofValue v = .ok m ↔ MessageRecord.ofValue v = .ok m.record := by
  simp only [ofValue, bind_eq_ok, MessageRecord.message_eq_ok]
  constructor
  · rintro ⟨r, hr, rfl⟩
    exact hr
  · intro h
    exact ⟨_, h, rfl⟩

/-- Messages come back from their stored forms, and so do records with values of any kind. The
stored form of what an accepted mapping says has all keys, with what the mapping has under them, and
is canonical: it says the same and is its own stored form. It is the stored form of the message,
where the mapping says one. -/
theorem ofValue_canonical :
    (∀ m : Message, ofValue m.toValue = .ok m) ∧
    (∀ r : MessageRecord, MessageRecord.ofValue r.toValue = .ok r) ∧
    (∀ (v : Value) (r : MessageRecord), MessageRecord.ofValue v = .ok r →
      MessageRecord.ofValue r.toValue = .ok r ∧
      MessageRecord.canonical r.toValue = .ok r.toValue ∧
      MessageRecord.Completes v r.toValue) ∧
    ∀ (v : Value) (m : Message), ofValue v = .ok m →
      MessageRecord.canonical v = .ok m.toValue := by
  refine ⟨fun m => ?_, MessageRecord.ofValue_toValue, fun v r hr => ?_, fun v m hm => ?_⟩
  · exact ofValue_eq_ok.2 (MessageRecord.ofValue_toValue m.record)
  · have hback := MessageRecord.ofValue_toValue r
    exact ⟨hback, MessageRecord.canonical_of_ofValue hback, MessageRecord.completes_of_ofValue r hr⟩
  · exact MessageRecord.canonical_of_ofValue (ofValue_eq_ok.1 hm)

/-- A stored message with a title of any kind, without a slug and with a key that says nothing. -/
def sketch (title : Value) : Value :=
  .record [
    (.text "level", .text "warning"),
    (.text "title", title),
    (.text "code", .int 7),
    (.text "snippets", .seq [.record [
      (.text "source", .text "a line"),
      (.text "annotations", .seq [.record [
        (.text "range", .record [(.text "start", .int 0), (.text "end", .int 1)]),
        (.text "level", .text "error")]])]]),
    (.text "footer", .seq [.record [
      (.text "level", .text "help"),
      (.text "title", .text "try again"),
      (.text "id", .null)]])]

/-- The message that a sketch with a textual title says. -/
def ofSketch (title : String) : Message where
  level := .warning
  title
  snippets := [{
    source := "a line"
    annotations := [{ start := 0, stop := 1, level := .error }] }]
  footers := [{ level := .help, title := "try again" }]

theorem ofValue_sketch (title : Value) :
    MessageRecord.ofValue (sketch title)
      = .ok { (ofSketch "").record with title } := by
  simp [MessageRecord.ofValue_eq_ok, SnippetRecord.ofValue_eq_ok, HighlightRecord.ofValue_eq_ok,
    bind_eq_ok, items, parts?, valueOr, sketch, ofSketch, record, records, Snippet.record,
    Highlight.record, ofText?, Level.name, pure, Except.pure]

/-- A sketch says a message if its title is a text; its canonical form is there in any case. -/
theorem sketches_canonical :
    MessageRecord.canonical (sketch (.text "late")) = .ok (ofSketch "late").toValue ∧
    ∃ r : MessageRecord, r.title = .int 5 ∧ MessageRecord.ofValue (sketch (.int 5)) = .ok r ∧
      MessageRecord.canonical r.toValue = .ok r.toValue ∧
      MessageRecord.Completes (sketch (.int 5)) r.toValue := by
  have htext : ofValue (sketch (.text "late")) = .ok (ofSketch "late") :=
    ofValue_eq_ok.2 (ofValue_sketch _)
  obtain ⟨-, -, hrecords, hmessages⟩ := ofValue_canonical
  obtain ⟨-, hcanonical, hcompletes⟩ := hrecords _ _ (ofValue_sketch (.int 5))
  exact ⟨hmessages _ _ htext, _, rfl, ofValue_sketch _, hcanonical, hcompletes⟩

end Message

end ProposalCheck
