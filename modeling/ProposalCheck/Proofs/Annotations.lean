import Mathlib.Data.List.Forall2
import ProposalCheck.Proofs.Advice
import ProposalCheck.Proofs.Numerals
import ProposalCheck.Proofs.Slices

/-!
# Annotations of the preamble

`Rule.annotations_select`: the bytes that an annotation of a rule about the preamble selects are read
as just the text that the annotation is about: a whole line, a whole value, the first character of a
value, a whole item of a list, or a mention.

A rule counts characters in the value of a field and then moves on by the name and the colon. So it
annotates the part of a value that stands behind another one (`Field.annotation_selects`), whatever
the lengths of the characters are.
-/

namespace ProposalCheck

/-! ### Bytes -/

namespace Highlight

/-- The bytes of a text in the range of an annotation. -/
def bytes (a : Highlight) (source : String) : List UInt8 :=
  (source.toUTF8.toList.drop a.start.toNat).take (a.stop - a.start).toNat

/-- An annotation selects a part of a text that stands behind another one: it starts there, and its
bytes are read as the part. -/
structure Selects (a : Highlight) (source before part : String) : Prop where
  place : ∃ after, source = before ++ part ++ after
  start : a.start = Text.byteLength before.toList
  decoded : Text.Decoding.decode (a.bytes source) = .ok part

theorem bytes_eq_encode {a : Highlight} {source : String} {before part after : List Char}
    (hsource : source.toList = before ++ (part ++ after))
    (hstart : a.start = Text.byteLength before)
    (hstop : a.stop = Text.byteLength (before ++ part)) : a.bytes source = Text.encode part := by
  have hbytes : source.toUTF8.toList
      = Text.encode before ++ (Text.encode part ++ Text.encode after) := by
    rw [Text.toList_toUTF8, hsource]
    exact (Text.encode_append _ _).trans (congrArg _ (Text.encode_append _ _))
  have hlength : (a.stop - a.start).toNat = (Text.encode part).length := by
    rw [hstart, hstop, Text.byteLength_append, Text.length_encode]
    omega
  rw [bytes, hbytes, hlength, hstart, Int.toNat_natCast,
    List.drop_left' (Text.length_encode before), List.take_left]

end Highlight

/-- The bytes of a range of characters are those of the characters. -/
theorem Level.bytes_spanChars (level : Level) (text : String) (start : Int) {length : Int}
    (h : 0 ≤ length) :
    (level.spanChars text start length).bytes text
      = Text.encode ((text.toList.take (start + length).toNat).drop start.toNat) := by
  have hle : start.toNat ≤ (start + length).toNat := by omega
  have htake : text.toList.take (start + length).toNat = text.toList.take start.toNat
      ++ (text.toList.take (start + length).toNat).drop start.toNat := by
    conv => lhs; rw [← List.take_append_drop start.toNat (text.toList.take _), List.take_take]
    rw [Nat.min_eq_left hle]
  have hsource : text.toList = text.toList.take start.toNat
      ++ ((text.toList.take (start + length).toNat).drop start.toNat
        ++ text.toList.drop (start + length).toNat) := by
    rw [← List.append_assoc, ← htake, List.take_append_drop]
  exact Highlight.bytes_eq_encode hsource rfl (congrArg (fun cs => (Text.byteLength cs : Int)) htake)

/-- An annotation on characters of a text selects them. -/
theorem Level.spanChars_selects (level : Level) (label source : String) (start length : Nat) :
    ((level.spanChars source start length).withLabel label).Selects source
      (String.ofList (source.toList.take start))
      (String.ofList ((source.toList.drop start).take length)) := by
  have hsource : source.toList = source.toList.take start
      ++ (source.toList.drop start).take length ++ source.toList.drop (start + length) := by
    rw [← List.take_add, List.take_append_drop]
  have hpart : (source.toList.take (start + length : Int).toNat).drop (start : Int).toNat
      = (source.toList.drop start).take length := by
    rw [← Int.natCast_add, Int.toNat_natCast, Int.toNat_natCast, List.drop_take,
      Nat.add_sub_cancel_left]
  refine ⟨⟨String.ofList (source.toList.drop (start + length)), ?_⟩, ?_, ?_⟩
  · rw [← String.ofList_append, ← String.ofList_append, ← hsource, String.ofList_toList]
  · rw [String.toList_ofList]
    rfl
  · rw [← hpart]
    have hbytes := level.bytes_spanChars source start (Int.natCast_nonneg length)
    exact (congrArg Text.Decoding.decode hbytes).trans (Text.decode_encode _)

/-- An annotation on characters of a value selects them behind the name and the colon. -/
theorem Field.annotation_selects (f : Field) (level : Level) (label : String) (start length : Nat) :
    ((level.spanChars f.source (f.name.length + 1 + start : Nat) length).withLabel label).Selects
      f.source (f.name ++ ":" ++ String.ofList (f.value.toList.take start))
      (String.ofList ((f.value.toList.drop start).take length)) := by
  have hsource : f.source.toList = (f.name ++ ":").toList ++ f.value.toList := by
    rw [source, String.toList_append]
  have hlength : (f.name ++ ":").toList.length = f.name.length + 1 := by
    rw [String.length_toList, String.length_append]
    rfl
  have h := level.spanChars_selects label f.source (f.name.length + 1 + start) length
  rw [hsource, ← hlength, List.take_length_add_append, List.drop_length_add_append,
    String.ofList_append, String.ofList_toList, hlength] at h
  exact h

/-- An excerpt shows the line of a field, and its only annotation has a label and selects a part of
the line. -/
structure Snippet.Marks (x : Snippet) (f : Field) (label before part : String) : Prop where
  source : x.source = f.source
  line : x.lineStart = f.line
  annotation : ∃ a, x.annotations = [a] ∧ a.label = some label ∧ a.Selects f.source before part

/-- An excerpt with an annotation on a part of the value of a field. -/
theorem Context.fieldSnippet_marks (c : Context) (f : Field) (level : Level) (label : String)
    (start length : Nat) :
    ((c.fieldSnippet f).annotate ((level.spanChars f.source (f.name.length + 1 + start : Nat)
      length).withLabel label)).Marks f label
        (f.name ++ ":" ++ String.ofList (f.value.toList.take start))
        (String.ofList ((f.value.toList.drop start).take length)) :=
  ⟨rfl, rfl, _, rfl, rfl, f.annotation_selects level label start length⟩

namespace Rule

/-! ### Names -/

namespace Duplicates

/-- A message about a name shows the first field that has it and a later one, and marks both lines as
a whole. -/
def Marks (p : Preamble) (m : Message) : Prop :=
  ∃ earlier first between again later,
    p.fields = earlier ++ first :: (between ++ again :: later) ∧
    (∀ f ∈ earlier, f.name ≠ first.name) ∧ again.name = first.name ∧
    m.title = "preamble header \x60" ++ first.name ++ "\x60 defined multiple times" ∧
    ∃ x y, m.snippets = [x, y] ∧ x.Marks first "first defined here" "" first.source ∧
      y.Marks again "redefined here" "" again.source

theorem exists_of_mem_pairs {fields : List Field} {first again : Field}
    (h : (first, again) ∈ pairs fields) :
    ∃ earlier between later, fields = earlier ++ first :: (between ++ again :: later) ∧
      (∀ f ∈ earlier, f.name ≠ first.name) ∧ again.name = first.name := by
  obtain ⟨f, hf, hpair⟩ := List.mem_filterMap.1 h
  split at hpair
  · rename_i found hfound
    split at hpair
    · cases hpair
    · rename_i hne
      obtain ⟨rfl, rfl⟩ := Prod.mk.inj (Option.some.inj hpair)
      obtain ⟨hname, earlier, rest, hfields, hearlier⟩ := List.find?_eq_some_iff_append.1 hfound
      have hname : found.name = f.name := by simpa using hname
      have hfirst : ∀ g ∈ earlier, g.name ≠ found.name := by simpa [hname] using hearlier
      -- a field that is not the first one of its name comes behind it
      have hrest : f ∈ rest := by
        rw [hfields, List.mem_append, List.mem_cons] at hf
        rcases hf with hf | rfl | hf
        · exact absurd hname.symm (hfirst f hf)
        · exact absurd (beq_self_eq_true f) hne
        · exact hf
      obtain ⟨between, later, rfl⟩ := List.append_of_mem hrest
      exact ⟨earlier, between, later, hfields, hfirst, hname.symm⟩
  · cases hpair

theorem snippet_marks (c : Context) (f : Field) (level : Level) (label : String) :
    ((c.fieldSnippet f).annotate ((level.spanChars f.source 0 f.source.length).withLabel
      label)).Marks f label "" f.source := by
  have h := level.spanChars_selects label f.source 0 f.source.length
  rw [List.take_zero, List.drop_zero, ← String.length_toList, List.take_length,
    String.ofList_toList, String.length_toList] at h
  exact ⟨rfl, rfl, _, rfl, rfl, h⟩

theorem marks {slug : String} {c : Context} {m : Message}
    (h : m ∈ (duplicates.check slug c).messages) : Marks c.preamble m := by
  obtain ⟨⟨first, again⟩, hpair, rfl⟩ := List.mem_map.1 h
  obtain ⟨earlier, between, later, hfields, hearlier, hname⟩ := exists_of_mem_pairs hpair
  exact ⟨earlier, first, between, again, later, hfields, hearlier, hname, rfl, _, _, rfl,
    snippet_marks c first _ _, snippet_marks c again _ _⟩

end Duplicates

/-! ### Blanks -/

namespace Spacing

/-- The first character of a value is not a space, and an excerpt marks it. -/
def MarksStart (f : Field) (x : Snippet) : Prop :=
  ∃ first rest, f.value.toList = first :: rest ∧ first ≠ ' ' ∧
    x.Marks f "space required here" (f.name ++ ":") (String.ofList [first])

/-- A message about blanks marks a whole value, or else the first character of each value that does
not begin with a space. -/
def Marks (p : Preamble) (m : Message) : Prop :=
  (∃ f ∈ p.fields, hasExtra f = true ∧
    m.title = "preamble header \x60" ++ f.name ++ "\x60 has extra whitespace" ∧
    ∃ x, m.snippets = [x] ∧ x.Marks f "value has extra whitespace" (f.name ++ ":") f.value) ∨
  (m.title = "preamble header values must begin with a space" ∧
    List.Forall₂ MarksStart (p.fields.filter lacksSpace) m.snippets)

theorem mark_marks (c : Context) (f : Field) (length : Nat) (label : String) :
    (mark c f length label).Marks f label (f.name ++ ":")
      (String.ofList (f.value.toList.take length)) := by
  have h := c.fieldSnippet_marks f c.level label 0 length
  rw [List.take_zero, List.drop_zero, String.ofList_nil, String.append_empty] at h
  exact h

theorem mark_start {c : Context} {f : Field} (h : lacksSpace f = true) :
    MarksStart f (mark c f 1 "space required here") := by
  unfold lacksSpace at h
  split at h
  · cases h
  · rename_i first rest hvalue
    refine ⟨first, rest, hvalue, bne_iff_ne.1 h, ?_⟩
    have h := mark_marks c f 1 "space required here"
    rwa [hvalue, List.take_succ_cons, List.take_zero] at h

theorem marks {slug : String} {c : Context} {m : Message}
    (h : m ∈ (spacing.check slug c).messages) : Marks c.preamble m := by
  obtain ⟨m, hm, rfl⟩ := List.mem_map.1 h
  rcases List.mem_append.1 hm with hm | hm
  · obtain ⟨f, hf, rfl⟩ := List.mem_map.1 hm
    obtain ⟨hf, hextra⟩ := List.mem_filter.1 hf
    have h := mark_marks c f f.value.length "value has extra whitespace"
    rw [← String.length_toList, List.take_length, String.ofList_toList, String.length_toList] at h
    exact .inl ⟨f, hf, hextra, rfl, _, rfl, h⟩
  · split at hm
    · cases hm
    · obtain rfl := List.mem_singleton.1 hm
      refine .inr ⟨rfl, List.forall₂_map_right_iff.2 (List.forall₂_same.2 fun f hf => ?_)⟩
      exact mark_start (List.mem_filter.1 hf).2

end Spacing

/-! ### Required proposals -/

namespace RequiredStatus

/-- A part of a list that reaches from one comma or end of the list to the next. -/
structure WholeItem (value before item after : String) : Prop where
  value : value = before ++ item ++ after
  plain : ',' ∉ item.toList
  left : before = "" ∨ ∃ rest, before = rest ++ ","
  right : after = "" ∨ ∃ rest, after = "," ++ rest

/-- An annotation selects the whole item of a list that denotes a number, with the blanks around the
number. -/
def MarksNumber (f : Field) (a : Highlight) (label : String) (number : Int) : Prop :=
  ∃ before item after, WholeItem f.value before item after ∧
    isDigits (Text.trim item).toList = true ∧ Text.Numeral.read (Text.trim item) = .ok number ∧
    a.label = some label ∧ a.Selects f.source (f.name ++ ":" ++ before) item

/-- A message about the list marks the item of the proposal that cannot be read, or items of
proposals that are less advanced than the document. -/
def Marks (s : Setup) (c : Context) (m : Message) : Prop :=
  ∃ f x, c.preamble.byName? s.requires = some f ∧ m.snippets = [x] ∧ x.source = f.source ∧
    ((∃ n e a, c.atPath (fileName n) = .error (.failed e) ∧
        m.title = "unable to read file \x60" ++ fileName n ++ "\x60: " ++ e.message ∧
        x.annotations = [a] ∧ MarksNumber f a "required from here" n) ∨
      (x.annotations ≠ [] ∧ ∀ a ∈ x.annotations, ∃ n other, c.atPath (fileName n) = .ok other ∧
        s.flow.tierOf s.status other.preamble < s.flow.tierOf s.status c.preamble ∧
        MarksNumber f a "has a less advanced status" n))

/-- What stands before a piece and its commas are part of the text. -/
theorem exists_of_mem_place {start : Nat} {ss : List String} {i : Item} (h : i ∈ place start ss) :
    ∃ before after, [','].intercalate (ss.map String.toList) = before ++ i.text.toList ++ after ∧
      (before = [] ∨ ∃ rest, before = rest ++ [',']) ∧ (after = [] ∨ ∃ rest, after = ',' :: rest) ∧
      i.start = start + before.length := by
  induction ss generalizing start with
  | nil => cases h
  | cons s rest ih =>
    rcases List.mem_cons.1 h with rfl | h
    · cases rest with
      | nil => exact ⟨[], [], by simp, .inl rfl, .inl rfl, rfl⟩
      | cons t ts =>
        refine ⟨[], ',' :: [','].intercalate ((t :: ts).map String.toList), ?_, .inl rfl,
          .inr ⟨_, rfl⟩, rfl⟩
        rw [List.map_cons, List.map_cons, List.intercalate_cons_cons, List.append_assoc]
        rfl
    · obtain ⟨before, after, hrest, hleft, hright, hstart⟩ := ih h
      cases rest with
      | nil => cases h
      | cons t ts =>
        refine ⟨s.toList ++ ',' :: before, after, ?_, .inr ?_, hright, ?_⟩
        · rw [List.map_cons] at hrest
          rw [List.map_cons, List.map_cons, List.intercalate_cons_cons, hrest]
          simp
        · rcases hleft with rfl | ⟨front, rfl⟩
          · exact ⟨s.toList, rfl⟩
          · exact ⟨s.toList ++ ',' :: front, by simp⟩
        · rw [hstart, List.length_append, List.length_cons, String.length_toList]
          omega

theorem exists_wholeItem {value : String} {i : Item} (h : i ∈ items value) :
    ∃ before after, WholeItem value before i.text after ∧ i.start = before.length := by
  obtain ⟨before, after, hvalue, hleft, hright, hstart⟩ := exists_of_mem_place h
  have hpieces : (Text.splitOn ',' value).map String.toList = value.toList.splitOn ',' := by
    rw [Text.splitOn, List.map_map, Text.split_eq_splitOn]
    exact List.map_id'' (fun _ => String.toList_ofList) _
  rw [hpieces, List.intercalate_splitOn] at hvalue
  refine ⟨String.ofList before, String.ofList after, ⟨?_, ?_, ?_, ?_⟩, ?_⟩
  · rw [← String.toList_inj, hvalue, String.toList_append, String.toList_append,
      String.toList_ofList, String.toList_ofList]
  · obtain ⟨piece, hpiece, htext⟩ := List.mem_map.1 (mem_of_mem_place h)
    rw [← htext, String.toList_ofList]
    exact Text.not_mem_of_mem_split hpiece
  · rcases hleft with rfl | ⟨rest, rfl⟩
    · exact .inl rfl
    · exact .inr ⟨String.ofList rest, String.ofList_append⟩
  · rcases hright with rfl | ⟨rest, rfl⟩
    · exact .inl rfl
    · refine .inr ⟨String.ofList rest, ?_⟩
      rw [← List.singleton_append, String.ofList_append]
  · rw [hstart, Nat.zero_add, String.length_ofList]

theorem exists_number {i : Item} {n : Int} (h : i.number? = .ok (some n)) :
    isDigits (Text.trim i.text).toList = true ∧ Text.Numeral.read (Text.trim i.text) = .ok n := by
  unfold Item.number? at h
  simp only at h
  split at h
  · rename_i hdigits
    refine ⟨hdigits, ?_⟩
    cases hread : Text.Numeral.read (Text.trim i.text) with
    | error e =>
      rw [hread] at h
      cases h
    | ok k =>
      rw [hread] at h
      obtain rfl := Option.some.inj (Except.ok.inj h)
      rfl
  · cases h

theorem mark_marks {c : Context} {f : Field} {i : Item} {n : Int} (label : String)
    (hi : i ∈ items f.value) (h : i.number? = .ok (some n)) :
    MarksNumber f (mark c f i label) label n := by
  obtain ⟨before, after, hwhole, hstart⟩ := exists_wholeItem hi
  obtain ⟨hdigits, hread⟩ := exists_number h
  refine ⟨before, i.text, after, hwhole, hdigits, hread, rfl, ?_⟩
  have h := f.annotation_selects c.level label i.start i.text.length
  have hvalue : f.value.toList = before.toList ++ (i.text.toList ++ after.toList) := by
    rw [hwhole.value, String.toList_append, String.toList_append, List.append_assoc]
  rw [hvalue, hstart, List.take_left' String.length_toList, List.drop_left' String.length_toList,
    List.take_left' String.length_toList, String.ofList_toList, String.ofList_toList, ← hstart] at h
  exact h

theorem marks {s : Setup} {slug : String} {c : Context} {m : Message}
    (h : m ∈ ((requiredStatus s).check slug c).messages) : Marks s c m := by
  simp only [requiredStatus, check] at h
  cases hf : c.preamble.byName? s.requires with
  | none =>
    rw [hf] at h
    cases h
  | some f =>
    simp only [hf] at h
    rcases List.mem_append.1 h with h | h
    · obtain ⟨i, hi, hjudge⟩ := mem_judgeAll (mem_unreadable h)
      rcases judge_eq_ok hjudge with hv | ⟨n, hn, ⟨other, -, hv⟩ | ⟨e, he, hv⟩⟩
      · cases hv
      · cases hv
      · obtain rfl := Verdict.unreadable.inj hv
        exact ⟨f, _, hf, rfl, rfl, .inl ⟨n, e, _, he, rfl, rfl, mark_marks _ hi hn⟩⟩
    · split at h
      · cases h
      · obtain ⟨-, -, hne, hsnippets⟩ := mem_unstable h
        refine ⟨f, _, hf, hsnippets, rfl, .inr ⟨hne, fun a ha => ?_⟩⟩
        obtain ⟨tier, htier, hv⟩ := mem_below ha
        obtain ⟨i, hi, hjudge⟩ := mem_judgeAll hv
        rcases judge_eq_ok hjudge with hv | ⟨n, hn, ⟨other, hother, hv⟩ | ⟨e, he, hv⟩⟩
        · cases hv
        · obtain ⟨rfl, rfl⟩ := Verdict.tier.inj hv
          exact ⟨n, other, hother, htier, mark_marks _ hi hn⟩
        · cases hv

end RequiredStatus

/-! ### Mentions -/

namespace Mention

/-- A message about a mention marks the whole of what matches, and tells what is wrong with it. -/
def Marks (s : Setup) (c : Context) (m : Message) : Prop :=
  ∃ f found n x, c.preamble.byName? s.field = some f ∧ found ∈ mentions f.value ∧
    number f.value found = .ok n ∧
    Tells s c n (slice f.value.toList found.start found.stop) m.title ∧ m.snippets = [x] ∧
    x.Marks f "referenced here" (f.name ++ ":" ++ slice f.value.toList 0 found.start)
      (slice f.value.toList found.start found.stop)

theorem marks {s : Setup} {slug : String} {c : Context} {m : Message}
    (h : m ∈ ((mention s).check slug c).messages) : Marks s c m := by
  simp only [mention, check] at h
  cases hf : c.preamble.byName? s.field with
  | none =>
    rw [hf] at h
    cases h
  | some f =>
    simp only [hf] at h
    obtain ⟨_, hfindings, hm⟩ := Findings.mem_messages_concat h
    obtain ⟨found, hfound, rfl⟩ := List.mem_map.1 hfindings
    obtain ⟨-, -, hsnippets, n, hn, htells⟩ := mem_judge hm
    refine ⟨f, found, n, _, hf, hfound, hn, htells, hsnippets, ?_⟩
    exact c.fieldSnippet_marks f c.level "referenced here" found.start (found.stop - found.start)

end Mention

/-- Whatever names and values the fields of a preamble have, each annotation of the rules about names,
blanks, required proposals and mentions selects just the text that it is about. -/
theorem annotations_select (slug : String) (c : Context) :
    (∀ m ∈ (duplicates.check slug c).messages, Duplicates.Marks c.preamble m) ∧
    (∀ m ∈ (spacing.check slug c).messages, Spacing.Marks c.preamble m) ∧
    (∀ s, ∀ m ∈ ((requiredStatus s).check slug c).messages, RequiredStatus.Marks s c m) ∧
    ∀ s, ∀ m ∈ ((mention s).check slug c).messages, Mention.Marks s c m :=
  ⟨fun _ => Duplicates.marks, fun _ => Spacing.marks, fun _ _ => RequiredStatus.marks,
    fun _ _ => Mention.marks⟩

/-- A preamble with names and values whose characters have several bytes. -/
def accented : Context :=
  let d := RequiredStatus.documentAt "eip-9.md"
    "---\nétât:é 😀\nbésoins: é, 1 ,2\nétât: x\u2003\ntître: é erc-1 😀\nstatus: Final\n---\n"
  { document := d, level := .error, settings := {}
    cache := { entries := [
      (d.pathReference "eip-1.md",
        .ok (RequiredStatus.documentAt "eip-1.md" "---\nstatus: Draft\n---\n")),
      (d.pathReference "eip-2.md", .error (.unreadable (.unreadable "missing")))] } }

/-- The rule about required proposals for a list with an accented name. -/
def accentedStatus : RequiredStatus.Setup :=
  { RequiredStatus.fourTiers with requires := "bésoins" }

/-- The rule about mentions for a field with an accented name. -/
def accentedMention : Mention.Setup where
  field := "tître"

theorem accented_selected :
    (∃ m ∈ (duplicates.check "names" accented).messages, Duplicates.Marks accented.preamble m) ∧
    (∃ m ∈ (spacing.check "blanks" accented).messages, Spacing.Marks accented.preamble m) ∧
    (∃ m ∈ ((requiredStatus accentedStatus).check "status" accented).messages,
      RequiredStatus.Marks accentedStatus accented m) ∧
    ∃ m ∈ ((mention accentedMention).check "mentions" accented).messages,
      Mention.Marks accentedMention accented m := by
  have hreported : (duplicates.check "names" accented).messages.isEmpty = false ∧
      (spacing.check "blanks" accented).messages.isEmpty = false ∧
      ((requiredStatus accentedStatus).check "status" accented).messages.isEmpty = false ∧
      ((mention accentedMention).check "mentions" accented).messages.isEmpty = false := by
    decide +kernel
  obtain ⟨hnames, hblanks, hstatus, hmentions⟩ := hreported
  have hsome {ms : List Message} (h : ms.isEmpty = false) : ∃ m, m ∈ ms :=
    List.exists_mem_of_ne_nil ms (List.isEmpty_eq_false_iff.1 h)
  obtain ⟨m, hm⟩ := hsome hnames
  obtain ⟨m', hm'⟩ := hsome hblanks
  obtain ⟨r, hr⟩ := hsome hstatus
  obtain ⟨n, hn⟩ := hsome hmentions
  exact ⟨⟨m, hm, (annotations_select "names" accented).1 m hm⟩,
    ⟨m', hm', (annotations_select "blanks" accented).2.1 m' hm'⟩,
    ⟨r, hr, (annotations_select "status" accented).2.2.1 _ r hr⟩,
    ⟨n, hn, (annotations_select "mentions" accented).2.2.2 _ n hn⟩⟩

/-- The blanks around a number belong to its item, and the commas around an item do not. -/
example : ((requiredStatus accentedStatus).check "status" accented).messages.map (fun m =>
      m.snippets.map fun x => x.annotations.map fun a => a.bytes x.source)
    = [[["2".toUTF8.toList]], [[" 1 ".toUTF8.toList]]] := by
  decide +kernel

end Rule

end ProposalCheck
