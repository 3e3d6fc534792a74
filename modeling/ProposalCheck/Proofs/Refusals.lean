import Mathlib.Data.Set.List
import ProposalCheck.Config.Loading
import ProposalCheck.Proofs.FileTexts
import ProposalCheck.Proofs.Lookups
import ProposalCheck.Proofs.Updates

/-!
# Configurations that are refused

`Config.load_breaks_iff`: whatever is in a configuration file and in the environment, a
configuration can be loaded or is refused in its own terms, except for what `Config.Breaks` lists.
What a mapping comes to depends on the first thing in it that is wrong (`Config.dataStop?`), and so
do these exceptions: `Config.DataBreaks` names the first one of each sort and asks that nothing
before it is refused.
-/

namespace ProposalCheck

open Data (Value)

variable {v : Value} {es : List (Value × Value)}

/-! ### Modifiers -/

/-- The errors in modifiers for which a configuration is not refused. -/
def ModifierError.Breaks : ModifierError → Prop
  | .unusableKind _ => True
  | .unwritableKind _ => True
  | _ => False

namespace DefaultLevel

/-- The kind that a modifier is said to be of. -/
def kindIn (v : Value) : Value :=
  (v.get? "kind").getD .null

/-- The kind of a modifier cannot be looked up, or there is none such and it cannot be written. -/
inductive Breaks (v : Value) : Prop where
  | unusable (es : List (Value × Value)) (hv : v.opened = .record es)
      (hkind : (kindIn (.record es)).isKey = false)
  | unwritable (es : List (Value × Value)) (hv : v.opened = .record es)
      (hkind : (kindIn (.record es)).isKey) (hother : kindIn (.record es) ≠ .text kind)
      (e : Text.NumeralError) (hquoted : (kindIn (.record es)).quoted = .error e)

/-- The modifier of the usual kind that entries stand for. -/
def ofEntries (v : Value) : Except ModifierError DefaultLevel := do
  let name := Text.lowercase (← entry v "annotation_level")
  match Level.ofName? name with
  | none => throw (.unknownLevel name)
  | some level => return { field := ← entry v "name", value := ← entry v "value", level }

theorem ofValue_eq (v : Value) :
    ofValue v =
      if v.opened.kindName == Data.Enclosure.mapping.kindName then
        if (kindIn v.opened).isKey then
          if (kindIn v.opened).sameKey (.text kind) then ofEntries v.opened
          else ((kindIn v.opened).quoted.mapError .unwritableKind) >>= fun quoted =>
            .error (.unknownKind quoted)
        else .error (.unusableKind (kindIn v.opened).unusableKind)
      else .error (.notMapping v.opened.kindName) := by
  unfold ofValue kindIn
  generalize v.opened = w
  simp only [show (Value.record []).kindName = Data.Enclosure.mapping.kindName from rfl]
  generalize (w.get? "kind").getD .null = kind
  cases w.kindName == Data.Enclosure.mapping.kindName
  · rfl
  cases kind.isKey
  · rfl
  cases kind.sameKey (.text DefaultLevel.kind)
  · cases kind.quoted <;> rfl
  · rfl

theorem not_breaks_of_entry {key : String} {e : ModifierError} (h : entry v key = .error e) :
    ¬ e.Breaks := by
  unfold entry at h
  split at h
  · obtain rfl := Except.error.inj h
    exact id
  · obtain ⟨_, -, rfl⟩ := mapError_eq_error h
    exact id

theorem not_breaks_of_ofEntries {e : ModifierError} (h : ofEntries v = .error e) :
    ¬ e.Breaks := by
  rcases bind_eq_error.1 h with h | ⟨level, -, h⟩
  · exact not_breaks_of_entry h
  simp only at h
  split at h
  · obtain rfl := Except.error.inj h
    exact id
  rcases bind_eq_error.1 h with h | ⟨name, -, h⟩
  · exact not_breaks_of_entry h
  rcases bind_eq_error.1 h with h | ⟨value, -, h⟩
  · exact not_breaks_of_entry h
  · cases h

theorem ofValue_of_record (h : v.opened = .record es) :
    ofValue v =
      if (kindIn (.record es)).isKey then
        if (kindIn (.record es)).sameKey (.text kind) then ofEntries (.record es)
        else ((kindIn (.record es)).quoted.mapError .unwritableKind) >>= fun quoted =>
          .error (.unknownKind quoted)
      else .error (.unusableKind (kindIn (.record es)).unusableKind) := by
  rw [ofValue_eq, h]
  rfl

/-- What is no mapping is refused as a modifier. -/
theorem not_breaks_of_not_record {e : ModifierError} (hv : ∀ es, v.opened ≠ .record es)
    (h : ofValue v = .error e) : ¬ e.Breaks := by
  have hkind : kindIn v.opened = .null := by
    cases hw : v.opened with
    | record es => exact absurd hw (hv es)
    | _ => rfl
  rw [ofValue_eq, hkind] at h
  split at h
  · obtain rfl := Except.error.inj h
    exact id
  · obtain rfl := Except.error.inj h
    exact id

theorem breaks_iff : (∃ e, ofValue v = .error e ∧ e.Breaks) ↔ Breaks v := by
  constructor
  · rintro ⟨e, he, hbreaks⟩
    by_cases hv : ∃ es, v.opened = .record es
    · obtain ⟨es, hv⟩ := hv
      rw [ofValue_of_record hv] at he
      split at he
      · rename_i hkey
        split at he
        · exact absurd hbreaks (not_breaks_of_ofEntries he)
        · rename_i hother
          rcases bind_eq_error.1 he with he | ⟨_, -, he⟩
          · obtain ⟨x, hquoted, -⟩ := mapError_eq_error he
            exact .unwritable es hv hkey (mt Value.sameKey_text.2 hother) x hquoted
          · obtain rfl := Except.error.inj he
            exact hbreaks.elim
      · rename_i hkey
        exact .unusable es hv (Bool.eq_false_iff.2 hkey)
    · exact absurd hbreaks (not_breaks_of_not_record (not_exists.1 hv) he)
  · rintro (⟨es, hv, hkey⟩ | ⟨es, hv, hkey, hother, e, hquoted⟩)
    · exact ⟨_, (ofValue_of_record hv).trans (if_neg (Bool.eq_false_iff.1 hkey)), trivial⟩
    · refine ⟨.unwritableKind e, ?_, trivial⟩
      rw [ofValue_of_record hv, if_pos hkey, if_neg (mt Value.sameKey_text.1 hother), hquoted]
      rfl

end DefaultLevel

namespace Config

/-! ### Values without a text -/

/-- A value that cannot be written: a number with too many digits, or something with one inside. -/
def Unwritable (v : Value) : Prop :=
  ∃ e, v.plain = .error e

theorem textStop?_eq_none : textStop? v = none ↔ ¬ Unwritable v := by
  unfold textStop? Unwritable
  cases v.plain <;> simp

theorem textStop?_broken : (∃ f, textStop? v = some (.broken f)) ↔ Unwritable v := by
  unfold textStop? Unwritable
  cases v.plain <;> simp

theorem modifierStop?_eq_none : modifierStop? v = none ↔ ∃ m, readModifier v = .ok m := by
  unfold modifierStop?
  cases readModifier v <;> simp

theorem modifierStop?_broken :
    (∃ f, modifierStop? v = some (.broken f)) ↔ DefaultLevel.Breaks v := by
  rw [← DefaultLevel.breaks_iff]
  unfold modifierStop? readModifier
  cases DefaultLevel.ofValue v with
  | ok m => simp [Except.mapError]
  | error e => cases e <;> simp [Except.mapError, ModifierError.Breaks]

/-- The first complaint about the items of a list breaks an update if that item does. -/
theorem findSome?_broken {α : Type} {stop? : α → Option ConfigStop} {xs : List α} :
    (∃ f, xs.findSome? stop? = some (.broken f)) ↔
      ∃ before x after, xs = before ++ x :: after ∧ (∀ b ∈ before, stop? b = none) ∧
        ∃ f, stop? x = some (.broken f) := by
  simp only [List.findSome?_eq_some_iff]
  constructor
  · rintro ⟨f, before, x, after, hxs, hx, hbefore⟩
    exact ⟨before, x, after, hxs, hbefore, f, hx⟩
  · rintro ⟨before, x, after, hxs, hbefore, f, hx⟩
    exact ⟨f, before, x, after, hxs, hx, hbefore⟩

/-! ### Keys -/

theorem firstClash?_texts (ss : List String) : firstClash? (ss.map .text) = none := by
  induction ss with
  | nil => rfl
  | cons s rest ih =>
    cases rest with
    | nil => rfl
    | cons t rest =>
      have hnone : clash? (.text s) (.text t) = none := by simp [clash?, Value.kindName]
      rw [List.map_cons, List.map_cons, firstClash?, hnone, Option.none_or]
      exact ih

theorem mapM_texts {vs : List Value} {ss : List String} :
    (vs.mapM fun | .text s => some s | _ => none) = some ss ↔ vs = ss.map .text := by
  induction vs generalizing ss with
  | nil => cases ss <;> simp
  | cons v rest ih =>
    rw [List.mapM_cons]
    cases v with
    | text s => cases ss <;> simp [Option.bind_eq_some_iff, ih, and_comm]
    | _ => cases ss <;> simp

/-- Unknown keys are told if all of them are texts. -/
theorem unknownKeys_broken {first : Value} {rest : List Value} :
    (∃ f, unknownKeys first rest = .broken f) ↔ ∃ k ∈ first :: rest, ∀ s, k ≠ .text s := by
  unfold unknownKeys
  constructor
  · rintro ⟨f, hf⟩
    by_contra hall
    push Not at hall
    have htexts : first :: rest ∈ Set.range (List.map Value.text) := by
      rw [Set.range_list_map]
      exact fun k hk => (hall k hk).imp fun _ => Eq.symm
    obtain ⟨ss, hss⟩ := htexts
    split at hf
    · rename_i hclash
      rw [← hss, firstClash?_texts] at hclash
      cases hclash
    · split at hf
      · cases hf
      · rename_i hnone
        cases hnone.symm.trans (mapM_texts.2 hss.symm)
  · rintro ⟨k, hk, hnot⟩
    split
    · exact ⟨_, rfl⟩
    · split
      · rename_i ss hss
        obtain ⟨s, -, rfl⟩ := List.mem_map.1 (mapM_texts.1 hss ▸ hk)
        exact absurd rfl (hnot s)
      · exact ⟨_, rfl⟩

/-! ### Data -/

/-- Every key is one that a configuration may have. -/
def KeysKnown (es : List (Value × Value)) : Prop :=
  ∀ e ∈ es, isKnownKey e.1 = true

/-- The first thing that is wrong with a mapping is none that a configuration is refused for. -/
inductive DataBreaks (es : List (Value × Value)) : Prop where
  /-- A key is no text. -/
  | key (e : Value × Value) (he : e ∈ es) (hkey : ∀ s, e.1 ≠ .text s)
  /-- The template of file names cannot be written. -/
  | format (hkeys : KeysKnown es) (v : Value)
      (hv : (Value.record es).get? proposalFormatKey = some v) (hwritten : Unwritable v)
  /-- The modifiers are nothing that has items. -/
  | modifiers (hkeys : KeysKnown es) (hformat : formatStop? (.record es) = none) (v : Value)
      (hv : present? (.record es) modifiersKey = some v) (f : ConfigFault)
      (hitems : items v = .error f)
  /-- The kind of a modifier cannot be looked up or written, and those before it are modifiers. -/
  | modifier (hkeys : KeysKnown es) (hformat : formatStop? (.record es) = none) (v : Value)
      (hv : present? (.record es) modifiersKey = some v) (before : List Value) (x : Value)
      (after : List Value) (hitems : items v = .ok (before ++ x :: after))
      (hbefore : ∀ b ∈ before, ∃ m, readModifier b = .ok m) (hx : DefaultLevel.Breaks x)
  /-- A slug cannot be written, and everything before it can be taken over. -/
  | slug (hkeys : KeysKnown es) (hformat : formatStop? (.record es) = none)
      (hmodifiers : modifiersStop? (.record es) = none) (earlier : List Severity) (s : Severity)
      (later : List Severity) (hall : Severity.all = earlier ++ s :: later)
      (hearlier : ∀ t ∈ earlier, severityStop? (.record es) t = none) (v : Value)
      (hv : present? (.record es) s.name = some v) (before : List Value) (x : Value)
      (after : List Value) (hitems : v.opened = .seq (before ++ x :: after))
      (hbefore : ∀ b ∈ before, ¬ Unwritable b) (hx : Unwritable x)

theorem formatStop?_broken {data : Value} :
    (∃ f, formatStop? data = some (.broken f)) ↔
      ∃ v, data.get? proposalFormatKey = some v ∧ Unwritable v := by
  unfold formatStop?
  cases data.get? proposalFormatKey with
  | none => simp
  | some v => simpa using textStop?_broken

theorem modifiersStop?_broken {data : Value} :
    (∃ f, modifiersStop? data = some (.broken f)) ↔
      ∃ v, present? data modifiersKey = some v ∧ ((∃ f, items v = .error f) ∨
        ∃ before x after, items v = .ok (before ++ x :: after) ∧
          (∀ b ∈ before, ∃ m, readModifier b = .ok m) ∧ DefaultLevel.Breaks x) := by
  unfold modifiersStop?
  cases present? data modifiersKey with
  | none => simp
  | some v =>
    cases hitems : items v with
    | error f => simp [hitems]
    | ok xs => simp [hitems, findSome?_broken, modifierStop?_eq_none, modifierStop?_broken]

theorem severityStop?_broken {data : Value} {s : Severity} :
    (∃ f, severityStop? data s = some (.broken f)) ↔
      ∃ v, present? data s.name = some v ∧ ∃ before x after,
        v.opened = .seq (before ++ x :: after) ∧ (∀ b ∈ before, ¬ Unwritable b) ∧ Unwritable x := by
  unfold severityStop?
  cases present? data s.name with
  | none => simp
  | some v =>
    cases hitems : v.opened with
    | seq xs => simp [hitems, findSome?_broken, textStop?_eq_none, textStop?_broken]
    | _ => simp [hitems]

theorem or_broken {o o' : Option ConfigStop} :
    (∃ f, o.or o' = some (.broken f)) ↔
      (∃ f, o = some (.broken f)) ∨ o = none ∧ ∃ f, o' = some (.broken f) := by
  cases o <;> simp

theorem keysKnown_iff :
    KeysKnown es ↔ ((es.map (·.1)).filter fun k => !isKnownKey k) = [] := by
  simp [KeysKnown, List.filter_eq_nil_iff]

theorem isKnownKey_eq_false (hv : ∀ s, v ≠ .text s) : isKnownKey v = false := by
  cases v with
  | text s => exact absurd rfl (hv s)
  | _ => rfl

/-- If all keys are known, then the entries are looked at in order. -/
theorem dataBreaks_iff (hkeys : KeysKnown es) :
    DataBreaks es ↔ (∃ f, formatStop? (.record es) = some (.broken f)) ∨
      formatStop? (.record es) = none ∧ ((∃ f, modifiersStop? (.record es) = some (.broken f)) ∨
        modifiersStop? (.record es) = none ∧
          ∃ f, Severity.all.findSome? (severityStop? (.record es)) = some (.broken f)) := by
  rw [formatStop?_broken, modifiersStop?_broken, findSome?_broken]
  simp only [severityStop?_broken]
  constructor
  · intro h
    cases h with
    | key e he hkey =>
      have := hkeys e he
      rw [isKnownKey_eq_false hkey] at this
      cases this
    | format _ v hv hwritten => exact .inl ⟨v, hv, hwritten⟩
    | modifiers _ hformat v hv f hitems => exact .inr ⟨hformat, .inl ⟨v, hv, .inl ⟨f, hitems⟩⟩⟩
    | modifier _ hformat v hv before x after hitems hbefore hx =>
      exact .inr ⟨hformat, .inl ⟨v, hv, .inr ⟨before, x, after, hitems, hbefore, hx⟩⟩⟩
    | slug _ hformat hmodifiers earlier s later hall hearlier v hv before x after hitems hbefore
        hx =>
      exact .inr ⟨hformat, .inr ⟨hmodifiers, earlier, s, later, hall, hearlier, v, hv, before, x,
        after, hitems, hbefore, hx⟩⟩
  · rintro (⟨v, hv, hwritten⟩ | ⟨hformat, hmodifiers | ⟨hmodifiers, hslug⟩⟩)
    · exact .format hkeys v hv hwritten
    · obtain ⟨v, hv, ⟨f, hitems⟩ | ⟨before, x, after, hitems, hbefore, hx⟩⟩ := hmodifiers
      · exact .modifiers hkeys hformat v hv f hitems
      · exact .modifier hkeys hformat v hv before x after hitems hbefore hx
    · obtain ⟨earlier, s, later, hall, hearlier, v, hv, before, x, after, hitems, hbefore, hx⟩ :=
        hslug
      exact .slug hkeys hformat hmodifiers earlier s later hall hearlier v hv before x after hitems
        hbefore hx

theorem dataStop?_broken : (∃ f, dataStop? (.record es) = some (.broken f)) ↔ DataBreaks es := by
  unfold dataStop?
  cases hunknown : (es.map (·.1)).filter fun k => !isKnownKey k with
  | nil =>
    simp only [hunknown, or_broken]
    rw [dataBreaks_iff (keysKnown_iff.2 hunknown)]
  | cons first rest =>
    have hmem (k : Value) : k ∈ first :: rest ↔ (∃ e ∈ es, e.1 = k) ∧ isKnownKey k = false := by
      rw [← hunknown, List.mem_filter, List.mem_map, Bool.not_eq_true']
    have hnot : ¬ KeysKnown es := by simp [keysKnown_iff, hunknown]
    simp only [hunknown, Option.some.injEq, unknownKeys_broken]
    constructor
    · rintro ⟨k, hk, hkey⟩
      obtain ⟨⟨e, he, rfl⟩, -⟩ := (hmem k).1 hk
      exact .key e he hkey
    · intro h
      cases h with
      | key e he hkey =>
        exact ⟨e.1, (hmem _).2 ⟨⟨e, he, rfl⟩, isKnownKey_eq_false hkey⟩, hkey⟩
      | _ => contradiction

/-! ### Files -/

/-- The file at a path cannot be taken over, and the configuration is not refused. -/
inductive FileBreaks (files : Files) (p : Path) : Prop where
  /-- No file can have the path. -/
  | path (hread : files.read p = .error .impossibleName)
  /-- The bytes are no text. -/
  | bytes (bytes : List UInt8) (hread : files.read p = .ok bytes) (e : Text.DecodingError)
      (hdecode : Files.decode bytes = .error e)
  /-- The text follows the rules of the format, and something in it has no value. -/
  | text (bytes : List UInt8) (hread : files.read p = .ok bytes) (text : String)
      (hdecode : Files.decode bytes = .ok text) (e : Yaml.Error) (htext : Yaml.read text = .error e)
      (he : e ≠ .malformed)
  /-- The first thing that is wrong with the data is none that a configuration is refused for. -/
  | data (bytes : List UInt8) (hread : files.read p = .ok bytes) (text : String)
      (hdecode : Files.decode bytes = .ok text) (v : Value) (htext : Yaml.read text = .ok v)
      (es : List (Value × Value)) (hv : v.opened = .record es) (hes : DataBreaks es)

theorem readData_broken {files : Files} {p : Path} {f : ConfigFault}
    (h : readData files p = .error (.broken f)) : FileBreaks files p := by
  unfold readData at h
  split at h
  · exact .path ‹_›
  · cases h
  · rename_i bytes hread
    split at h
    · exact .bytes bytes hread _ ‹_›
    · rename_i text hdecode
      split at h
      · cases h
      · cases h
      · rename_i e hmalformed htext
        exact .text bytes hread text hdecode e htext hmalformed

theorem readData_eq_ok {files : Files} {p : Path} {data : Value} :
    readData files p = .ok data ↔ ∃ bytes text v, files.read p = .ok bytes ∧
      Files.decode bytes = .ok text ∧ Yaml.read text = .ok v ∧
      (if v.isVoid then Value.record [] else v) = data := by
  unfold readData
  constructor
  · intro h
    split at h
    · cases h
    · cases h
    · rename_i bytes hread
      split at h
      · cases h
      · rename_i text hdecode
        split at h
        · rename_i v htext
          exact ⟨bytes, text, v, hread, hdecode, htext, Except.ok.inj h⟩
        · cases h
        · cases h
  · rintro ⟨bytes, text, v, hread, hdecode, htext, hdata⟩
    rw [hread]
    simp only [hdecode, htext, hdata]

/-- A mapping that counts as absent is taken for one without entries, which it is. -/
theorem opened_of_record (hv : v.opened = .record es) :
    (if v.isVoid then Value.record [] else v).opened = .record es := by
  split
  · rename_i hvoid
    cases v with
    | record fs =>
      obtain rfl : fs = [] := List.isEmpty_iff.1 hvoid
      exact hv
    | loop label whole => cases hvoid
    | _ => cases hv
  · exact hv

theorem dataStop?_of_not_record {data : Value} (h : ∀ es, data ≠ .record es) :
    dataStop? data = some (.refused .notMapping) := by
  cases data with
  | record es => exact absurd rfl (h es)
  | _ => rfl

theorem updateFromFile_broken {c : Config} {files : Files} {p : Path} :
    (∃ f, (c.updateFromFile files p).2 = some (.broken f)) ↔ FileBreaks files p := by
  constructor
  · rintro ⟨f, hf⟩
    unfold updateFromFile at hf
    split at hf
    · rename_i data hdata
      rw [(update_outcome _ _).1] at hf
      obtain ⟨bytes, text, v, hread, hdecode, htext, rfl⟩ := readData_eq_ok.1 hdata
      split at hf
      · cases hf
      · by_cases hv : ∃ es, v.opened = .record es
        · obtain ⟨es, hv⟩ := hv
          rw [hv] at hf
          exact .data bytes hread text hdecode v htext es hv (dataStop?_broken.1 ⟨f, hf⟩)
        · rw [dataStop?_of_not_record (not_exists.1 hv)] at hf
          cases hf
    · rename_i e he
      obtain rfl := Option.some.inj hf
      exact readData_broken he
  · intro h
    unfold updateFromFile
    cases h with
    | path hread => exact ⟨_, by rw [readData, hread]⟩
    | bytes bytes hread e hdecode => exact ⟨.decoding e, by simp only [readData, hread, hdecode]⟩
    | text bytes hread text hdecode e htext he =>
      refine ⟨.data e, ?_⟩
      cases e <;> simp_all [readData]
    | data bytes hread text hdecode v htext es hv hes =>
      obtain ⟨f, hf⟩ := dataStop?_broken.2 hes
      refine ⟨f, ?_⟩
      rw [readData_eq_ok.2 ⟨bytes, text, v, hread, hdecode, htext, rfl⟩]
      simp only [(update_outcome _ _).1, opened_of_record hv, hf]

/-! ### Loading -/

theorem withEnvironment_ne_broken (c : Config) (env : Environment) (f : ConfigFault) :
    c.withEnvironment env ≠ .error (.broken f) := by
  intro h
  unfold withEnvironment at h
  simp only at h
  split at h
  · split at h
    · cases h
    · cases h
  · cases h

/-- A configuration cannot be loaded, and is not refused. -/
inductive Breaks (env : Environment) (files : Files) (asked : Option Path) : Prop where
  /-- The path of the environment starts with a home directory that is unknown. -/
  | home (hasked : asked = none) (text : String) (hgiven : Environment.given env.config = some text)
      (e : HomeError) (hhome : (Path.ofText text).expandHome env.home = .error e)
  | file (p : Path) (hpath : filePath env asked = .ok (some p)) (h : FileBreaks files p)

theorem filePath_broken {env : Environment} {asked : Option Path} {f : ConfigFault}
    (h : filePath env asked = .error (.broken f)) :
    asked = none ∧ ∃ text, Environment.given env.config = some text ∧
      ∃ e, (Path.ofText text).expandHome env.home = .error e := by
  unfold filePath at h
  split at h
  · cases h
  · cases h
  · rename_i text hgiven
    obtain ⟨_, h, -⟩ := mapError_eq_error h
    cases hhome : (Path.ofText text).expandHome env.home with
    | ok p =>
      rw [hhome] at h
      cases h
    | error e => exact ⟨rfl, text, hgiven, e, hhome⟩

/-- Loading after the path of the file is known. -/
def loadFrom (env : Environment) (files : Files) : Option Path → Except ConfigStop Config
  | none => ({} : Config).withEnvironment env
  | some p =>
    match ({} : Config).updateFromFile files p with
    | (c, none) => c.withEnvironment env
    | (_, some e) => .error e

theorem load_eq (env : Environment) (files : Files) (asked : Option Path) :
    load env files asked = filePath env asked >>= loadFrom env files := by
  unfold load
  refine congrArg (filePath env asked >>= ·) (funext fun path => ?_)
  cases path with
  | none => rfl
  | some p =>
    unfold loadFrom
    rcases ({} : Config).updateFromFile files p with ⟨c, _ | e⟩ <;> rfl

theorem loadFrom_broken {env : Environment} {files : Files} {path : Option Path} :
    (∃ f, loadFrom env files path = .error (.broken f)) ↔
      ∃ p, path = some p ∧ FileBreaks files p := by
  cases path with
  | none => simpa [loadFrom] using withEnvironment_ne_broken {} env
  | some p =>
    simp only [Option.some.injEq, exists_eq_left', ← updateFromFile_broken (c := {}), loadFrom]
    rcases ({} : Config).updateFromFile files p with ⟨c, _ | e⟩
    · simpa using withEnvironment_ne_broken c env
    · simp

theorem load_broken {env : Environment} {files : Files} {asked : Option Path} :
    (∃ f, load env files asked = .error (.broken f)) ↔ Breaks env files asked := by
  rw [load_eq]
  constructor
  · rintro ⟨f, hf⟩
    rcases bind_eq_error.1 hf with hpath | ⟨path, hpath, hf⟩
    · obtain ⟨hasked, text, hgiven, e, hhome⟩ := filePath_broken hpath
      exact .home hasked text hgiven e hhome
    · obtain ⟨p, rfl, h⟩ := loadFrom_broken.1 ⟨f, hf⟩
      exact .file p hpath h
  · intro h
    cases h with
    | home hasked text hgiven e hhome =>
      refine ⟨.home e, ?_⟩
      simp only [filePath, hasked, hgiven, hhome]
      rfl
    | file p hpath h =>
      obtain ⟨f, hf⟩ := loadFrom_broken.2 ⟨p, rfl, h⟩
      exact ⟨f, by rw [hpath]; exact hf⟩

/-- A configuration can be loaded or is refused, but for paths of no file, bytes that are no text,
texts with a scalar that has no value, and data of which the first thing that is wrong is a key that
is no text, a value that cannot be written, modifiers without items, or a modifier whose kind cannot
be looked up. -/
theorem load_breaks_iff (env : Environment) (files : Files) (asked : Option Path) :
    ((∃ c, load env files asked = .ok c) ∨ ∃ e, load env files asked = .error (.refused e)) ↔
      ¬ Breaks env files asked := by
  rw [← load_broken]
  cases load env files asked with
  | ok c => simp
  | error e => cases e <;> simp

/-- The message of what a configuration is not refused for. -/
def fault? : Except ConfigStop Config → Option String
  | .error (.broken f) => some f.message
  | _ => none

theorem exists_fault {x : Except ConfigStop Config} {message : String}
    (h : fault? x = some message) : ∃ f, x = .error (.broken f) ∧ f.message = message := by
  unfold fault? at h
  split at h
  · exact ⟨_, rfl, Option.some.inj h⟩
  · cases h

/-- What becomes of a file with these bytes. -/
def loaded (bytes : List UInt8) : Except ConfigStop Config :=
  load {} (.single "c.yaml" bytes) (some (Path.ofText "c.yaml"))

/-- Bytes that are no text, a number for a key, a number for modifiers, a list for the kind of a
modifier, and a home directory that nobody has. -/
theorem settings_break :
    (∃ f, loaded [0xFF] = .error (.broken f) ∧
      f.message = "'utf-8' codec can't decode byte 0xff in position 0: invalid start byte") ∧
    (∃ f, loaded "1: x\n".toUTF8.toList = .error (.broken f) ∧
      f.message = "sequence item 0: expected str instance, int found") ∧
    (∃ f, loaded "modifiers: 5\n".toUTF8.toList = .error (.broken f) ∧
      f.message = "'int' object is not iterable") ∧
    (∃ f, loaded "modifiers: [\x7bkind: []\x7d]\n".toUTF8.toList = .error (.broken f) ∧
      f.message = "unhashable type: 'list'") ∧
    ∃ f, load { config := some "~nobody/c.yaml" } (.single "c.yaml" []) none = .error (.broken f) ∧
      f.message = "Could not determine home directory." :=
  ⟨exists_fault (by decide +kernel), exists_fault (by decide +kernel),
    exists_fault (by decide +kernel), exists_fault (by decide +kernel),
    exists_fault (by decide +kernel)⟩

end Config

end ProposalCheck
