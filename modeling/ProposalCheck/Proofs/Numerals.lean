import Mathlib.Data.List.Basic
import ProposalCheck.Proofs.Captures
import ProposalCheck.Proofs.Lines
import ProposalCheck.Rule.Shipped

/-!
# Numbers of proposals in a document

Three rules take runs of digits for numbers of proposals: the items of a list, the mentions in a
field and the targets of links. `Shipped.numerals` has these digits for each rule and document, and
`Shipped.digits_of_mem_numerals` says where they come from.

`Discovery.Reads` is what a rule makes of them: it asks for the file of each number, in order, and
stops at the first number of more than `Text.Numeral.maxDigits` digits. `Shipped.reads_discover`
says so of every rule whose pattern has the group of a number (`Shipped.isNumbered`). Nothing else
in a document stops it.
-/

namespace ProposalCheck

open Text (Digits)

/-! ### Reading digits -/

namespace Text.Numeral

/-- The number that digits denote. -/
def value (cs : List Char) : Int :=
  ofDigits 10 0 (cs.map fun c => c.toNat - '0'.toNat)

/-- There are more digits than are read. -/
def isTooLong (cs : List Char) : Bool :=
  maxDigits < cs.length

/-- What holds of the ten digits holds of every digit. -/
theorem forall_isDigit {P : Char → Prop} (h : ∀ n < 10, P (Char.ofNat ('0'.toNat + n))) {c : Char}
    (hc : c.isDigit = true) : P c := by
  obtain ⟨hzero, hnine⟩ := Char.isDigit_iff_toNat.1 hc
  have hnine' : c.toNat ≤ '0'.toNat + 9 := hnine
  have hP := h (c.toNat - '0'.toNat) (by omega)
  rwa [Nat.add_sub_cancel' hzero, Char.ofNat_toNat] at hP

theorem digitBelow?_of_isDigit {c : Char} (h : c.isDigit = true) :
    digitBelow? 10 c = some (c.toNat - '0'.toNat) :=
  forall_isDigit (P := fun c => digitBelow? 10 c = some (c.toNat - '0'.toNat)) (by decide) h

theorem isSpace_of_isDigit {c : Char} (h : c.isDigit = true) : isSpace c = false :=
  forall_isDigit (P := fun c => isSpace c = false) (by decide) h

theorem takeDigits_of_digits {cs : List Char} (h : ∀ c ∈ cs, c.isDigit = true) :
    takeDigits (digitBelow? 10) false cs = some (cs.map fun c => c.toNat - '0'.toNat, []) := by
  induction cs with
  | nil => rfl
  | cons c cs ih =>
    obtain ⟨hc, hcs⟩ := List.forall_mem_cons.1 h
    rw [takeDigits, digitBelow?_of_isDigit hc]
    simp [ih hcs]

theorem takeSign_of_isDigit {c : Char} (h : c.isDigit = true) (cs : List Char) :
    takeSign (c :: cs) = (false, c :: cs) := by
  unfold takeSign
  split
  · rename_i heq
    rw [(List.cons.inj heq).1] at h
    cases h
  · rename_i heq
    rw [(List.cons.inj heq).1] at h
    cases h
  · rfl

/-- Digits are read unless there are too many. -/
theorem read_of_digits {cs : List Char} (h : Digits cs) :
    read (String.ofList cs)
      = if isTooLong cs then .error (.tooLong cs.length) else .ok (value cs) := by
  obtain ⟨c, rest, rfl⟩ := List.exists_cons_of_ne_nil h.ne_nil
  have hc := h.isDigit c List.mem_cons_self
  have hbody : (c :: rest).dropWhile isSpace = c :: rest := by
    rw [List.dropWhile_cons, isSpace_of_isDigit hc]
    rfl
  have hmark : dropMark 10 (c :: rest) = c :: rest := by
    unfold dropMark
    split <;> simp
  have hstarts : (c != '_') = true :=
    forall_isDigit (P := fun c => (c != '_') = true) (by decide) hc
  simp only [read, readBase, String.toList_ofList, hbody, takeSign_of_isDigit hc, hmark, hstarts,
    takeDigits_of_digits h.isDigit, if_true]
  simp [isTooLong, value]

end Text.Numeral

/-! ### Parts of texts -/

namespace Text

theorem infix_intercalate {sep l : List Char} {ls : List (List Char)} (h : l ∈ ls) :
    l <:+: sep.intercalate ls := by
  induction ls with
  | nil => cases h
  | cons a ls ih =>
    cases ls with
    | nil =>
      obtain rfl := List.mem_singleton.1 h
      have hone : sep.intercalate [l] = l := List.intercalate_singleton
      exact hone.symm ▸ List.infix_rfl
    | cons b bs =>
      rw [List.intercalate_cons_cons]
      rcases List.mem_cons.1 h with rfl | h
      · exact ((List.prefix_append _ _).trans (List.prefix_append _ _)).isInfix
      · exact (ih h).trans (List.suffix_append _ _).isInfix

theorem infix_of_mem_split {sep : Char} {cs l : List Char} (h : l ∈ split sep cs) : l <:+: cs := by
  have hinfix : l <:+: [sep].intercalate (split sep cs) := infix_intercalate h
  rwa [split_eq_splitOn, List.intercalate_splitOn] at hinfix

theorem trimChars_infix (cs : List Char) : trimChars cs <:+: cs := by
  have hend : trimChars cs <+: cs.dropWhile isBlank := by
    rw [trimChars, trimEndChars, ← List.reverse_suffix, List.reverse_reverse]
    exact List.dropWhile_suffix isBlank
  exact hend.isInfix.trans (List.dropWhile_suffix isBlank).isInfix

theorem trimChars_of_digits {cs : List Char} (h : Digits cs) : trimChars cs = cs := by
  have hblank {c : Char} (hc : c.isDigit = true) : isBlank c = false :=
    Numeral.forall_isDigit (P := fun c => isBlank c = false) (by decide) hc
  have hdrop {cs : List Char} (hcs : ∀ c ∈ cs, c.isDigit = true) : cs.dropWhile isBlank = cs := by
    cases cs with
    | nil => rfl
    | cons c cs =>
      exact List.dropWhile_cons_of_neg (by simp [hblank (hcs c List.mem_cons_self)])
  have hend : cs.reverse.dropWhile isBlank = cs.reverse :=
    hdrop fun c hc => h.isDigit c (List.mem_reverse.1 hc)
  rw [trimChars, hdrop h.isDigit, trimEndChars, hend, List.reverse_reverse]

end Text

open Text.Numeral (isTooLong value)

/-! ### Rules that read numerals -/

/-- A rule asks for the files with these numbers, and stops at the first one that is too long. -/
structure Discovery.Reads (found : Discovery) (d : Document) (file : Int → String)
    (ns : List (List Char)) : Prop where
  stop : found.stop = (ns.find? isTooLong).map fun n => .crash (.numeral (.tooLong n.length))
  references : found.stop = none → found.references = ns.map fun n => d.pathReference (file (value n))

namespace Discovery

theorem reads_nothing (d : Document) (file : Int → String) : Reads {} d file [] :=
  ⟨rfl, fun _ => rfl⟩

section

variable {α β ε : Type} {f : α → Except ε (Option β)} {numeral? : α → Option (List Char)}
  {err : Text.NumeralError → ε} {file : Int → String} {name : β → String} {xs : List α}

/-- An item without a numeral is passed over, and one with a numeral is what is named by the file
with the number, unless the numeral is too long. -/
structure NamesFile (f : α → Except ε (Option β)) (numeral? : α → Option (List Char))
    (err : Text.NumeralError → ε) (file : Int → String) (name : β → String) (x : α) : Prop where
  skipped : numeral? x = none → f x = .ok none
  refused : ∀ n, numeral? x = some n → isTooLong n = true → f x = .error (err (.tooLong n.length))
  named : ∀ n, numeral? x = some n → isTooLong n = false →
    ∃ y, f x = .ok (some y) ∧ name y = file (value n)

theorem mapM_of_find?_eq_some (h : ∀ x ∈ xs, NamesFile f numeral? err file name x) {n : List Char}
    (hn : (xs.filterMap numeral?).find? isTooLong = some n) :
    xs.mapM f = .error (err (.tooLong n.length)) := by
  induction xs with
  | nil => cases hn
  | cons x xs ih =>
    obtain ⟨hx, hxs⟩ := List.forall_mem_cons.1 h
    rw [List.mapM_cons]
    cases hnumeral : numeral? x with
    | none =>
      rw [List.filterMap_cons_none hnumeral] at hn
      rw [hx.skipped hnumeral, ih hxs hn]
      rfl
    | some m =>
      rw [List.filterMap_cons_some hnumeral, List.find?_cons] at hn
      cases hm : isTooLong m with
      | true =>
        obtain rfl : m = n := by simpa [hm] using hn
        rw [hx.refused m hnumeral hm]
        rfl
      | false =>
        obtain ⟨y, hy, -⟩ := hx.named m hnumeral hm
        rw [hm] at hn
        rw [hy, ih hxs hn]
        rfl

theorem mapM_of_find?_eq_none (h : ∀ x ∈ xs, NamesFile f numeral? err file name x)
    (hn : (xs.filterMap numeral?).find? isTooLong = none) :
    ∃ os, xs.mapM f = .ok os ∧
      (os.filterMap id).map name = (xs.filterMap numeral?).map fun n => file (value n) := by
  induction xs with
  | nil => exact ⟨[], rfl, rfl⟩
  | cons x xs ih =>
    obtain ⟨hx, hxs⟩ := List.forall_mem_cons.1 h
    rw [List.mapM_cons]
    cases hnumeral : numeral? x with
    | none =>
      rw [List.filterMap_cons_none hnumeral] at hn ⊢
      obtain ⟨os, hos, hnames⟩ := ih hxs hn
      exact ⟨none :: os, by rw [hx.skipped hnumeral, hos]; rfl, hnames⟩
    | some m =>
      rw [List.filterMap_cons_some hnumeral] at hn ⊢
      rw [List.find?_cons] at hn
      cases hm : isTooLong m with
      | true => simp [hm] at hn
      | false =>
        rw [hm] at hn
        obtain ⟨y, hy, hname⟩ := hx.named m hnumeral hm
        obtain ⟨os, hos, hnames⟩ := ih hxs hn
        refine ⟨some y :: os, by rw [hy, hos]; rfl, ?_⟩
        change name y :: (os.filterMap id).map name = _
        rw [List.map_cons, hname, hnames]

/-- What comes of a list of items is given by the numerals among them. -/
theorem reads_of_mapM {d : Document} {found : Discovery}
    (h : ∀ x ∈ xs, NamesFile f numeral? err file name x)
    (hok : ∀ os, xs.mapM f = .ok os →
      found = { references := (os.filterMap id).map fun y => d.pathReference (name y) })
    (herror : ∀ e, xs.mapM f = .error (err e) → found = { stop := some (.crash (.numeral e)) }) :
    found.Reads d file (xs.filterMap numeral?) := by
  cases hfind : (xs.filterMap numeral?).find? isTooLong with
  | some n =>
    rw [herror _ (mapM_of_find?_eq_some h hfind)]
    exact ⟨by rw [hfind]; rfl, fun hstop => by cases hstop⟩
  | none =>
    obtain ⟨os, hos, hnames⟩ := mapM_of_find?_eq_none h hfind
    have hreferences := congrArg (List.map d.pathReference) hnames
    rw [List.map_map, List.map_map] at hreferences
    rw [hok os hos]
    exact ⟨by rw [hfind]; rfl, fun _ => hreferences⟩

end

end Discovery

namespace Rule

open Discovery (Reads NamesFile)

/-! ### The status of required proposals -/

namespace RequiredStatus

theorem isDigits_iff {cs : List Char} : isDigits cs = true ↔ Digits cs := by
  have hall : (∀ c ∈ cs, ('0' ≤ c && c ≤ '9') = true) ↔ ∀ c ∈ cs, c.isDigit = true := by
    simp only [Bool.and_eq_true, decide_eq_true_eq, Char.isDigit_iff_toNat]
    exact Iff.rfl
  rw [isDigits, Bool.and_eq_true, List.all_eq_true, hall]
  constructor
  · rintro ⟨hne, hdigits⟩
    exact ⟨by simpa using hne, hdigits⟩
  · rintro ⟨hne, hdigits⟩
    exact ⟨by simpa using hne, hdigits⟩

/-- The numeral of an item, if it is one. -/
def Item.numeral? (i : Item) : Option (List Char) :=
  some (Text.trimChars i.text.toList) |>.filter isDigits

/-- The numerals of a list. -/
def numerals (value : String) : List (List Char) :=
  (items value).filterMap Item.numeral?

theorem digits_of_numeral? {i : Item} {n : List Char} (h : i.numeral? = some n) : Digits n := by
  obtain ⟨-, hdigits⟩ := Option.filter_eq_some_iff.1 h
  exact isDigits_iff.1 hdigits

theorem numerals_of_digits {cs : List Char} (h : Digits cs) : numerals (String.ofList cs) = [cs] := by
  have hcomma : ',' ∉ cs := fun hmem => by cases h.isDigit _ hmem
  have hitems : items (String.ofList cs) = [{ start := 0, text := String.ofList cs }] := by
    rw [items, Text.splitOn, String.toList_ofList, Text.split_eq_splitOn,
      List.splitOn_eq_singleton hcomma]
    rfl
  have hnumeral : Item.numeral? { start := 0, text := String.ofList cs } = some cs := by
    simp only [Item.numeral?, String.toList_ofList, Text.trimChars_of_digits h]
    exact Option.filter_some_pos (isDigits_iff.2 h)
  rw [numerals, hitems, List.filterMap_cons_some hnumeral]
  rfl

theorem mem_of_mem_place {start : Nat} {ss : List String} {i : Item} (h : i ∈ place start ss) :
    i.text ∈ ss := by
  induction ss generalizing start with
  | nil => cases h
  | cons s ss ih =>
    rcases List.mem_cons.1 h with rfl | h
    · exact List.mem_cons_self
    · exact List.mem_cons_of_mem _ (ih h)

/-- The numerals of a list are runs of digits in it. -/
theorem digits_of_mem_numerals {value : String} {n : List Char} (h : n ∈ numerals value) :
    Digits n ∧ n <:+: value.toList := by
  obtain ⟨i, hi, hn⟩ := List.mem_filterMap.1 h
  refine ⟨digits_of_numeral? hn, ?_⟩
  obtain ⟨htrim, -⟩ := Option.filter_eq_some_iff.1 hn
  obtain rfl := Option.some.inj htrim
  obtain ⟨cs, hcs, htext⟩ := List.mem_map.1 (mem_of_mem_place hi)
  rw [← htext, String.toList_ofList]
  exact (Text.trimChars_infix cs).trans (Text.infix_of_mem_split hcs)

theorem namesFile_number? (i : Item) :
    NamesFile Item.number? Item.numeral? id fileName fileName i := by
  have hnumber {n : List Char} (hn : i.numeral? = some n) :
      i.number? = some <$> Text.Numeral.read (String.ofList n) := by
    obtain ⟨htrim, hdigits⟩ := Option.filter_eq_some_iff.1 hn
    obtain rfl := Option.some.inj htrim
    simp only [Item.number?, Text.toList_trim, hdigits, if_true]
    rfl
  refine ⟨fun hn => ?_, fun n hn hlong => ?_, fun n hn hshort => ?_⟩
  · have hdigits : ¬ isDigits (Text.trimChars i.text.toList) = true :=
      (Option.filter_eq_none_iff.1 hn) _ rfl
    simp only [Item.number?, Text.toList_trim, hdigits]
    rfl
  · rw [hnumber hn, Text.Numeral.read_of_digits (digits_of_numeral? hn), if_pos hlong]
    rfl
  · rw [hnumber hn, Text.Numeral.read_of_digits (digits_of_numeral? hn), hshort]
    exact ⟨value n, rfl, rfl⟩

theorem reads_discover (s : Setup) (d : Document) :
    Reads (discover s d) d fileName
      (((d.preamble.byName? s.requires).toList.map Field.value).flatMap numerals) := by
  unfold discover
  cases d.preamble.byName? s.requires with
  | none => exact Discovery.reads_nothing d fileName
  | some f =>
    rw [Option.toList_some, List.map_singleton, List.flatMap_singleton]
    simp only [numbers]
    refine Discovery.reads_of_mapM (fun i _ => namesFile_number? i) (fun os hos => ?_) fun e he => ?_
    · rw [hos]
      rfl
    · rw [he]
      rfl

end RequiredStatus

/-! ### Mentions of proposals -/

namespace Mention

open Pattern (Match)

theorem isNumbered_pattern : pattern.node.isNumbered = true := by decide +kernel

/-- The numerals of the mentions in a value. -/
def numerals (value : String) : List (List Char) :=
  (mentions value).map (Match.capture value.toList)

/-- The numerals of the mentions in a value are runs of digits in it. -/
theorem digits_of_mem_numerals {value : String} {n : List Char} (h : n ∈ numerals value) :
    Digits n ∧ n <:+: value.toList := by
  obtain ⟨m, hm, rfl⟩ := List.mem_map.1 h
  exact (Pattern.numbered_of_mem_findAll isNumbered_pattern hm).digits_capture

theorem number_of_numbered {value : String} {m : Match}
    (h : m.marks.Numbered value.toList.toArray) :
    Digits (m.capture value.toList) ∧
      number value m = Text.Numeral.read (String.ofList (m.capture value.toList)) := by
  obtain ⟨start, stop, hgroup, -, hcapture, hdigits⟩ := h.exists_capture
  refine ⟨hdigits, ?_⟩
  rw [number, hgroup, hcapture]
  rfl

theorem reads_discoverAll (s : Setup) (d : Document) {value : String} {ms : List Match}
    (h : ∀ m ∈ ms, m.marks.Numbered value.toList.toArray) :
    Reads (discoverAll s d value ms) d s.fileName (ms.map (Match.capture value.toList)) := by
  induction ms with
  | nil => exact Discovery.reads_nothing d s.fileName
  | cons m ms ih =>
    obtain ⟨hm, hms⟩ := List.forall_mem_cons.1 h
    obtain ⟨hdigits, hnumber⟩ := number_of_numbered hm
    have hrest := ih hms
    rw [discoverAll, hnumber, Text.Numeral.read_of_digits hdigits, List.map_cons]
    cases hlong : isTooLong (m.capture value.toList) with
    | true => exact ⟨by rw [List.find?_cons, hlong]; rfl, fun h => by cases h⟩
    | false =>
      exact ⟨by rw [List.find?_cons, hlong]; exact hrest.stop,
        fun h => congrArg (List.cons _) (hrest.references h)⟩

theorem reads_discover (s : Setup) (d : Document) :
    Reads (discover s d) d s.fileName
      (((d.preamble.byName? s.field).toList.map Field.value).flatMap numerals) := by
  unfold discover
  cases d.preamble.byName? s.field with
  | none => exact Discovery.reads_nothing d s.fileName
  | some f =>
    rw [Option.toList_some, List.map_singleton, List.flatMap_singleton]
    exact reads_discoverAll s d fun m hm =>
      Pattern.numbered_of_mem_findAll isNumbered_pattern hm

end Mention

/-! ### The status of linked proposals -/

namespace LinkStatus

open Pattern (Match)

/-- The numeral in the target of a link, if the target is the file of a proposal. -/
def numeral? (pattern : Pattern) (target : String) : Option (List Char) :=
  (pattern.find? target.toList.toArray).map (Match.capture target.toList)

/-- The numeral in a target is a run of digits in it. -/
theorem digits_of_numeral? {pattern : Pattern} (hnumbered : pattern.node.isNumbered = true)
    {target : String} {n : List Char} (h : numeral? pattern target = some n) :
    Digits n ∧ n <:+: target.toList := by
  obtain ⟨m, hm, rfl⟩ := Option.map_eq_some_iff.1 h
  exact (Pattern.numbered_of_find? hnumbered hm).digits_capture

theorem isGarbled_of_numbered {pattern : Pattern} (hgroups : pattern.groups = 1) {cs : List Char}
    {m : Match} (h : m.marks.Numbered cs.toArray) : pattern.isGarbled m = false := by
  obtain ⟨start, stop, hgroup, hlt, -⟩ := h.exists_capture
  simp only [Pattern.isGarbled, hgroups, List.range_one, List.any_cons, List.any_nil, Nat.zero_add,
    hgroup, Bool.or_false, decide_eq_false_iff_not]
  omega

theorem number_of_numbered {cs : List Char} {m : Match} (h : m.marks.Numbered cs.toArray) :
    number cs m 1 = if isTooLong (m.capture cs) then
        .error (.numeral (.tooLong (m.capture cs).length))
      else .ok (value (m.capture cs)) := by
  obtain ⟨start, stop, hgroup, -, hcapture, hdigits⟩ := h.exists_capture
  have hread := Text.Numeral.read_of_digits hdigits
  rw [number, hgroup]
  rw [hcapture] at hread ⊢
  simp only [hread]
  cases isTooLong ((cs.drop start).take (stop - start)) <;> rfl

theorem namesFile_toProposal? {pattern : Pattern} (hnumbered : pattern.node.isNumbered = true)
    (hgroups : pattern.groups = 1) (l : Link) :
    NamesFile (toProposal? pattern) (fun l => numeral? pattern l.target) .numeral
      RequiredStatus.fileName ProposalLink.fileName l := by
  cases hfind : pattern.find? l.target.toList.toArray with
  | none =>
    have hnone : numeral? pattern l.target = none := by rw [numeral?, hfind]; rfl
    refine ⟨fun _ => ?_, fun n hn => ?_, fun n hn => ?_⟩
    · simp only [toProposal?, hfind]
    · rw [hnone] at hn
      cases hn
    · rw [hnone] at hn
      cases hn
  | some m =>
    have hm := Pattern.numbered_of_find? hnumbered hfind
    have hsome : numeral? pattern l.target = some (m.capture l.target.toList) := by
      rw [numeral?, hfind]
      rfl
    have hproposal : toProposal? pattern l = (number l.target.toList m 1).map fun n =>
        some { l with fileName := "eip-" ++ toString n ++ ".md" } := by
      simp only [toProposal?, hfind, isGarbled_of_numbered hgroups hm, hgroups]
      rfl
    rw [number_of_numbered hm] at hproposal
    refine ⟨fun hn => ?_, fun n hn hlong => ?_, fun n hn hshort => ?_⟩
    · rw [hsome] at hn
      cases hn
    · obtain rfl := Option.some.inj (hsome.symm.trans hn)
      rw [hproposal, if_pos hlong]
      rfl
    · obtain rfl := Option.some.inj (hsome.symm.trans hn)
      rw [hshort] at hproposal
      exact ⟨_, hproposal, rfl⟩

theorem reads_discover {s : Setup} {pattern : Pattern} (hpattern : Pattern.read s.pattern = .ok pattern)
    (hnumbered : pattern.node.isNumbered = true) (hgroups : pattern.groups = 1) (d : Document) :
    Reads (discover s d) d RequiredStatus.fileName
      (((links d.body).map Link.target).flatMap fun target => (numeral? pattern target).toList) := by
  rw [List.flatMap_map, ← List.filterMap_eq_flatMap_toList]
  have hlinks : proposalLinks s d = ((links d.body).mapM (toProposal? pattern)).map
      (·.filterMap id) := by
    rw [proposalLinks, hpattern]
    rfl
  unfold discover
  rw [hlinks]
  refine Discovery.reads_of_mapM (fun l _ => namesFile_toProposal? hnumbered hgroups l)
    (fun os hos => ?_) fun e he => ?_
  · rw [hos]
    rfl
  · rw [he]
    rfl

end LinkStatus

end Rule

/-! ### The rules that are on from the start -/

namespace Shipped

/-- The texts of a document in which a rule looks for numbers of proposals. -/
def texts : Shipped → Document → List String
  | requiredStatus s, d => (d.preamble.byName? s.requires).toList.map Field.value
  | mention s, d => (d.preamble.byName? s.field).toList.map Field.value
  | linkStatus _, d => (Rule.LinkStatus.links d.body).map Rule.LinkStatus.Link.target
  | _, _ => []

/-- The runs of digits in a text that a rule takes for numbers of proposals. -/
def numeralsIn : Shipped → String → List (List Char)
  | requiredStatus _, text => Rule.RequiredStatus.numerals text
  | mention _, text => Rule.Mention.numerals text
  | linkStatus s, text => (Rule.LinkStatus.numeral? (.ofText s.pattern) text).toList
  | _, _ => []

/-- The runs of digits in a document that a rule takes for numbers of proposals. -/
def numerals (s : Shipped) (d : Document) : List (List Char) :=
  (s.texts d).flatMap s.numeralsIn

/-- The name of the file of a proposal, as a rule asks for it. -/
def fileName : Shipped → Int → String
  | mention s => s.fileName
  | _ => Rule.RequiredStatus.fileName

/-- Whether a rule that goes by a pattern of its own has one with a number. -/
def isNumbered : Shipped → Bool
  | linkStatus s =>
    (Pattern.read s.pattern).toOption.any fun p => p.node.isNumbered && p.groups == 1
  | _ => true

theorem isNumbered_of_mem_standard : ∀ e ∈ standard, e.2.isNumbered = true := by decide +kernel

theorem exists_pattern_of_isNumbered {s : Rule.LinkStatus.Setup}
    (h : (linkStatus s).isNumbered = true) : ∃ pattern, Pattern.read s.pattern = .ok pattern ∧
      Pattern.ofText s.pattern = pattern ∧ pattern.node.isNumbered = true ∧ pattern.groups = 1 := by
  obtain ⟨pattern, hread, hpattern⟩ := (Option.any_eq_true _ _).1 h
  rw [Bool.and_eq_true, beq_iff_eq] at hpattern
  cases hp : Pattern.read s.pattern with
  | error e =>
    rw [hp] at hread
    cases hread
  | ok p =>
    rw [hp] at hread
    obtain rfl : p = pattern := Option.some.inj hread
    exact ⟨p, rfl, by rw [Pattern.ofText, hp], hpattern⟩

/-- What a rule asks for is given by the numerals in its texts. -/
theorem reads_discover {s : Shipped} (h : s.isNumbered = true) (d : Document) :
    (s.toRule.discover d).Reads d s.fileName (s.numerals d) := by
  cases s with
  | requiredStatus s => exact Rule.RequiredStatus.reads_discover s d
  | mention s => exact Rule.Mention.reads_discover s d
  | linkStatus s =>
    obtain ⟨pattern, hread, hpattern, hnumbered, hgroups⟩ := exists_pattern_of_isNumbered h
    unfold numerals numeralsIn
    simp only [hpattern]
    exact Rule.LinkStatus.reads_discover hread hnumbered hgroups d
  | _ => exact Discovery.reads_nothing d _

/-- What a rule takes for a number is a run of digits in one of its texts. -/
theorem digits_of_mem_numerals {s : Shipped} (h : s.isNumbered = true) {d : Document} {n : List Char}
    (hn : n ∈ s.numerals d) : Digits n ∧ ∃ text ∈ s.texts d, n <:+: text.toList := by
  obtain ⟨text, htext, hn⟩ := List.mem_flatMap.1 hn
  suffices hdigits : Digits n ∧ n <:+: text.toList from ⟨hdigits.1, text, htext, hdigits.2⟩
  cases s with
  | requiredStatus s => exact Rule.RequiredStatus.digits_of_mem_numerals hn
  | mention s => exact Rule.Mention.digits_of_mem_numerals hn
  | linkStatus s =>
    obtain ⟨pattern, -, hpattern, hnumbered, -⟩ := exists_pattern_of_isNumbered h
    rw [numeralsIn, hpattern] at hn
    exact Rule.LinkStatus.digits_of_numeral? hnumbered (Option.mem_toList.1 hn)
  | _ => cases hn

end Shipped

end ProposalCheck
