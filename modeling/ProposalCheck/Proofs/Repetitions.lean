import Mathlib.Data.Finset.Card
import ProposalCheck.Proofs.Annotations
import ProposalCheck.Proofs.Preambles

/-!
# Names that are repeated

`Rule.duplicates_reports`: the rule about names has one message for each field that is not the first
of its name, in the order of the fields, and each message shows the first field of the name and the
field. So there are as many messages as there are more fields than names. To the other rules a name
means its last field (`Preamble.byName?`), which is the one in the last message about the name.

Both the pairs that are reported and the positions of repetitions grow at the end when a field comes
behind the others (`Rule.Duplicates.pairs_concat`, `Preamble.repetitions_concat`), which carries the
inductions. In a document no field equals another one, since each is on a line of its own.
-/

namespace ProposalCheck

namespace Preamble

/-- A name that stands in a preamble belongs to a field. -/
theorem exists_byName? {p : Preamble} {name : String} (h : name ∈ p.fields.map (·.name)) :
    ∃ f, p.byName? name = some f := by
  obtain ⟨f, hf, rfl⟩ := List.mem_map.1 h
  exact Option.isSome_iff_exists.1
    (List.find?_isSome.2 ⟨f, List.mem_reverse.2 hf, beq_self_eq_true _⟩)

/-- The first field of a name. -/
def First (fields : List Field) (name : String) (f : Field) : Prop :=
  ∃ i : Nat, fields[i]? = some f ∧ f.name = name ∧
    ∀ (j : Nat) (g : Field), fields[j]? = some g → g.name = name → i ≤ j

/-- The positions of names that stand further in front as well. -/
def repetitions (names : List String) : List Nat :=
  (List.range names.length).filter fun i => ∃ j < i, names[j]? = names[i]?

variable {fields : List Field} {name : String} {f g : Field}

theorem find?_eq_some_iff_first :
    fields.find? (·.name == name) = some f ↔ First fields name f := by
  rw [List.find?_eq_some_iff_getElem]
  constructor
  · rintro ⟨hname, i, hi, hf, hearlier⟩
    refine ⟨i, List.getElem?_eq_some_iff.2 ⟨hi, hf⟩, beq_iff_eq.1 hname, fun j g hg hgname => ?_⟩
    by_contra hlt
    obtain ⟨hj, rfl⟩ := List.getElem?_eq_some_iff.1 hg
    simpa [hgname] using hearlier j (by omega)
  · rintro ⟨i, hf, hname, hfirst⟩
    obtain ⟨hi, hget⟩ := List.getElem?_eq_some_iff.1 hf
    refine ⟨beq_iff_eq.2 hname, i, hi, hget, fun j hj => ?_⟩
    have hother : fields[j].name ≠ name := by
      intro h
      have hle := hfirst j _ (List.getElem?_eq_getElem (by omega)) h
      omega
    simpa using hother

theorem First.name_eq (h : First fields name f) : f.name = name := by
  obtain ⟨-, -, hname, -⟩ := h
  exact hname

/-- Further fields do not change what the first one is. -/
theorem First.append (h : First fields name f) (more : List Field) :
    First (fields ++ more) name f := by
  obtain ⟨i, hf, hname, hfirst⟩ := h
  have hi := (List.getElem?_eq_some_iff.1 hf).1
  refine ⟨i, by rw [List.getElem?_append_left hi, hf], hname, fun j g hg hgname => ?_⟩
  by_cases hj : j < fields.length
  · rw [List.getElem?_append_left hj] at hg
    exact hfirst j g hg hgname
  · omega

theorem repetitions_concat (names : List String) (name : String) :
    repetitions (names ++ [name])
      = repetitions names ++ if name ∈ names then [names.length] else [] := by
  have hfront : (List.range names.length).filter
        (fun i => ∃ j < i, (names ++ [name])[j]? = (names ++ [name])[i]?)
      = repetitions names := by
    refine List.filter_congr fun i hi => ?_
    have hi := List.mem_range.1 hi
    rw [decide_eq_decide]
    refine exists_congr fun j => and_congr_right fun hj => ?_
    rw [List.getElem?_append_left hi, List.getElem?_append_left (by omega)]
  have hlast : (∃ j < names.length, (names ++ [name])[j]? = (names ++ [name])[names.length]?)
      ↔ name ∈ names := by
    rw [List.getElem?_concat_length, List.mem_iff_getElem?]
    constructor
    · rintro ⟨j, hj, h⟩
      exact ⟨j, by rwa [List.getElem?_append_left hj] at h⟩
    · rintro ⟨j, h⟩
      have hj := (List.getElem?_eq_some_iff.1 h).1
      exact ⟨j, hj, by rw [List.getElem?_append_left hj, h]⟩
  rw [repetitions, List.length_append, List.length_singleton, List.range_succ, List.filter_append,
    hfront, List.filter_singleton]
  simp only [hlast, Bool.cond_decide]

/-- A name is repeated at every position at which it stands but one. -/
theorem length_repetitions (names : List String) :
    (repetitions names).length + names.toFinset.card = names.length := by
  induction names using List.reverseRecOn with
  | nil => rfl
  | append_singleton names name ih =>
    rw [repetitions_concat, List.length_append, List.length_append, List.toFinset_append]
    by_cases hold : name ∈ names
    · have hset : names.toFinset ∪ [name].toFinset = names.toFinset := by
        rw [Finset.union_eq_left]
        simpa using hold
      rw [if_pos hold, hset, List.length_singleton, List.length_singleton]
      omega
    · have hset : names.toFinset ∪ [name].toFinset = insert name names.toFinset := by
        rw [Finset.union_comm]
        rfl
      rw [if_neg hold, hset, Finset.card_insert_of_notMem (by simpa using hold), List.length_nil,
        List.length_singleton]
      omega

theorem repetitions_eq_nil {names : List String} : repetitions names = [] ↔ names.Nodup := by
  induction names using List.reverseRecOn with
  | nil => exact iff_of_true rfl List.nodup_nil
  | append_singleton names name ih =>
    rw [repetitions_concat, List.append_eq_nil_iff, ih, ← List.concat_eq_append, List.nodup_concat,
      and_comm]
    by_cases hold : name ∈ names <;> simp [hold]

end Preamble

/-- The fields of a document are on different lines. -/
theorem Document.nodup_fields {source : String} {origin : Option String} {path : Option Path}
    {d : Document} (h : parse source origin path = .ok d) : d.preamble.fields.Nodup := by
  obtain ⟨_, _, _, hsections⟩ := exists_sections h
  rw [List.nodup_iff_getElem?_ne_getElem?]
  intro i j hij hj heq
  have hget := List.getElem?_eq_getElem hj
  have hfirst := hsections.numbered i _ (heq.trans hget)
  have hsecond := hsections.numbered j _ hget
  omega

namespace Rule

namespace Duplicates

open Preamble (First repetitions repetitions_concat)

variable {fields : List Field} {f g : Field}

/-- The first field of the name of a field, if that is another one. -/
def pair? (fields : List Field) (f : Field) : Option (Field × Field) :=
  match fields.find? (·.name == f.name) with
  | some first => if first == f then none else some (first, f)
  | none => none

theorem pairs_eq (fields : List Field) : pairs fields = fields.filterMap (pair? fields) := rfl

theorem pair?_append (hf : f ∈ fields) (more : List Field) :
    pair? (fields ++ more) f = pair? fields f := by
  have hfound : (fields.find? (·.name == f.name)).isSome = true :=
    List.find?_isSome.2 ⟨f, hf, beq_self_eq_true _⟩
  unfold pair?
  rw [List.find?_append, Option.or_of_isSome hfound]

/-- A field behind some others pairs with the first of them that has its name. -/
theorem pair?_behind (hg : g ∉ fields) (more : List Field) :
    pair? (fields ++ g :: more) g = (fields.find? (·.name == g.name)).map (·, g) := by
  unfold pair?
  rw [List.find?_append]
  cases hfind : fields.find? (·.name == g.name) with
  | none => simp
  | some first =>
    have hne : first ≠ g := by
      rintro rfl
      exact hg (List.mem_of_find?_eq_some hfind)
    simp [hne]

/-- Further fields add pairs of their own. -/
theorem pairs_append (fields more : List Field) :
    pairs (fields ++ more) = pairs fields ++ more.filterMap (pair? (fields ++ more)) := by
  rw [pairs_eq, List.filterMap_append, pairs_eq]
  congr 1
  exact List.filterMap_congr fun f hf => pair?_append hf more

theorem pairs_concat (hg : g ∉ fields) :
    pairs (fields ++ [g])
      = pairs fields ++ ((fields.find? (·.name == g.name)).map (·, g)).toList := by
  rw [pairs_append, List.filterMap_cons, pair?_behind hg, List.filterMap_nil]
  cases fields.find? (·.name == g.name) <;> rfl

/-- A field repeats the name of another one, which is the first of that name. -/
def Repeats (fields : List Field) (i : Nat) (p : Field × Field) : Prop :=
  fields[i]? = some p.2 ∧ First fields p.2.name p.1

theorem Repeats.append {i : Nat} {p : Field × Field} (h : Repeats fields i p) (more : List Field) :
    Repeats (fields ++ more) i p := by
  have hi := (List.getElem?_eq_some_iff.1 h.1).1
  exact ⟨by rw [List.getElem?_append_left hi, h.1], h.2.append more⟩

/-- There is one pair for each repetition, in order. -/
theorem pairs_repeats (hnodup : fields.Nodup) :
    List.Forall₂ (Repeats fields) (repetitions (fields.map (·.name))) (pairs fields) := by
  induction fields using List.reverseRecOn with
  | nil => exact .nil
  | append_singleton fields g ih =>
    rw [← List.concat_eq_append, List.nodup_concat] at hnodup
    obtain ⟨hg, hnodup⟩ := hnodup
    rw [List.map_append, List.map_singleton, repetitions_concat, pairs_concat hg]
    refine List.rel_append ((ih hnodup).imp fun i p h => h.append [g]) ?_
    cases hfind : fields.find? (·.name == g.name) with
    | none =>
      have hnew : g.name ∉ fields.map (·.name) := by simpa using hfind
      rw [if_neg hnew]
      exact .nil
    | some first =>
      have hfirst := Preamble.find?_eq_some_iff_first.1 hfind
      have hold : g.name ∈ fields.map (·.name) :=
        List.mem_map.2 ⟨first, List.mem_of_find?_eq_some hfind, hfirst.name_eq⟩
      rw [if_pos hold, List.length_map]
      exact .cons ⟨List.getElem?_concat_length, hfirst.append [g]⟩ .nil

/-- The title of the messages about a name. -/
def title (name : String) : String :=
  "preamble header \x60" ++ name ++ "\x60 defined multiple times"

theorem title_injective {one other : String} (h : title one = title other) : one = other :=
  (String.append_right_inj _).1 ((String.append_left_inj _).1 h)

/-- A message that a field has the name of another one. It shows both lines, the other one first, and
marks them as a whole. -/
structure Reports (slug : String) (level : Level) (first again : Field) (m : Message) : Prop where
  id : m.id = some slug
  level : m.level = level
  title : m.title = title first.name
  snippets : ∃ x y, m.snippets = [x, y] ∧ x.Marks first "first defined here" "" first.source ∧
    y.Marks again "redefined here" "" again.source

theorem message_reports (slug : String) (c : Context) (p : Field × Field) :
    Reports slug c.level p.1 p.2 ((message c p.1 p.2).withId slug) :=
  ⟨rfl, rfl, rfl, _, _, rfl, snippet_marks c p.1 _ _, snippet_marks c p.2 _ _⟩

theorem name_of_pair? {p : Field × Field} (h : pair? fields f = some p) : p.1.name = f.name := by
  unfold pair? at h
  split at h
  · rename_i first hfirst
    split at h
    · cases h
    · obtain rfl := Option.some.inj h
      simpa using List.find?_some hfirst
  · cases h

/-- The last pair of a name that is repeated is about the field that the name belongs to. -/
theorem exists_last_pair (hnodup : fields.Nodup) {name : String}
    (hcount : 2 ≤ (fields.map (·.name)).count name) :
    ∃ front first again back, pairs fields = front ++ (first, again) :: back ∧
      Preamble.byName? ⟨fields⟩ name = some again ∧ first.name = name ∧
      ∀ p ∈ back, p.1.name ≠ name := by
  have hmem : name ∈ fields.map (·.name) := List.count_pos_iff.1 (by omega)
  obtain ⟨again, hagain⟩ := Preamble.exists_byName? (p := ⟨fields⟩) hmem
  obtain ⟨earlier, later, rfl, rfl, hlater⟩ := Preamble.byName?_eq_some.1 hagain
  -- its name stands in front of the last field that has it as well
  have hold : again.name ∈ earlier.map (·.name) := by
    have hnone : (later.map (·.name)).count again.name = 0 :=
      List.count_eq_zero.2 (by simpa using hlater)
    rw [List.map_append, List.map_cons, List.count_append, List.count_cons_self, hnone] at hcount
    exact List.count_pos_iff.1 (by omega)
  obtain ⟨first, hfirst⟩ : ∃ first, earlier.find? (·.name == again.name) = some first := by
    obtain ⟨g, hg, hname⟩ := List.mem_map.1 hold
    exact Option.isSome_iff_exists.1 (List.find?_isSome.2 ⟨g, hg, beq_iff_eq.2 hname⟩)
  have hnew : again ∉ earlier := fun h =>
    List.disjoint_of_nodup_append hnodup h List.mem_cons_self
  refine ⟨pairs earlier, first, again, later.filterMap (pair? (earlier ++ again :: later)), ?_,
    hagain, by simpa using List.find?_some hfirst, fun p hp => ?_⟩
  · rw [pairs_append, List.filterMap_cons, pair?_behind hnew, hfirst, Option.map_some]
  · obtain ⟨g, hg, hpair⟩ := List.mem_filterMap.1 hp
    rw [name_of_pair? hpair]
    exact hlater g hg

end Duplicates

open Duplicates in
/-- The rule about names reports each field that is not the first of its name, in order and together
with the first one. So it is silent exactly if no name is repeated, and the last message about a name
is about the field that the name belongs to. -/
theorem duplicates_reports (slug : String) (c : Context) {source : String} {origin : Option String}
    {path : Option Path} (hparse : Document.parse source origin path = .ok c.document) :
    (duplicates.check slug c).stop = none ∧
    List.Forall₂ (fun i m => ∃ first again, c.preamble.fields[i]? = some again ∧
        Preamble.First c.preamble.fields again.name first ∧ Reports slug c.level first again m)
      (Preamble.repetitions (c.preamble.fields.map (·.name))) (duplicates.check slug c).messages ∧
    (duplicates.check slug c).messages.length + (c.preamble.fields.map (·.name)).toFinset.card
      = c.preamble.fields.length ∧
    ((duplicates.check slug c).messages = [] ↔ (c.preamble.fields.map (·.name)).Nodup) ∧
    ∀ name, 2 ≤ (c.preamble.fields.map (·.name)).count name →
      ∃ first again front m back, c.preamble.byName? name = some again ∧
        (duplicates.check slug c).messages = front ++ m :: back ∧
        Reports slug c.level first again m ∧ m.title = title name ∧
        ∀ m' ∈ back, m'.title ≠ title name := by
  have hnodup : c.preamble.fields.Nodup := Document.nodup_fields hparse
  have hmessages : (duplicates.check slug c).messages
      = (pairs c.preamble.fields).map fun p => (message c p.1 p.2).withId slug := rfl
  have hrepeats := pairs_repeats hnodup
  have hlength : (duplicates.check slug c).messages.length
      = (Preamble.repetitions (c.preamble.fields.map (·.name))).length := by
    rw [hmessages, List.length_map, hrepeats.length_eq]
  refine ⟨rfl, ?_, ?_, ?_, fun name hcount => ?_⟩
  · rw [hmessages]
    refine List.forall₂_map_right_iff.2 (hrepeats.imp fun i p hp => ?_)
    exact ⟨p.1, p.2, hp.1, hp.2, message_reports slug c p⟩
  · have hnames := Preamble.length_repetitions (c.preamble.fields.map (·.name))
    rwa [← hlength, List.length_map] at hnames
  · rw [← Preamble.repetitions_eq_nil, ← List.length_eq_zero_iff, hlength, List.length_eq_zero_iff]
  · obtain ⟨front, first, again, back, hpairs, hagain, hname, hback⟩ :=
      exists_last_pair hnodup hcount
    refine ⟨first, again, front.map fun p => (message c p.1 p.2).withId slug, _,
      back.map fun p => (message c p.1 p.2).withId slug, hagain, ?_,
      message_reports slug c (first, again), congrArg title hname, fun m' hm' heq => ?_⟩
    · rw [hmessages, hpairs, List.map_append, List.map_cons]
    · obtain ⟨p, hp, rfl⟩ := List.mem_map.1 hm'
      exact hback p hp (title_injective heq)

/-- A preamble in which two names are repeated, one of them with the same line and with another
one. -/
def interleaved : Context where
  document := RequiredStatus.documentAt "eip-9.md" "---\nb: 1\na: 2\nb: 1\nb: 3\na: 4\n---\n"
  cache := .empty
  level := .error
  settings := {}

theorem duplicates_reports_interleaved :
    Document.parse interleaved.document.source interleaved.document.origin interleaved.document.path
      = .ok interleaved.document ∧
    (duplicates.check "names" interleaved).messages.length + 2 = 5 ∧
    ∃ again first front m back, interleaved.preamble.byName? "b" = some again ∧
      again.line = 5 ∧ (duplicates.check "names" interleaved).messages = front ++ m :: back ∧
      Duplicates.Reports "names" .error first again m := by
  have hparse := RequiredStatus.parse_documentAt "eip-9.md"
    "---\nb: 1\na: 2\nb: 1\nb: 3\na: 4\n---\n" (by decide +kernel)
  have hnames : (interleaved.preamble.fields.map (·.name)).toFinset.card = 2 ∧
      interleaved.preamble.fields.length = 5 ∧
      (interleaved.preamble.fields.map (·.name)).count "b" = 3 ∧
      (interleaved.preamble.byName? "b").map (·.line) = some 5 := by
    decide +kernel
  obtain ⟨hcard, hfields, hcount, hline⟩ := hnames
  obtain ⟨-, -, hlength, -, hlast⟩ := duplicates_reports "names" interleaved hparse
  rw [hcard, hfields] at hlength
  obtain ⟨first, again, front, m, back, hagain, hmessages, hreports, -⟩ :=
    hlast "b" (by rw [hcount]; decide)
  rw [hagain] at hline
  exact ⟨hparse, hlength, again, first, front, m, back, hagain, Option.some.inj hline, hmessages,
    hreports⟩

end Rule

end ProposalCheck
