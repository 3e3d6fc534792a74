import ProposalCheck.Proofs.Revisions

/-!
# Preambles are read as a whole

`Preamble.parse_allOrNothing`: a text is a preamble if there is a colon in each of its lines. Then
there is one field for each line, cut at the first colon, and a name belongs to the last field that
has it (`Preamble.ReadFrom`). Otherwise there is no preamble, and each line without a colon has a
diagnostic of its own.

Fields are looked up by their position and by their name. Both are said in terms of positions: a name
leads to the field at the greatest position that has it (`Preamble.byName?_eq_some_iff_byIndex?`).
-/

namespace ProposalCheck

/-- A field is the line with a number, cut at its first colon. -/
structure Field.Reads (f : Field) (number : Nat) (text : String) : Prop where
  number : f.line = number
  text : f.name ++ ":" ++ f.value = text
  first : ':' ∉ f.name.toList

namespace Preamble

/-- The fields of a preamble are the lines of a text in order, and nothing else can be looked up in
it. -/
structure ReadFrom (p : Preamble) (source : String) : Prop where
  length : p.fields.length = (Text.lines source).length
  /-- There is a field at the position of each line; the first line has the number two. -/
  field : ∀ (i : Nat) (line : String), (Text.lines source)[i]? = some line →
    ∃ f, p.byIndex? i = some f ∧ f.Reads (i + 2) line ∧ f.CutFrom source
  outside : ∀ i : Int, i < 0 ∨ (Text.lines source).length ≤ i → p.byIndex? i = none
  last : ∀ name f, p.byName? name = some f ↔ ∃ i, p.byIndex? i = some f ∧ f.name = name ∧
    ∀ j g, p.byIndex? j = some g → g.name = name → j ≤ i
  unknown : ∀ name, p.byName? name = none ↔ ∀ i f, p.byIndex? i = some f → f.name ≠ name

variable {p : Preamble} {source name : String} {f : Field}

/-! ### Positions -/

theorem byIndex?_natCast (p : Preamble) (i : Nat) : p.byIndex? i = p.fields[i]? :=
  if_pos (Int.natCast_nonneg i)

theorem byIndex?_eq_some {i : Int} :
    p.byIndex? i = some f ↔ ∃ n : Nat, i = n ∧ p.fields[n]? = some f := by
  constructor
  · intro h
    unfold byIndex? at h
    split at h
    · exact ⟨i.toNat, by omega, h⟩
    · cases h
  · rintro ⟨n, rfl, h⟩
    rwa [byIndex?_natCast]

theorem byIndex?_eq_none {i : Int} : p.byIndex? i = none ↔ i < 0 ∨ p.fields.length ≤ i := by
  unfold byIndex?
  split
  · rw [List.getElem?_eq_none_iff]
    omega
  · exact iff_of_true rfl (by omega)

/-! ### Names -/

/-- The field of a name is the one at the greatest position that has it. -/
theorem byName?_eq_some_iff_byIndex? :
    p.byName? name = some f ↔ ∃ i, p.byIndex? i = some f ∧ f.name = name ∧
      ∀ j g, p.byIndex? j = some g → g.name = name → j ≤ i := by
  rw [byName?_eq_some]
  constructor
  · rintro ⟨earlier, later, hfields, hname, hlater⟩
    refine ⟨earlier.length, ?_, hname, fun j g hg hgname => ?_⟩
    · rw [byIndex?_natCast, hfields, List.getElem?_append_right (Nat.le_refl _), Nat.sub_self,
        List.getElem?_cons_zero]
    · obtain ⟨n, rfl, hn⟩ := byIndex?_eq_some.1 hg
      by_contra hpast
      obtain ⟨k, rfl⟩ : ∃ k, n = earlier.length + (k + 1) := ⟨n - earlier.length - 1, by omega⟩
      rw [hfields, List.getElem?_append_right (Nat.le_add_right _ _), Nat.add_sub_cancel_left,
        List.getElem?_cons_succ] at hn
      exact hlater g (List.mem_of_getElem? hn) hgname
  · rintro ⟨i, hi, hname, hlast⟩
    obtain ⟨n, rfl, hn⟩ := byIndex?_eq_some.1 hi
    obtain ⟨hlt, hget⟩ := List.getElem?_eq_some_iff.1 hn
    refine ⟨p.fields.take n, p.fields.drop (n + 1), ?_, hname, fun g hg hgname => ?_⟩
    · rw [← hget, List.cons_getElem_drop_succ, List.take_append_drop]
    · obtain ⟨k, hk⟩ := List.mem_iff_getElem?.1 hg
      rw [List.getElem?_drop] at hk
      have hle := hlast (n + 1 + k : Nat) g (byIndex?_eq_some.2 ⟨_, rfl, hk⟩) hgname
      omega

theorem byName?_eq_none_iff_byIndex? :
    p.byName? name = none ↔ ∀ i f, p.byIndex? i = some f → f.name ≠ name := by
  rw [byName?, List.find?_eq_none]
  constructor
  · intro h i f hf
    obtain ⟨n, -, hn⟩ := byIndex?_eq_some.1 hf
    simpa using h f (List.mem_reverse.2 (List.mem_of_getElem? hn))
  · intro h f hf
    obtain ⟨n, hn⟩ := List.mem_iff_getElem?.1 (List.mem_reverse.1 hf)
    simpa using h n f (byIndex?_eq_some.2 ⟨n, rfl, hn⟩)

/-! ### Lines -/

theorem readFrom_of_parse (h : parse source = .ok p) : p.ReadFrom source := by
  have hlines : (Text.lines source).length = (Text.charLines source.toList).length :=
    List.length_map _
  have hlength : p.fields.length = (Text.lines source).length := by
    rw [hlines, ← map_source h, List.length_map]
  refine ⟨hlength, fun i line hline => ?_, fun i hi => ?_, fun name f =>
    byName?_eq_some_iff_byIndex?, fun name => byName?_eq_none_iff_byIndex?⟩
  · have hi : i < p.fields.length := by
      rw [hlength]
      exact (List.getElem?_eq_some_iff.1 hline).1
    have hf := List.getElem?_eq_getElem hi
    obtain ⟨hnumber, htext, hcut⟩ := field_of_parse h hf
    have hsource : (Text.lines source)[i]? = some (p.fields[i]).source := by
      rw [Text.lines, Text.splitOn, List.getElem?_map]
      exact (congrArg _ htext).trans (congrArg some String.ofList_toList)
    refine ⟨_, (byIndex?_natCast p i).trans hf, ⟨hnumber, ?_, ?_⟩, hcut⟩
    · exact Option.some.inj (hsource.symm.trans hline)
    · exact colon_not_mem_of_parse h (List.getElem_mem hi)
  · rw [byIndex?_eq_none, hlength]
    exact hi

theorem unmarked_eq_nil : unmarked source = [] ↔ ∀ line ∈ Text.lines source, ':' ∈ line.toList := by
  rw [unmarked, List.filter_eq_nil_iff]
  constructor
  · intro h line hline
    obtain ⟨i, hi⟩ := List.mem_iff_getElem?.1 hline
    have hmem : (line, 2 + i) ∈ (Text.lines source).zipIdx 2 :=
      List.mem_zipIdx_iff_le_and_getElem?_sub.2 ⟨Nat.le_add_right 2 i, by simpa using hi⟩
    simpa using h _ hmem
  · rintro h ⟨line, number⟩ hmem
    have hline : line ∈ Text.lines source :=
      List.mem_of_getElem? (List.mem_zipIdx_iff_le_and_getElem?_sub.1 hmem).2
    simpa using h line hline

theorem exists_of_unmarked (h : unmarked source = []) : ∃ p, parse source = .ok p := by
  rw [parse, malformed_eq, h]
  exact ⟨_, rfl⟩

/-- A text is a preamble exactly if there is a colon in each of its lines, and the fields of a
preamble are these lines. What is said of a text that is no preamble is one diagnostic for each line
without a colon, in order, which shows the line with its number under the origin. -/
theorem parse_allOrNothing (source : String) :
    ((∃ p, parse source = .ok p) ↔ ∀ line ∈ Text.lines source, ':' ∈ line.toList) ∧
      (∀ p, parse source = .ok p → p.ReadFrom source) ∧
      ∀ ls, parse source = .error ls → ∀ origin,
        ls.map (·.message origin) = (unmarked source).map (complaint origin) := by
  refine ⟨?_, fun p h => readFrom_of_parse h, fun ls h origin => ?_⟩
  · rw [← unmarked_eq_nil]
    constructor
    · rintro ⟨p, h⟩
      by_contra hne
      rw [parse_of_unmarked hne] at h
      cases h
    · exact exists_of_unmarked
  · have hne : unmarked source ≠ [] := fun hnil => by
      obtain ⟨p, hp⟩ := exists_of_unmarked hnil
      rw [hp] at h
      cases h
    rw [parse_of_unmarked hne] at h
    rw [← Except.error.inj h, List.map_map]
    rfl

/-- A name that comes three times, and three lines of which two have no colon. -/
theorem parse_allOrNothing_drafts :
    (∃ p, parse "a: 1\nb::\na:\na:2: 3" = .ok p ∧ p.ReadFrom "a: 1\nb::\na:\na:2: 3") ∧
      ∃ ls, parse "a\nb: c\n" = .error ls ∧ ∀ origin, ls.map (·.message origin)
        = [complaint origin ("a", 2), complaint origin ("", 4)] := by
  obtain ⟨hiff, hread, -⟩ := parse_allOrNothing "a: 1\nb::\na:\na:2: 3"
  obtain ⟨p, hp⟩ := hiff.2 (by decide +kernel)
  have hunmarked : unmarked "a\nb: c\n" = [("a", 2), ("", 4)] := by decide +kernel
  refine ⟨⟨p, hp, hread p hp⟩, ?_⟩
  cases h : parse "a\nb: c\n" with
  | ok q =>
    have hcolons := (parse_allOrNothing "a\nb: c\n").1.1 ⟨q, h⟩
    rw [← unmarked_eq_nil, hunmarked] at hcolons
    cases hcolons
  | error ls =>
    refine ⟨ls, rfl, fun origin => ?_⟩
    rw [(parse_allOrNothing "a\nb: c\n").2.2 ls h origin, hunmarked]
    rfl

end Preamble

end ProposalCheck
