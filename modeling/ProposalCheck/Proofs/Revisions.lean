import ProposalCheck.Proofs.Malformed

/-!
# Revised documents

A document is revised when the line of one of its fields gets another value. `Document.parse_revised`:
the new text is a document with the same body, and with the same names and values but for that one.
Every other field of the name stays, so it is the last field that has to be revised for a rule to
notice (`Preamble.value?_of_pairs`).
-/

namespace ProposalCheck

/-! ### Values by names -/

namespace Preamble

variable {p : Preamble} {name value : String}

/-- The value of the last field with a name. -/
def value? (p : Preamble) (name : String) : Option String :=
  (p.byName? name).map (·.value)

/-- The value of a name depends on the names and values in the preamble, and on nothing else. -/
theorem value?_eq (p : Preamble) (name : String) :
    p.value? name = ((p.fields.map Field.pair).reverse.find? (·.1 == name)).map (·.2) := by
  rw [value?, byName?, ← List.map_reverse, List.find?_map, Option.map_map]
  rfl

theorem value?_of_pairs {before after : List (String × String)}
    (hpairs : p.fields.map Field.pair = before ++ (name, value) :: after)
    (hafter : ∀ q ∈ after, q.1 ≠ name) : p.value? name = some value := by
  have hnone : after.reverse.find? (·.1 == name) = none := by
    rw [List.find?_eq_none]
    intro q hq
    simpa using hafter q (List.mem_reverse.1 hq)
  rw [value?_eq, hpairs]
  simp [hnone]

/-- A value does not depend on fields of other names. -/
theorem value?_congr {q : Preamble} {before after : List (String × String)} {other one two : String}
    (hp : p.fields.map Field.pair = before ++ (other, one) :: after)
    (hq : q.fields.map Field.pair = before ++ (other, two) :: after) (hother : other ≠ name) :
    p.value? name = q.value? name := by
  have hskip : ∀ value, (before ++ (other, value) :: after).reverse.find? (·.1 == name)
      = (after.reverse.find? (·.1 == name)).or (before.reverse.find? (·.1 == name)) := by
    intro value
    simp [List.find?_append, hother]
  rw [value?_eq, value?_eq, hp, hq, hskip, hskip]

/-- A name ends at the first colon of its line. -/
theorem colon_not_mem_of_parse {source : String} (h : parse source = .ok p) {f : Field}
    (hf : f ∈ p.fields) : ':' ∉ f.name.toList := by
  obtain ⟨i, hi⟩ := List.mem_iff_getElem?.1 hf
  have hread : (readLines 2 0 (Text.charLines source.toList))[i]? = some (.ok f) := by
    rw [parse_eq_ok.1 h, List.getElem?_map, hi, Option.map_some]
  rw [getElem?_readLines] at hread
  obtain ⟨l, -, hfield⟩ := Option.map_eq_some_iff.1 hread
  unfold readLine at hfield
  cases hsplit : splitField? l with
  | none => simp [hsplit] at hfield
  | some q =>
    simp only [hsplit] at hfield
    obtain rfl := Except.ok.inj hfield
    simpa using not_mem_of_splitField? hsplit

end Preamble

/-! ### Another value in a line -/

namespace Document

/-- The text of a document with another value in the line of a field. -/
def revised (d : Document) (f : Field) (value : String) : String :=
  String.ofList (Fence.unlines
    (d.lines.set (f.line - 1 + Fence.lead d.source) (Field.lineOf (f.name, value)).toList))

variable {source value : String} {origin : Option String} {path : Option Path} {d : Document}
  {f : Field} {earlier later : List Field}

theorem toList_revised {lead ps rest : List (List Char)} (h : d.Sections lead ps rest)
    (hfields : d.preamble.fields = earlier ++ f :: later) (value : String) :
    (d.revised f value).toList = Fence.unlines (lead ++ ['-', '-', '-'] ::
      ((earlier.map Field.pair ++ (f.name, value) :: later.map Field.pair).map
        (fun p => (Field.lineOf p).toList) ++ ['-', '-', '-'] :: rest)) := by
  have hps : ps = earlier.map (·.source.toList) ++ f.source.toList :: later.map (·.source.toList) := by
    rw [← h.fields, hfields, List.map_append, List.map_cons]
  have hline : f.line = earlier.length + 2 :=
    h.numbered earlier.length f (by simp [hfields])
  have hindex : f.line - 1 + Fence.lead d.source
      = (lead ++ ['-', '-', '-'] :: earlier.map (·.source.toList)).length := by
    rw [Fence.lead_eq h.lines h.leading, List.length_append, List.length_cons, List.length_map, hline]
    omega
  have hlines : d.lines = (lead ++ ['-', '-', '-'] :: earlier.map (·.source.toList)) ++
      f.source.toList :: (later.map (·.source.toList) ++ ['-', '-', '-'] :: rest) := by
    rw [h.lines, hps]
    simp
  rw [revised, String.toList_ofList, hlines, hindex, List.set_append_right _ _ (Nat.le_refl _),
    Nat.sub_self, List.set_cons_zero]
  simp only [List.map_append, List.map_cons, List.map_map, List.append_assoc, List.cons_append]
  rfl

/-- Lines of names and values between fences are cut out, whatever follows. -/
theorem split_unlines {lead rest : List (List Char)} (hlead : lead = [] ∨ lead = [[]])
    {pairs : List (String × String)} (hpairs : pairs ≠ [])
    (hlines : ∀ p ∈ pairs, '\n' ∉ (Field.lineOf p).toList) (hrest : ∀ l ∈ rest, '\n' ∉ l)
    {text : String} (htext : text.toList = Fence.unlines (lead ++ ['-', '-', '-'] ::
      (pairs.map (fun p => (Field.lineOf p).toList) ++ ['-', '-', '-'] :: rest))) :
    Fence.split text = .ok (String.ofList (Fence.unlines
      (pairs.map fun p => (Field.lineOf p).toList)), String.ofList (Fence.unlines rest)) := by
  obtain ⟨first, inner, rfl⟩ := List.exists_cons_of_ne_nil hpairs
  have hcut : Text.charLines text.toList = lead ++ ['-', '-', '-'] ::
      (Field.lineOf first).toList :: (inner.map (fun p => (Field.lineOf p).toList)
        ++ ['-', '-', '-'] :: rest) := by
    rw [htext, Fence.charLines_unlines]
    · rfl
    · exact List.append_ne_nil_of_right_ne_nil _ (List.cons_ne_nil _ _)
    · intro l hl
      simp only [List.mem_append, List.mem_cons] at hl
      rcases hl with hl | rfl | hl | rfl | hl
      · rcases hlead with rfl | rfl
        · cases hl
        · obtain rfl := List.mem_singleton.1 hl
          exact List.not_mem_nil
      · decide
      · exact not_mem_of_mem_lines hlines l hl
      · decide
      · exact hrest l hl
  have hfence : ['-', '-', '-'] ∉ lead := by
    rcases hlead with rfl | rfl <;> simp
  rw [Fence.split, hcut, Fence.splitLines_twoFences hfence (fence_not_mem_lines inner), if_pos hlead]
  rfl

/-- The names of a document have no colons, and its lines no line feeds. -/
theorem clean_of_parse (h : parse source origin path = .ok d) {g : Field}
    (hg : g ∈ d.preamble.fields) : ':' ∉ g.name.toList ∧ '\n' ∉ (Field.lineOf g.pair).toList := by
  obtain ⟨-, preamble, -, hpreamble, -⟩ := parts_of_parse h
  obtain ⟨lead, ps, rest, hsections⟩ := exists_sections h
  have hline : g.source.toList ∈ d.lines := List.mem_of_getElem? (hsections.getElem?_lines hg)
  exact ⟨Preamble.colon_not_mem_of_parse hpreamble hg, Text.not_mem_of_mem_split hline⟩

/-- A document with another value in the line of a field is a document with the same names, values
and body but for this value. -/
theorem parse_revised (h : parse source origin path = .ok d)
    (hfields : d.preamble.fields = earlier ++ f :: later) (hvalue : '\n' ∉ value.toList) :
    ∃ d', parse (d.revised f value) origin path = .ok d' ∧
      d'.preamble.fields.map Field.pair
        = earlier.map Field.pair ++ (f.name, value) :: later.map Field.pair ∧
      d'.bodySource = d.bodySource ∧ d'.body = d.body := by
  obtain ⟨lead, ps, rest, hsections⟩ := exists_sections h
  have hclean : ∀ q ∈ earlier.map Field.pair ++ (f.name, value) :: later.map Field.pair,
      ':' ∉ q.1.toList ∧ '\n' ∉ (Field.lineOf q).toList := by
    have hold := fun g (hg : g ∈ d.preamble.fields) => clean_of_parse h hg
    simp only [hfields, List.forall_mem_append, List.forall_mem_cons] at hold
    obtain ⟨hearlier, ⟨hname, hline⟩, hlater⟩ := hold
    simp only [List.forall_mem_append, List.forall_mem_cons, List.forall_mem_map]
    refine ⟨hearlier, ⟨hname, ?_⟩, hlater⟩
    simp only [Field.lineOf, Field.pair, String.toList_append, List.mem_append, not_or] at hline ⊢
    exact ⟨hline.1, hvalue⟩
  have hne : earlier.map Field.pair ++ (f.name, value) :: later.map Field.pair ≠ [] :=
    List.append_ne_nil_of_right_ne_nil _ (List.cons_ne_nil _ _)
  have hrest : ∀ l ∈ rest, '\n' ∉ l := by
    intro l hl
    have hmem : l ∈ d.lines := by simp [hsections.lines, hl]
    exact Text.not_mem_of_mem_split hmem
  have hsplit := split_unlines hsections.leading hne (fun q hq => (hclean q hq).2) hrest
    (toList_revised hsections hfields value)
  rw [← hsections.body] at hsplit
  obtain ⟨fields, hpairs, hread⟩ :=
    Preamble.exists_fields_of_pairs 2 0 fun q hq => (hclean q hq).1
  have hlines := not_mem_of_mem_lines fun q hq => (hclean q hq).2
  have hpreamble : Preamble.parse (String.ofList (Fence.unlines
      ((earlier.map Field.pair ++ (f.name, value) :: later.map Field.pair).map
        fun q => (Field.lineOf q).toList))) = .ok ⟨fields⟩ := by
    rw [Preamble.parse_eq_ok, String.toList_ofList,
      Fence.charLines_unlines (mt List.map_eq_nil_iff.1 hne) hlines]
    exact hread
  have hresult := parse_of_split hsplit hpreamble origin path
  rw [read_of_parse h] at hresult
  exact ⟨_, hresult, hpairs, rfl, rfl⟩

end Document

end ProposalCheck
