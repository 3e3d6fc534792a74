import ProposalCheck.Document.Location
import ProposalCheck.Proofs.Fences
import ProposalCheck.Proofs.Lookups

/-!
# Documents and their parts

A document is put together from the names and values of its fields and from its body, and reading
it gives those back: `Document.parse_roundTrip` says so in both directions. It also says where the
parts stand. `Document.LaidOut` counts the lines of a text from a number of lines in front of the
first fence, `Field.CutFrom` the characters of a preamble.

What a document says of its lines takes it that the first fence is in the first line. With an empty
line in front of it everything is one line further down than the fields and the body say
(`Document.laidOut_zero_iff`).
-/

namespace ProposalCheck

/-! ### Fields -/

/-- The field of a name is the last one that has it. -/
theorem Preamble.byName?_eq_some {p : Preamble} {name : String} {f : Field} :
    p.byName? name = some f ↔ ∃ earlier later, p.fields = earlier ++ f :: later ∧
      f.name = name ∧ ∀ g ∈ later, g.name ≠ name := by
  rw [byName?, List.find?_eq_some_iff_append]
  constructor
  · rintro ⟨hname, later, earlier, hfields, hlater⟩
    refine ⟨earlier.reverse, later.reverse, ?_, by simpa using hname, fun g hg => ?_⟩
    · rw [← List.reverse_reverse p.fields, hfields]
      simp
    · simpa using hlater g (List.mem_reverse.1 hg)
  · rintro ⟨earlier, later, hfields, hname, hlater⟩
    refine ⟨by simpa using hname, later.reverse, earlier.reverse, by simp [hfields], fun g hg => ?_⟩
    simpa using hlater g (List.mem_reverse.1 hg)

/-- The name and the value of a field. -/
def Field.pair (f : Field) : String × String := (f.name, f.value)

/-- The line of a field with a name and a value. -/
def Field.lineOf (p : String × String) : String := p.1 ++ ":" ++ p.2

namespace Field

/-- The parts of a field are pieces of a text, at the positions that the field gives. -/
structure CutFrom (f : Field) (text : String) : Prop where
  name : (text.toList.take f.colon).drop f.start = f.name.toList
  value : (text.toList.take f.stop).drop (f.colon + 1) = f.value.toList
  source : (text.toList.take f.stop).drop f.start = f.source.toList

theorem toList_source (f : Field) : f.source.toList = f.name.toList ++ ':' :: f.value.toList := by
  simp [source]

theorem cutFrom_of_drop {f : Field} {text : String} {rest : List Char}
    (h : text.toList.drop f.start = f.source.toList ++ rest) : f.CutFrom text := by
  have hname : f.colon - f.start = f.name.toList.length := by
    rw [colon, String.length_toList]
    omega
  have hsource : f.stop - f.start = f.source.toList.length := by
    simp only [stop, colon, toList_source, List.length_append, List.length_cons,
      String.length_toList]
    omega
  have hvalue : f.stop - (f.colon + 1) = f.value.toList.length := by
    rw [stop, String.length_toList]
    omega
  have hcolon : f.colon + 1 = f.start + (f.name.toList.length + 1) := by
    rw [colon, String.length_toList]
    omega
  refine ⟨?_, ?_, ?_⟩
  · rw [List.drop_take, hname, h, toList_source, List.append_assoc, List.take_left]
  · rw [List.drop_take, hvalue, hcolon, ← List.drop_drop, h, toList_source, List.append_assoc,
      ← List.drop_drop, List.drop_left, List.cons_append, List.drop_one, List.tail_cons,
      List.take_left]
  · rw [List.drop_take, hsource, h, List.take_left]

end Field

namespace Preamble

theorem splitField?_of_not_mem {name : List Char} (value : List Char) (h : ':' ∉ name) :
    splitField? (name ++ ':' :: value) = some (name, value) := by
  have hspan : (name ++ ':' :: value).span (· != ':') = (name, ':' :: value) :=
    span_eq_iff.2 ⟨rfl, h, fun x hx => (Option.some.inj hx).symm⟩
  simp only [splitField?, hspan]

theorem eq_of_splitField? {line name value : List Char} (h : splitField? line = some (name, value)) :
    line = name ++ ':' :: value := by
  unfold splitField? at h
  cases hspan : line.span (· != ':') with
  | mk before rest =>
    rw [hspan] at h
    obtain ⟨hline, -, hrest⟩ := span_eq_iff.1 hspan
    cases rest with
    | nil => cases h
    | cons c value' =>
      obtain ⟨rfl, rfl⟩ := Prod.mk.inj (Option.some.inj h)
      obtain rfl : c = ':' := hrest c rfl
      exact hline

theorem not_mem_of_splitField? {line name value : List Char}
    (h : splitField? line = some (name, value)) : ':' ∉ name := by
  unfold splitField? at h
  cases hspan : line.span (· != ':') with
  | mk before rest =>
    rw [hspan] at h
    obtain ⟨-, hbefore, -⟩ := span_eq_iff.1 hspan
    cases rest with
    | nil => cases h
    | cons c value' =>
      obtain ⟨rfl, -⟩ := Prod.mk.inj (Option.some.inj h)
      exact hbefore

theorem readLine_lineOf {number start : Nat} {p : String × String} (h : ':' ∉ p.1.toList) :
    readLine number start (Field.lineOf p).toList
      = .ok { line := number, start, name := p.1, value := p.2 } := by
  have hline : (Field.lineOf p).toList = p.1.toList ++ ':' :: p.2.toList := by simp [Field.lineOf]
  rw [hline, readLine, splitField?_of_not_mem _ h]
  simp only [String.ofList_toList]

/-- What a field says about its line. -/
theorem eq_of_readLine {number start : Nat} {line : List Char} {f : Field}
    (h : readLine number start line = .ok f) :
    f.line = number ∧ f.start = start ∧ f.source.toList = line := by
  unfold readLine at h
  cases hsplit : splitField? line with
  | none => simp [hsplit] at h
  | some p =>
    simp only [hsplit] at h
    obtain rfl := Except.ok.inj h
    exact ⟨rfl, rfl, by simp [Field.source, eq_of_splitField? hsplit]⟩

/-- Where a line starts in the text of some lines. -/
def offset : List (List Char) → Nat → Nat
  | l :: ls, i + 1 => l.length + 1 + offset ls i
  | _, _ => 0

theorem getElem?_readLines (number start : Nat) (ls : List (List Char)) (i : Nat) :
    (readLines number start ls)[i]? = ls[i]?.map (readLine (number + i) (start + offset ls i)) := by
  induction ls generalizing number start i with
  | nil => rfl
  | cons l rest ih =>
    rw [readLines]
    cases i with
    | zero => simp [offset]
    | succ i =>
      have hstart : start + l.length + 1 + offset rest i = start + offset (l :: rest) (i + 1) := by
        rw [offset]
        omega
      rw [List.getElem?_cons_succ, List.getElem?_cons_succ, ih, hstart, Nat.add_right_comm,
        Nat.add_assoc]

theorem length_readLines (number start : Nat) (ls : List (List Char)) :
    (readLines number start ls).length = ls.length := by
  induction ls generalizing number start with
  | nil => rfl
  | cons l rest ih => rw [readLines, List.length_cons, List.length_cons, ih]

theorem eq_map_ok_of_malformed {ls : List (Except MalformedLine Field)} (h : malformed ls = []) :
    ls = (wellFormed ls).map .ok := by
  induction ls with
  | nil => rfl
  | cons x rest ih =>
    cases x with
    | error e => cases h
    | ok f =>
      have hrest : malformed rest = [] := h
      show _ = Except.ok f :: (wellFormed rest).map .ok
      rw [← ih hrest]

theorem malformed_map_ok (fs : List Field) : malformed (fs.map .ok) = [] := by
  induction fs with
  | nil => rfl
  | cons f rest ih => exact ih

theorem wellFormed_map_ok (fs : List Field) : wellFormed (fs.map .ok) = fs := by
  induction fs with
  | nil => rfl
  | cons f rest ih => exact congrArg (f :: ·) ih

/-- A text is a preamble if there is a field on each of its lines. -/
theorem parse_eq_ok {source : String} {p : Preamble} :
    parse source = .ok p ↔ readLines 2 0 (Text.charLines source.toList) = p.fields.map .ok := by
  unfold parse
  generalize readLines 2 0 (Text.charLines source.toList) = ls
  constructor
  · intro h
    cases hmalformed : malformed ls with
    | nil =>
      simp only [hmalformed] at h
      obtain rfl := Except.ok.inj h
      exact eq_map_ok_of_malformed hmalformed
    | cons e es => simp [hmalformed] at h
  · rintro rfl
    simp only [malformed_map_ok, wellFormed_map_ok]

/-- A line stands in the text of the lines where it starts. -/
theorem drop_offset {ls : List (List Char)} {i : Nat} {l : List Char} (h : ls[i]? = some l) :
    ∃ rest, (Fence.unlines ls).drop (offset ls i) = l ++ rest := by
  induction ls generalizing i with
  | nil => cases h
  | cons l' ls ih =>
    cases i with
    | zero =>
      obtain rfl := Option.some.inj h
      cases ls with
      | nil => exact ⟨[], by simp [offset]⟩
      | cons f fs => exact ⟨'\n' :: Fence.unlines (f :: fs), by simp [offset]⟩
    | succ i =>
      obtain ⟨rest, hrest⟩ := ih h
      cases ls with
      | nil => cases h
      | cons f fs =>
        have hoffset : offset (l' :: f :: fs) (i + 1) = l'.length + (1 + offset (f :: fs) i) := by
          rw [offset, Nat.add_assoc]
        refine ⟨rest, ?_⟩
        rw [hoffset, Fence.unlines_cons_cons, ← List.drop_drop, List.drop_left, ← List.drop_drop]
        exact hrest

/-- Each field stands on its line, and its parts are where it says. -/
theorem field_of_parse {source : String} {p : Preamble} (h : parse source = .ok p) {i : Nat}
    {f : Field} (hf : p.fields[i]? = some f) :
    f.line = i + 2 ∧ (Text.charLines source.toList)[i]? = some f.source.toList ∧
      f.CutFrom source := by
  have hread : (readLines 2 0 (Text.charLines source.toList))[i]? = some (.ok f) := by
    rw [parse_eq_ok.1 h, List.getElem?_map, hf, Option.map_some]
  rw [getElem?_readLines] at hread
  obtain ⟨l, hl, hfield⟩ := Option.map_eq_some_iff.1 hread
  obtain ⟨hline, hstart, hsource⟩ := eq_of_readLine hfield
  obtain ⟨rest, hrest⟩ := drop_offset hl
  rw [Fence.unlines_charLines, ← hsource] at hrest
  rw [Nat.zero_add] at hstart
  rw [← hstart] at hrest
  exact ⟨by omega, by rw [hl, hsource], Field.cutFrom_of_drop hrest⟩

/-- Lines that are put together from names without colons and from values are read as those. -/
theorem exists_fields_of_pairs (number start : Nat) {pairs : List (String × String)}
    (h : ∀ p ∈ pairs, ':' ∉ p.1.toList) :
    ∃ fields : List Field, fields.map Field.pair = pairs ∧
      readLines number start (pairs.map fun p => (Field.lineOf p).toList) = fields.map .ok := by
  induction pairs generalizing number start with
  | nil => exact ⟨[], rfl, rfl⟩
  | cons p rest ih =>
    obtain ⟨hp, hrest⟩ := List.forall_mem_cons.1 h
    obtain ⟨fields, hfields, hread⟩ :=
      ih (number + 1) (start + (Field.lineOf p).toList.length + 1) hrest
    refine ⟨{ line := number, start, name := p.1, value := p.2 } :: fields, ?_, ?_⟩
    · rw [List.map_cons, hfields]
      rfl
    · rw [List.map_cons, readLines, readLine_lineOf hp, hread, List.map_cons]

/-- The lines of a preamble are those of its fields. -/
theorem map_source {source : String} {p : Preamble} (h : parse source = .ok p) :
    p.fields.map (fun f => f.source.toList) = Text.charLines source.toList := by
  have hlength : p.fields.length = (Text.charLines source.toList).length := by
    rw [← length_readLines 2 0, parse_eq_ok.1 h, List.length_map]
  refine List.ext_getElem? fun i => ?_
  rw [List.getElem?_map]
  cases hf : p.fields[i]? with
  | some f =>
    obtain ⟨-, hline, -⟩ := field_of_parse h hf
    rw [hline, Option.map_some]
  | none =>
    rw [List.getElem?_eq_none_iff, hlength] at hf
    rw [List.getElem?_eq_none hf, Option.map_none]

end Preamble

/-! ### Texts put together -/

namespace Document

/-- A preamble with these names and values between its fences, and a body. -/
def joined (pairs : List (String × String)) (body : String) : String :=
  "---\n" ++ Text.unlines (pairs.map Field.lineOf) ++ "\n---\n" ++ body

theorem toList_joined {pairs : List (String × String)} (hpairs : pairs ≠ []) (body : String) :
    (joined pairs body).toList
      = Fence.unlines (['-', '-', '-'] :: (pairs.map fun p => (Field.lineOf p).toList)
          ++ ['-', '-', '-'] :: Text.charLines body.toList) := by
  have hlines : (pairs.map fun p => (Field.lineOf p).toList) ≠ [] := by simpa using hpairs
  have hbody : Text.charLines body.toList ≠ [] := Text.split_ne_nil '\n' body.toList
  have hne : ['-', '-', '-'] :: Text.charLines body.toList ≠ [] := List.cons_ne_nil _ _
  rw [List.cons_append, Fence.unlines_cons _ (List.append_ne_nil_of_left_ne_nil hlines _),
    Fence.unlines_append hlines hne, Fence.unlines_cons _ hbody, Fence.unlines_charLines]
  simp [joined, Fence.toList_unlines, Function.comp_def]

theorem parse_of_split {source preamble body : String} {p : Preamble}
    (hsplit : Fence.split source = .ok (preamble, body)) (hpreamble : Preamble.parse preamble = .ok p)
    (origin : Option String) (path : Option Path) :
    parse source origin path
      = match Markup.read body with
        | .ok tree =>
          .ok { source, bodySource := body, preamble := p, body := tree, origin, path
                bodyLine := Text.count '\n' preamble + 3 }
        | .error e => .error (.markup e) := by
  unfold parse
  rw [hsplit]
  simp only [mapError_ok, bind, Except.bind, hpreamble]
  cases Markup.read body <;> rfl

theorem parts_of_parse {source : String} {origin : Option String} {path : Option Path}
    {d : Document} (h : parse source origin path = .ok d) :
    d.source = source ∧ ∃ preamble, Fence.split source = .ok (preamble, d.bodySource) ∧
      Preamble.parse preamble = .ok d.preamble ∧ d.bodyLine = Text.count '\n' preamble + 3 := by
  obtain ⟨⟨preamble, body⟩, hsplit, h⟩ := bind_eq_ok.1 h
  obtain ⟨p, hpreamble, h⟩ := bind_eq_ok.1 h
  obtain ⟨tree, -, h⟩ := bind_eq_ok.1 h
  obtain rfl := Except.ok.inj h
  exact ⟨rfl, preamble, mapError_eq_ok.1 hsplit, mapError_eq_ok.1 hpreamble, rfl⟩

theorem read_of_parse {source : String} {origin : Option String} {path : Option Path}
    {d : Document} (h : parse source origin path = .ok d) :
    Markup.read d.bodySource = .ok d.body := by
  obtain ⟨⟨preamble, body⟩, -, h⟩ := bind_eq_ok.1 h
  obtain ⟨fields, -, h⟩ := bind_eq_ok.1 h
  obtain ⟨tree, htree, h⟩ := bind_eq_ok.1 h
  obtain rfl := Except.ok.inj h
  exact mapError_eq_ok.1 htree

section

variable {pairs : List (String × String)} (hpairs : pairs ≠ [])
  (hnames : ∀ p ∈ pairs, ':' ∉ p.1.toList) (hlines : ∀ p ∈ pairs, '\n' ∉ (Field.lineOf p).toList)

include hlines in
theorem not_mem_of_mem_lines :
    ∀ l ∈ pairs.map (fun p => (Field.lineOf p).toList), '\n' ∉ l := by
  intro l hl
  obtain ⟨p, hp, rfl⟩ := List.mem_map.1 hl
  exact hlines p hp

/-- A line with a colon is no fence. -/
theorem fence_not_mem_lines (pairs : List (String × String)) :
    ['-', '-', '-'] ∉ pairs.map fun p => (Field.lineOf p).toList := by
  intro hmem
  obtain ⟨p, -, hp⟩ := List.mem_map.1 hmem
  have hcolon : ':' ∈ (Field.lineOf p).toList := by simp [Field.lineOf]
  rw [hp] at hcolon
  exact absurd hcolon (by decide)

include hpairs hlines in
theorem split_joined (body : String) :
    Fence.split (joined pairs body) = .ok (Text.unlines (pairs.map Field.lineOf), body) := by
  obtain ⟨p, rest, rfl⟩ := List.exists_cons_of_ne_nil hpairs
  have htext : Text.charLines (joined (p :: rest) body).toList
      = [] ++ ['-', '-', '-'] :: (Field.lineOf p).toList
        :: ((rest.map fun p => (Field.lineOf p).toList)
          ++ ['-', '-', '-'] :: Text.charLines body.toList) := by
    rw [toList_joined hpairs, List.cons_append, Fence.charLines_unlines (List.cons_ne_nil _ _)]
    · rfl
    · intro l hl
      rw [List.mem_cons, List.mem_append, List.mem_cons] at hl
      rcases hl with rfl | hl | rfl | hl
      · decide
      · exact not_mem_of_mem_lines hlines l hl
      · decide
      · exact Text.not_mem_of_mem_split hl
  rw [Fence.split, htext, Fence.splitLines_twoFences List.not_mem_nil (fence_not_mem_lines rest),
    if_pos (.inl rfl)]
  have hpreamble : String.ofList (Fence.unlines ((Field.lineOf p).toList
      :: rest.map fun p => (Field.lineOf p).toList)) = Text.unlines ((p :: rest).map Field.lineOf) := by
    rw [← String.toList_inj, String.toList_ofList, Fence.toList_unlines, List.map_map]
    rfl
  have hbody : String.ofList (Fence.unlines (Text.charLines body.toList)) = body := by
    rw [Fence.unlines_charLines, String.ofList_toList]
  simp only [Except.map, hpreamble, hbody]

include hpairs hnames hlines in
theorem exists_fields_of_lines :
    ∃ fields : List Field, fields.map Field.pair = pairs ∧
      Preamble.parse (Text.unlines (pairs.map Field.lineOf)) = .ok ⟨fields⟩ := by
  obtain ⟨fields, hfields, hread⟩ := Preamble.exists_fields_of_pairs 2 0 hnames
  have hne : (pairs.map fun p => (Field.lineOf p).toList) ≠ [] := by simpa using hpairs
  refine ⟨fields, hfields, ?_⟩
  rw [Preamble.parse_eq_ok, Fence.toList_unlines, List.map_map]
  exact (congrArg _ (Fence.charLines_unlines hne (not_mem_of_mem_lines hlines))).trans hread

end

/-! ### Where the parts stand -/

/-- The lines of a document: `lead` in front of the first fence, those of the preamble, and those of
the body. -/
structure Sections (d : Document) (lead ps rest : List (List Char)) : Prop where
  leading : lead = [] ∨ lead = [[]]
  lines : d.lines = lead ++ ['-', '-', '-'] :: (ps ++ ['-', '-', '-'] :: rest)
  nonempty : ps ≠ []
  fields : d.preamble.fields.map (fun f => f.source.toList) = ps
  numbered : ∀ i f, d.preamble.fields[i]? = some f → f.line = i + 2
  bodyLine : d.bodyLine = ps.length + 2
  body : d.bodySource = String.ofList (Fence.unlines rest)

theorem exists_sections {source : String} {origin : Option String} {path : Option Path}
    {d : Document} (h : parse source origin path = .ok d) : ∃ lead ps rest, d.Sections lead ps rest := by
  obtain ⟨rfl, preamble, hsplit, hpreamble, hbodyLine⟩ := parts_of_parse h
  obtain ⟨lead, ps, rest, hlead, hps, hlines, rfl, hbody⟩ := Fence.exists_lines_of_split hsplit
  have hnolf : ∀ l ∈ ps, '\n' ∉ l := fun l hl =>
    Text.not_mem_of_mem_split (hlines ▸ List.mem_append_right _
      (List.mem_cons_of_mem _ (List.mem_append_left _ hl)) : l ∈ Text.charLines d.source.toList)
  refine ⟨lead, ps, rest, hlead, hlines, hps, ?_, fun i f hf => ?_, ?_, hbody⟩
  · rw [Preamble.map_source hpreamble, String.toList_ofList, Fence.charLines_unlines hps hnolf]
  · exact (Preamble.field_of_parse hpreamble hf).1
  · have hcount := Fence.count_unlines hps hnolf
    omega

/-- Where the parts of a document stand in its text, behind `lead` lines in front of the first
fence. -/
structure LaidOut (d : Document) (lead : Nat) : Prop where
  field : ∀ f ∈ d.preamble.fields, d.lines[f.line - 1 + lead]? = some f.source.toList
  bodyLine : d.preamble.fields.length + 2 = d.bodyLine
  body : String.ofList (Fence.unlines (d.lines.drop (d.bodyLine + lead))) = d.bodySource
  /-- The text is put together from its parts, but for a line break behind a fence at its end. -/
  text : Text.repeated lead '\n' ++ joined (d.preamble.fields.map Field.pair) d.bodySource
    = if d.lines.length = d.bodyLine + lead then d.source ++ "\n" else d.source

namespace Sections

variable {d : Document} {lead ps rest : List (List Char)} (h : d.Sections lead ps rest)

include h

theorem length_fields : d.preamble.fields.length = ps.length := by
  rw [← h.fields, List.length_map]

theorem exists_first : ∃ f ∈ d.preamble.fields, f.line = 2 := by
  have hpos : 0 < d.preamble.fields.length := by
    rw [h.length_fields]
    exact List.length_pos_iff.2 h.nonempty
  exact ⟨_, List.getElem_mem hpos, h.numbered 0 _ (List.getElem?_eq_getElem hpos)⟩

theorem getElem?_lines {f : Field} (hf : f ∈ d.preamble.fields) :
    d.lines[f.line - 1 + lead.length]? = some f.source.toList := by
  obtain ⟨i, hi⟩ := List.mem_iff_getElem?.1 hf
  have hline := h.numbered i f hi
  have hget : ps[i]? = some f.source.toList := by
    rw [← h.fields, List.getElem?_map, hi, Option.map_some]
  have hindex : f.line - 1 + lead.length = lead.length + (i + 1) := by omega
  have hlt : i < ps.length := (List.getElem?_eq_some_iff.1 hget).1
  rw [h.lines, hindex, List.getElem?_append_right (Nat.le_add_right _ _), Nat.add_sub_cancel_left,
    List.getElem?_cons_succ, List.getElem?_append_left hlt, hget]

theorem drop_lines : d.lines.drop (d.bodyLine + lead.length) = rest := by
  have hindex : d.bodyLine + lead.length = lead.length + (1 + (ps.length + 1)) := by
    rw [h.bodyLine]
    omega
  rw [h.lines, hindex, ← List.drop_drop, List.drop_left, ← List.drop_drop, List.drop_one,
    List.tail_cons, ← List.drop_drop, List.drop_left, List.drop_one, List.tail_cons]

theorem toList_source : d.source.toList = List.replicate lead.length '\n'
    ++ Fence.unlines (['-', '-', '-'] :: (ps ++ ['-', '-', '-'] :: rest)) := by
  rw [← Fence.unlines_charLines d.source.toList]
  change Fence.unlines d.lines = _
  rw [h.lines]
  have hne : ps ++ ['-', '-', '-'] :: rest ≠ [] := List.append_ne_nil_of_left_ne_nil h.nonempty _
  rcases h.leading with rfl | rfl
  · rfl
  · rw [List.singleton_append, Fence.unlines_cons _ (List.cons_ne_nil _ _)]
    rfl

theorem toList_joined : (joined (d.preamble.fields.map Field.pair) d.bodySource).toList
    = Fence.unlines (['-', '-', '-'] :: (ps ++ ['-', '-', '-']
        :: Text.charLines d.bodySource.toList)) := by
  have hpairs : (d.preamble.fields.map Field.pair).map (fun p => (Field.lineOf p).toList) = ps := by
    rw [List.map_map, ← h.fields]
    rfl
  have hne : d.preamble.fields.map Field.pair ≠ [] := by
    intro hnil
    rw [hnil] at hpairs
    exact h.nonempty hpairs.symm
  rw [Document.toList_joined hne, hpairs, List.cons_append]

theorem text : Text.repeated lead.length '\n'
      ++ joined (d.preamble.fields.map Field.pair) d.bodySource
    = if d.lines.length = d.bodyLine + lead.length then d.source ++ "\n" else d.source := by
  have hlength : d.lines.length = d.bodyLine + lead.length ↔ rest = [] := by
    rw [← List.length_eq_zero_iff, h.lines, h.bodyLine]
    simp only [List.length_append, List.length_cons]
    omega
  rw [← String.toList_inj, String.toList_append, Text.repeated, String.toList_ofList, h.toList_joined]
  by_cases hrest : rest = []
  · -- the body is then empty, but as a text it has one line
    have hbody : Text.charLines d.bodySource.toList = [[]] := by
      rw [h.body, hrest]
      rfl
    have hgroup : ['-', '-', '-'] :: (ps ++ ['-', '-', '-'] :: [[]])
        = (['-', '-', '-'] :: (ps ++ [['-', '-', '-']])) ++ [[]] := by simp
    rw [if_pos (hlength.2 hrest), String.toList_append, h.toList_source, hbody, hrest, hgroup,
      Fence.unlines_append (List.cons_ne_nil _ _) (List.cons_ne_nil _ _), List.append_assoc]
    rfl
  · have hbody : Text.charLines d.bodySource.toList = rest := by
      rw [h.body, String.toList_ofList]
      refine Fence.charLines_unlines hrest fun l hl => ?_
      refine Text.not_mem_of_mem_split (?_ : l ∈ d.lines)
      rw [h.lines]
      exact List.mem_append_right _ (List.mem_cons_of_mem _
        (List.mem_append_right _ (List.mem_cons_of_mem _ hl)))
    rw [if_neg (mt hlength.1 hrest), h.toList_source, hbody]

theorem laidOut : d.LaidOut lead.length where
  field _ hf := h.getElem?_lines hf
  bodyLine := by rw [h.length_fields, h.bodyLine]
  body := by rw [h.drop_lines, h.body]
  text := h.text

end Sections

/-- The parts of a document stand where they are said to stand, one line further down if the text
starts with an empty line. -/
theorem laidOut_of_parse {source : String} {origin : Option String} {path : Option Path}
    {d : Document} (h : parse source origin path = .ok d) :
    d.LaidOut (if d.lines.head? = some [] then 1 else 0) := by
  obtain ⟨lead, ps, rest, hsections⟩ := exists_sections h
  have hlead : (if d.lines.head? = some [] then 1 else 0) = lead.length := by
    rw [hsections.lines]
    rcases hsections.leading with rfl | rfl <;> simp
  rw [hlead]
  exact hsections.laidOut

/-- The parts stand where they are said to stand if the first fence is in the first line. -/
theorem laidOut_zero_iff {source : String} {origin : Option String} {path : Option Path}
    {d : Document} (h : parse source origin path = .ok d) :
    d.LaidOut 0 ↔ d.lines.head? ≠ some [] := by
  constructor
  · intro hzero hempty
    obtain ⟨lead, ps, rest, hsections⟩ := exists_sections h
    obtain ⟨f, hf, hline⟩ := hsections.exists_first
    have hget := hzero.field f hf
    rw [hsections.lines] at hempty
    rw [hline, hsections.lines] at hget
    rcases hsections.leading with rfl | rfl
    · cases hempty
    · -- the line of the first field would be the first fence
      have hfence : ['-', '-', '-'] = f.source.toList := Option.some.inj hget
      have hcolon : ':' ∈ f.source.toList := by simp [Field.toList_source]
      rw [← hfence] at hcolon
      exact absurd hcolon (by decide)
  · intro hempty
    have hlaidOut := laidOut_of_parse h
    rwa [if_neg hempty] at hlaidOut

/-- A text put together from names, values and a body is read as those, unless the body cannot be
read; and every document is put together from its parts, which stand where they are said to stand,
unless the text starts with an empty line. -/
theorem parse_roundTrip (origin : Option String) (path : Option Path) :
    (∀ (pairs : List (String × String)) (body : String), pairs ≠ [] →
      (∀ p ∈ pairs, ':' ∉ p.1.toList ∧ '\n' ∉ p.1.toList ∧ '\n' ∉ p.2.toList) →
      (∀ tree, Markup.read body = .ok tree → ∃ d, parse (joined pairs body) origin path = .ok d ∧
        d.preamble.fields.map Field.pair = pairs ∧ d.bodySource = body ∧ d.body = tree) ∧
      ∀ e, Markup.read body = .error e → parse (joined pairs body) origin path = .error (.markup e)) ∧
    ∀ source d, parse source origin path = .ok d →
      d.LaidOut (if d.lines.head? = some [] then 1 else 0) ∧
      (∃ preamble, Fence.split source = .ok (preamble, d.bodySource) ∧
        ∀ f ∈ d.preamble.fields, f.CutFrom preamble) ∧
      (d.LaidOut 0 ↔ d.lines.head? ≠ some []) := by
  refine ⟨fun pairs body hpairs h => ?_, fun source d h => ?_⟩
  · have hnames : ∀ p ∈ pairs, ':' ∉ p.1.toList := fun p hp => (h p hp).1
    have hlines : ∀ p ∈ pairs, '\n' ∉ (Field.lineOf p).toList := fun p hp => by
      obtain ⟨-, hname, hvalue⟩ := h p hp
      simp [Field.lineOf, hname, hvalue]
    obtain ⟨fields, hfields, hpreamble⟩ := exists_fields_of_lines hpairs hnames hlines
    have hparse := parse_of_split (split_joined hpairs hlines body) hpreamble origin path
    refine ⟨fun tree htree => ?_, fun e he => ?_⟩
    · rw [htree] at hparse
      exact ⟨_, hparse, hfields, rfl, rfl⟩
    · rw [he] at hparse
      exact hparse
  · obtain ⟨-, preamble, hsplit, hpreamble, -⟩ := parts_of_parse h
    refine ⟨laidOut_of_parse h, ⟨preamble, hsplit, fun f hf => ?_⟩, laidOut_zero_iff h⟩
    obtain ⟨i, hi⟩ := List.mem_iff_getElem?.1 hf
    exact (Preamble.field_of_parse hpreamble hi).2.2

theorem parse_roundTrip_draft :
    ∃ d, parse "---\ntitle: A: B\nstatus:\n---\n# C\n---\n" (some "eip-1.md") none = .ok d ∧
      d.preamble.fields.map Field.pair = [("title", " A: B"), ("status", "")] ∧
      d.bodySource = "# C\n---\n" ∧ d.LaidOut 0 := by
  obtain ⟨hput, hplaced⟩ := parse_roundTrip (some "eip-1.md") none
  have htext : joined [("title", " A: B"), ("status", "")] "# C\n---\n"
      = "---\ntitle: A: B\nstatus:\n---\n# C\n---\n" := by decide +kernel
  have hreads : (Markup.read "# C\n---\n").toOption.isSome = true := by decide +kernel
  cases htree : Markup.read "# C\n---\n" with
  | error e =>
    rw [htree] at hreads
    cases hreads
  | ok tree =>
    obtain ⟨d, hparse, hfields, hbody, -⟩ :=
      (hput [("title", " A: B"), ("status", "")] _ (List.cons_ne_nil _ _) (by decide)).1 tree htree
    rw [htext] at hparse
    have hsource := (parts_of_parse hparse).1
    have hfirst : d.lines.head? ≠ some [] := by
      rw [lines, hsource]
      decide +kernel
    exact ⟨d, hparse, hfields, hbody, (hplaced _ d hparse).2.2.2 hfirst⟩

/-- An empty line in front of the first fence is not counted, and there are bodies that cannot be
read. -/
theorem parse_misplaced :
    (¬ ∀ source d, parse source none none = .ok d → d.LaidOut 0) ∧
      ¬ ∀ body, ∃ d, parse (joined [("a", " b")] body) none none = .ok d := by
  refine ⟨fun h => ?_, fun h => ?_⟩
  · have hreads : (parse "\n---\na:b\n---\n" none none).toOption.isSome = true := by decide +kernel
    cases hparse : parse "\n---\na:b\n---\n" none none with
    | error e =>
      rw [hparse] at hreads
      cases hreads
    | ok d =>
      refine (laidOut_zero_iff hparse).1 (h _ d hparse) ?_
      rw [lines, (parts_of_parse hparse).1]
      decide +kernel
  · obtain ⟨d, hparse⟩ := h "[^a]: > [^b]: t"
    have hnone : (parse (joined [("a", " b")] "[^a]: > [^b]: t") none none).toOption.isNone = true := by
      decide +kernel
    rw [hparse] at hnone
    cases hnone

end Document

end ProposalCheck
