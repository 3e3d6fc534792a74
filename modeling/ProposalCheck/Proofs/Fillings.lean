import Mathlib.Data.List.TakeDrop
import Mathlib.Data.List.TakeWhile
import ProposalCheck.Template.Filling

/-!
# What a template comes to

As long as the fields of a template take the argument as a whole, two slugs, or two numbers, fill it
alike: both do, or both fail with the same error (`Template.fill_alike`). `Alike` is carried through
a template part by part. It needs fields that ask for nothing inside the argument
(`Template.Field.IsWhole`) and, for numbers, layouts that write digits (`Template.Field.IsDigital`).
A plain field between two texts always takes its argument (`Template.fill_around`).
-/

namespace ProposalCheck

/-! ### Alike results -/

/-- Both succeed with results that go together, or both fail with the same error. -/
inductive Alike {ε α β : Type} (together : α → β → Prop) : Except ε α → Except ε β → Prop
  | ok {x : α} {y : β} (h : together x y) : Alike together (.ok x) (.ok y)
  | error (e : ε) : Alike together (.error e) (.error e)

namespace Alike

variable {ε α β γ δ : Type} {together : α → β → Prop} {behind : γ → δ → Prop}
  {one one' : Except ε α} {two two' : Except ε β}

theorem bind (h : Alike together one two) {f : α → Except ε γ} {g : β → Except ε δ}
    (hfg : ∀ x y, together x y → Alike behind (f x) (g y)) :
    Alike behind (one >>= f) (two >>= g) := by
  cases h with
  | ok hxy => exact hfg _ _ hxy
  | error e => exact .error e

theorem map (h : Alike together one two) {f : α → γ} {g : β → δ}
    (hfg : ∀ x y, together x y → behind (f x) (g y)) : Alike behind (one.map f) (two.map g) := by
  cases h with
  | ok hxy => exact .ok (hfg _ _ hxy)
  | error e => exact .error e

theorem mapError {ε' : Type} (h : Alike together one two) (f : ε → ε') :
    Alike together (one.mapError f) (two.mapError f) := by
  cases h with
  | ok hxy => exact .ok hxy
  | error e => exact .error (f e)

theorem ite {c : Prop} [Decidable c] (hthen : c → Alike together one two)
    (helse : ¬ c → Alike together one' two') :
    Alike together (if c then one else one') (if c then two else two') := by
  by_cases hc : c
  · rw [if_pos hc, if_pos hc]
    exact hthen hc
  · rw [if_neg hc, if_neg hc]
    exact helse hc

theorem refl {same : α → α → Prop} (h : ∀ x, same x x) (x : Except ε α) : Alike same x x := by
  rcases x with e | x
  · exact .error e
  · exact .ok (h x)

/-- If results are all like one, then all are there or all fail with one error. -/
theorem dichotomy {ι : Type} {f : ι → Except ε β} {among : ι → Prop}
    (h : ∀ i, among i → Alike together one (f i)) :
    (∀ i, among i → ∃ y, f i = .ok y) ∨ ∃ e, ∀ i, among i → f i = .error e := by
  cases one with
  | ok x =>
    refine .inl fun i hi => ?_
    have halike := h i hi
    generalize f i = result at halike
    cases halike with
    | ok _ => exact ⟨_, rfl⟩
  | error e =>
    refine .inr ⟨e, fun i hi => ?_⟩
    have halike := h i hi
    generalize f i = result at halike
    cases halike
    rfl

end Alike

namespace Template

/-! ### Fields that take the argument as a whole -/

namespace Field

/-- Nothing of the argument is asked for, and no field stands in the layout. -/
def IsWhole (f : Field) : Prop :=
  '.' ∉ f.name ∧ '[' ∉ f.name ∧ '\x7b' ∉ f.layout

/-- A number is written in digits: neither as a real number nor as a character. -/
def IsDigital (f : Field) : Prop :=
  f.conversion = none → ∀ l ∈ (Layout.read .number f.layout).toOption,
    l.presentation ∉ ['e', 'E', 'f', 'F', 'g', 'G', '%', 'c']

instance (f : Field) : Decidable f.IsWhole :=
  inferInstanceAs (Decidable ('.' ∉ f.name ∧ '[' ∉ f.name ∧ '\x7b' ∉ f.layout))

instance (f : Field) : Decidable f.IsDigital :=
  inferInstanceAs (Decidable (f.conversion = none → ∀ l ∈ (Layout.read .number f.layout).toOption,
    l.presentation ∉ ['e', 'E', 'f', 'F', 'g', 'G', '%', 'c']))

end Field

/-- The fields of a template, up to the first mistake. -/
def fields : Nat → List Char → List Field
  | 0, _ => []
  | fuel + 1, cs =>
    match takePart cs with
    | .error _ => []
    | .ok (_, field, rest) => field.toList ++ fields fuel rest

/-- The fields of a text, up to the first mistake. -/
def fieldsOf (template : String) : List Field :=
  fields (template.toList.length + 1) template.toList

/-- No field of a template asks for anything of the argument, or has a field in its layout. -/
def IsWhole (template : String) : Prop :=
  ∀ f ∈ fieldsOf template, f.IsWhole

/-- Every field of a template has numbers written in digits. -/
def IsDigital (template : String) : Prop :=
  ∀ f ∈ fieldsOf template, f.IsDigital

instance (template : String) : Decidable (IsWhole template) :=
  inferInstanceAs (Decidable (∀ f ∈ fieldsOf template, f.IsWhole))

instance (template : String) : Decidable (IsDigital template) :=
  inferInstanceAs (Decidable (∀ f ∈ fieldsOf template, f.IsDigital))

/-- Numbers that can be written. -/
structure Writable (n : Int) : Prop where
  lt : n.natAbs < Nat.pow 10 Text.Numeral.maxDigits

/-- Arguments that fill a field alike: two texts, or two numbers that can be written. -/
inductive Like : Argument → Argument → Prop
  | text (s t : String) : Like (.text s) (.text t)
  | number {m n : Int} (hm : Writable m) (hn : Writable n) : Like (.number m) (.number n)

variable {a b : Argument}

theorem write_of_writable {n : Int} (h : Writable n) : Text.Numeral.write n = .ok (toString n) := by
  unfold Text.Numeral.write
  split
  · rfl
  · rename_i hlong
    exact absurd h.lt hlong

theorem writable_of_le {n : Int} (h : n.natAbs ≤ Text.Numeral.maxDigits) : Writable n := by
  have hpow : ∀ k : Nat, k < Nat.pow 10 k := fun k => Nat.lt_pow_self (by decide)
  exact ⟨Nat.lt_of_le_of_lt h (hpow Text.Numeral.maxDigits)⟩

theorem Writable.natAbs {n : Int} (h : Writable n) : Writable n.natAbs := by
  refine ⟨?_⟩
  rw [Int.natAbs_natCast]
  exact h.lt

theorem Writable.quoted {n : Int} (h : Writable n) :
    (Argument.number n).quoted = .ok (toString n) := by
  rw [Argument.quoted, write_of_writable h]
  rfl

theorem Writable.plain {n : Int} (h : Writable n) :
    (Argument.number n).plain = .ok (toString n) := by
  simp only [Argument.plain, h.quoted]

theorem Like.quoted (h : Like a b) : Alike (fun _ _ => True) a.quoted b.quoted := by
  cases h with
  | text s t => exact .ok trivial
  | number hm hn =>
    rw [hm.quoted, hn.quoted]
    exact .ok trivial

theorem Like.plain (h : Like a b) : Alike (fun _ _ => True) a.plain b.plain := by
  cases h with
  | text s t => exact .ok trivial
  | number hm hn => exact (Like.number hm hn).quoted

/-- Converted arguments are alike, and a number is one that has not been converted. -/
theorem Like.convert (h : Like a b) (conversion : Option Char) :
    Alike (fun a' b' => Like a' b' ∧ ∀ n, a' = .number n → a = .number n ∧ conversion = none)
      (convert a conversion) (convert b conversion) := by
  unfold Template.convert
  split
  · exact .ok ⟨h, fun n hn => ⟨hn, rfl⟩⟩
  · exact h.quoted.map fun s t _ => ⟨.text s t, fun n hn => by cases hn⟩
  · exact h.plain.map fun s t _ => ⟨.text s t, fun n hn => by cases hn⟩
  · exact h.quoted.map fun s t _ => ⟨.text _ _, fun n hn => by cases hn⟩
  · exact .error _

/-! ### Layouts -/

theorem Layout.text_alike (l : Layout) (cs ds : List Char) :
    Alike (fun _ _ => True) (l.text cs) (l.text ds) := by
  unfold Layout.text
  dsimp only
  refine .ite (fun _ => .error _) fun _ => ?_
  cases l.sign with
  | some c => exact .error _
  | none =>
    refine .ite (fun _ => .error _) fun _ => ?_
    refine .ite (fun _ => .error _) fun _ => ?_
    exact .ite (fun _ => .error _) fun _ => .ok trivial

theorem not_real {c : Char} (h : c ∉ ['e', 'E', 'f', 'F', 'g', 'G', '%', 'c']) :
    ¬ ['e', 'E', 'f', 'F', 'g', 'G', '%'].contains c = true :=
  fun hc => h (List.mem_append_left ['c'] (List.contains_iff_mem.1 hc))

theorem Layout.number_alike {l : Layout}
    (hl : l.presentation ∉ ['e', 'E', 'f', 'F', 'g', 'G', '%', 'c']) {m n : Int} (hm : Writable m)
    (hn : Writable n) : Alike (fun _ _ => True) (l.number m) (l.number n) := by
  unfold Layout.number
  dsimp only
  rw [if_neg (not_real hl), if_neg (not_real hl)]
  refine .ite (fun _ => .error _) fun _ => ?_
  refine .ite (fun _ => .error _) fun _ => ?_
  refine .ite (fun _ => .error _) fun _ => ?_
  split
  · rename_i hc
    exact absurd (by rw [hc]; decide) hl
  · exact .ok trivial
  · exact .ok trivial
  · exact .ok trivial
  · exact .ok trivial
  · rw [write_of_writable hm.natAbs, write_of_writable hn.natAbs]
    exact .ok trivial

theorem Like.lay (h : Like a b) {spec : List Char}
    (hspec : ∀ n, a = .number n → ∀ l ∈ (Layout.read .number spec).toOption,
      l.presentation ∉ ['e', 'E', 'f', 'F', 'g', 'G', '%', 'c']) :
    Alike (fun _ _ => True) (a.lay spec) (b.lay spec) := by
  unfold Argument.lay
  refine .ite (fun _ => h.plain.map fun _ _ _ => trivial) fun _ => ?_
  cases h with
  | text s t =>
    refine Alike.mapError (Alike.bind (Alike.refl (fun _ => rfl) _) ?_) _
    rintro l _ rfl
    exact l.text_alike _ _
  | number hm hn =>
    refine Alike.mapError ?_ _
    cases hread : Layout.read .number spec with
    | error e => exact .error e
    | ok l => exact Layout.number_alike (hspec _ rfl l (by rw [hread]; rfl)) hm hn

/-! ### Fields -/

theorem choose_alike (a b : Argument) (name : List Char) (numbering : Numbering) :
    Alike (fun x y => x.1 = a ∧ y.1 = b ∧ x.2 = y.2) (choose a name numbering)
      (choose b name numbering) := by
  unfold choose
  refine Alike.bind (Alike.refl (fun _ => rfl) _) ?_
  rintro index _ rfl
  dsimp only
  split
  · exact .error _
  · exact .ite (fun _ => .ok ⟨rfl, rfl, rfl⟩) fun _ => .error _
  · exact .ite (fun _ => .ok ⟨rfl, rfl, rfl⟩) fun _ => .error _
  · exact .error _
  · exact .ite (fun _ => .ok ⟨rfl, rfl, rfl⟩) fun _ => .error _
  · exact .error _

theorem find_of_whole {name : List Char} (hdot : '.' ∉ name) (hbracket : '[' ∉ name)
    (arg : Argument) (numbering : Numbering) :
    find arg name numbering = choose arg name numbering := by
  have hfirst : (name.takeWhile fun c => c != '.' && c != '[') = name := by
    rw [List.takeWhile_eq_self_iff]
    intro c hc
    have hne : c ≠ '.' ∧ c ≠ '[' := ⟨fun h => hdot (h ▸ hc), fun h => hbracket (h ▸ hc)⟩
    simpa using hne
  have hrest : ∀ a, follow name.length a [] = .ok a := fun a => by
    cases name <;> rfl
  unfold find
  simp only [hfirst, List.drop_length, hrest]
  cases choose arg name numbering <;> rfl

/-- What a field is filled with, and how arguments are numbered from there on. -/
def fillField (nested : List Char → Numbering → Except TemplateError (List Char × Numbering))
    (arg : Argument) (f : Field) (numbering : Numbering) :
    Except TemplateError (List Char × Numbering) := do
  let (a, numbering) ← find arg f.name numbering
  let a ← convert a f.conversion
  let (layout, numbering) ←
    if f.layout.contains '\x7b' then nested f.layout numbering else pure (f.layout, numbering)
  pure (← a.lay layout, numbering)

/-- What stands in the place of a field, if there is one. -/
def fillField? (nested : List Char → Numbering → Except TemplateError (List Char × Numbering))
    (arg : Argument) (numbering : Numbering) :
    Option Field → Except TemplateError (List Char × Numbering)
  | none => .ok ([], numbering)
  | some f => fillField nested arg f numbering

/-- What a part of a template and all behind it are filled with. -/
def fillPart (nested : List Char → Numbering → Except TemplateError (List Char × Numbering))
    (arg : Argument) (fuel : Nat) (numbering : Numbering)
    (part : List Char × Option Field × List Char) :
    Except TemplateError (List Char × Numbering) := do
  let (filled, numbering) ← fillField? nested arg numbering part.2.1
  let (tail, numbering) ← fillParts nested arg fuel part.2.2 numbering
  return (part.1 ++ filled ++ tail, numbering)

theorem fillParts_cons
    (nested : List Char → Numbering → Except TemplateError (List Char × Numbering))
    (arg : Argument) (fuel : Nat) (c : Char) (cs : List Char) (numbering : Numbering) :
    fillParts nested arg (fuel + 1) (c :: cs) numbering
      = takePart (c :: cs) >>= fillPart nested arg fuel numbering := by
  rw [fillParts]
  refine congrArg (takePart (c :: cs) >>= ·) (funext fun part => ?_)
  obtain ⟨literal, field, rest⟩ := part
  cases field with
  | none => rfl
  | some f =>
    simp only [fillPart, fillField?, fillField, bind_assoc]
    cases f.layout.contains '\x7b' <;>
      simp only [bind_assoc, if_true, if_false, Bool.false_eq_true]
  · simp

/-- A field that all texts fill alike and, if it is digital, all numbers that can be written. -/
theorem fillField_alike {f : Field} (h : Like a b) (hwhole : f.IsWhole)
    (hdigital : ∀ n, a = .number n → f.IsDigital)
    (one two : List Char → Numbering → Except TemplateError (List Char × Numbering))
    (numbering : Numbering) :
    Alike (fun x y => x.2 = y.2) (fillField one a f numbering) (fillField two b f numbering) := by
  have hflat : ¬ f.layout.contains '\x7b' = true := by
    rw [List.contains_iff_mem]
    exact hwhole.2.2
  unfold fillField
  rw [find_of_whole hwhole.1 hwhole.2.1, find_of_whole hwhole.1 hwhole.2.1]
  refine (choose_alike a b f.name numbering).bind ?_
  rintro ⟨_, numbering⟩ ⟨_, _⟩ ⟨rfl, rfl, rfl⟩
  refine (h.convert f.conversion).bind ?_
  rintro a' b' ⟨hlike, hplain⟩
  simp only [if_neg hflat, pure_bind]
  refine Alike.bind (hlike.lay fun n hn => ?_) fun _ _ _ => .ok rfl
  obtain ⟨ha, hconversion⟩ := hplain n hn
  exact hdigital n ha hconversion

theorem fillParts_alike (h : Like a b)
    (one two : List Char → Numbering → Except TemplateError (List Char × Numbering)) {fuel : Nat}
    {cs : List Char} (hwhole : ∀ f ∈ fields fuel cs, f.IsWhole)
    (hdigital : ∀ n, a = .number n → ∀ f ∈ fields fuel cs, f.IsDigital) (numbering : Numbering) :
    Alike (fun x y => x.2 = y.2) (fillParts one a fuel cs numbering)
      (fillParts two b fuel cs numbering) := by
  induction fuel generalizing cs numbering with
  | zero => exact .ok rfl
  | succ fuel ih =>
    cases cs with
    | nil => exact .ok rfl
    | cons c cs =>
      rw [fillParts_cons, fillParts_cons]
      cases hpart : takePart (c :: cs) with
      | error e => exact .error e
      | ok part =>
        obtain ⟨literal, field, rest⟩ := part
        have hfields : fields (fuel + 1) (c :: cs) = field.toList ++ fields fuel rest := by
          simp only [fields, hpart]
        rw [hfields] at hwhole hdigital
        have hrest := ih (fun f hf => hwhole f (List.mem_append_right _ hf))
          fun n hn f hf => hdigital n hn f (List.mem_append_right _ hf)
        show Alike _ (fillPart one a fuel numbering _) (fillPart two b fuel numbering _)
        cases field with
        | none => exact (hrest numbering).bind fun x y hxy => .ok hxy
        | some f =>
          have hfilled := fillField_alike h (hwhole f (by simp))
            (fun n hn => hdigital n hn f (by simp)) one two numbering
          refine hfilled.bind ?_
          -- The two fillings differ, but the field behind gets the same number on both sides.
          rintro ⟨_, numbering⟩ ⟨_, _⟩ rfl
          exact (hrest numbering).bind fun x y hxy => .ok hxy

theorem fill_alike (h : Like a b) {template : String} (hwhole : IsWhole template)
    (hdigital : ∀ n, a = .number n → IsDigital template) :
    Alike (fun _ _ => True) (fill template a) (fill template b) :=
  (fillParts_alike h _ _ hwhole hdigital .unknown).map fun _ _ _ => trivial

/-! ### One plain field between two texts -/

/-- Whether a character must be doubled in a template. -/
def IsBrace (c : Char) : Prop :=
  c = '\x7b' ∨ c = '\x7d'

instance (c : Char) : Decidable (IsBrace c) :=
  inferInstanceAs (Decidable (c = '\x7b' ∨ c = '\x7d'))

/-- A text with its braces doubled. -/
def escape : List Char → List Char
  | [] => []
  | c :: cs => if IsBrace c then c :: c :: escape cs else c :: escape cs

/-- The template with one plain field between two texts. -/
def around (before after : String) : String :=
  String.ofList (escape before.toList ++ '\x7b' :: '\x7d' :: escape after.toList)

theorem takePart_cons {c : Char} (hc : ¬ IsBrace c) (cs : List Char) :
    takePart (c :: cs) = (takePart cs).map fun p => (c :: p.1, p.2) := by
  obtain ⟨hopen, hclose⟩ := not_or.1 hc
  have hspan : ((c :: cs).span fun c => c != '\x7b' && c != '\x7d')
      = (c :: (cs.span fun c => c != '\x7b' && c != '\x7d').1,
          (cs.span fun c => c != '\x7b' && c != '\x7d').2) := by
    simp [List.span_eq_takeWhile_dropWhile, hopen, hclose]
  unfold takePart
  rw [hspan]
  obtain ⟨literal, rest⟩ := cs.span fun c => c != '\x7b' && c != '\x7d'
  dsimp only
  split
  · rfl
  · rfl
  · split
    · rfl
    · split
      · rfl
      · cases takeField _ <;> rfl

theorem takePart_brace {c : Char} (hc : IsBrace c) (cs : List Char) :
    takePart (c :: c :: cs) = .ok ([c], none, cs) := by
  rcases hc with rfl | rfl <;> rfl

/-- The field without a name, a conversion and a layout. -/
def Field.bare : Field :=
  { name := [], conversion := none, layout := [] }

theorem takePart_bare (cs : List Char) :
    takePart ('\x7b' :: '\x7d' :: cs) = .ok ([], some .bare, cs) :=
  rfl

variable {nested : List Char → Numbering → Except TemplateError (List Char × Numbering)}
  {arg : Argument} {numbering : Numbering}

theorem fillParts_nil (fuel : Nat) :
    fillParts nested arg fuel [] numbering = .ok ([], numbering) := by
  cases fuel <;> rfl

theorem fillPart_cons (c : Char) (fuel : Nat) (part : List Char × Option Field × List Char) :
    fillPart nested arg fuel numbering (c :: part.1, part.2)
      = (fillPart nested arg fuel numbering part).map fun p => (c :: p.1, p.2) := by
  obtain ⟨literal, field, rest⟩ := part
  unfold fillPart
  cases fillField? nested arg numbering field with
  | error e => rfl
  | ok q =>
    show (fillParts nested arg fuel rest q.2 >>= _)
      = (fillParts nested arg fuel rest q.2 >>= _).map _
    cases fillParts nested arg fuel rest q.2 <;> rfl

theorem fillPart_literal (literal rest : List Char) (fuel : Nat) :
    fillPart nested arg fuel numbering (literal, none, rest)
      = (fillParts nested arg fuel rest numbering).map fun p => (literal ++ p.1, p.2) := by
  show (fillParts nested arg fuel rest numbering >>= fun p => .ok (literal ++ [] ++ p.1, p.2)) = _
  rw [List.append_nil]
  cases fillParts nested arg fuel rest numbering <;> rfl

theorem fillParts_of_not_brace {c : Char} (hc : ¬ IsBrace c) (fuel : Nat) (cs : List Char) :
    fillParts nested arg (fuel + 1) (c :: cs) numbering
      = (fillParts nested arg (fuel + 1) cs numbering).map fun p => (c :: p.1, p.2) := by
  rw [fillParts_cons, takePart_cons hc]
  cases cs with
  | nil =>
    rw [fillParts_nil]
    show fillPart nested arg fuel numbering ([c], none, []) = _
    rw [fillPart_literal, fillParts_nil]
    rfl
  | cons d ds =>
    rw [fillParts_cons]
    cases takePart (d :: ds) with
    | error e => rfl
    | ok part => exact fillPart_cons c fuel part

theorem fillParts_of_brace {c : Char} (hc : IsBrace c) (fuel : Nat) (cs : List Char) :
    fillParts nested arg (fuel + 1) (c :: c :: cs) numbering
      = (fillParts nested arg fuel cs numbering).map fun p => (c :: p.1, p.2) := by
  rw [fillParts_cons, takePart_brace hc]
  exact fillPart_literal [c] cs fuel

theorem fillParts_bare {t : String} (ht : arg.plain = .ok t) (fuel : Nat) (cs : List Char) :
    fillParts nested arg (fuel + 1) ('\x7b' :: '\x7d' :: cs) .unknown
      = (fillParts nested arg fuel cs (.automatic 1)).map fun p => (t.toList ++ p.1, p.2) := by
  have hfilled : fillField nested arg .bare .unknown = .ok (t.toList, .automatic 1) := by
    have hlay : arg.lay [] = .ok t.toList := by
      simp [Argument.lay, ht, Except.map]
    show (arg.lay [] >>= fun cs => .ok (cs, Numbering.automatic 1)) = _
    rw [hlay]
    rfl
  rw [fillParts_cons, takePart_bare]
  show (fillField nested arg _ _ >>= _) = _
  rw [hfilled]
  show (fillParts nested arg fuel cs (.automatic 1)
    >>= fun p => .ok ([] ++ t.toList ++ p.1, p.2)) = _
  cases fillParts nested arg fuel cs (.automatic 1) <;> rfl

/-- A text with doubled braces is filled with the text, and then the template goes on. -/
theorem exists_fillParts_escape
    (nested : List Char → Numbering → Except TemplateError (List Char × Numbering)) (arg : Argument)
    (cs rest : List Char) (fuel : Nat) (h : (escape cs ++ rest).length < fuel) :
    ∃ fuel', rest.length < fuel' ∧ ∀ numbering,
      fillParts nested arg fuel (escape cs ++ rest) numbering
        = (fillParts nested arg fuel' rest numbering).map fun p => (cs ++ p.1, p.2) := by
  induction cs generalizing fuel with
  | nil =>
    refine ⟨fuel, h, fun numbering => ?_⟩
    show fillParts nested arg fuel rest numbering = _
    cases fillParts nested arg fuel rest numbering <;> rfl
  | cons c cs ih =>
    obtain ⟨fuel, rfl⟩ : ∃ k, fuel = k + 1 := ⟨fuel - 1, by omega⟩
    -- A doubled brace is a part of its own and takes fuel; any other character joins the literal
    -- text that follows it.
    by_cases hc : IsBrace c
    · simp only [escape, if_pos hc, List.cons_append, List.length_cons] at h ⊢
      obtain ⟨fuel', hfuel, hfill⟩ := ih fuel (by omega)
      refine ⟨fuel', hfuel, fun numbering => ?_⟩
      rw [fillParts_of_brace hc, hfill]
      cases fillParts nested arg fuel' rest numbering <;> rfl
    · simp only [escape, if_neg hc, List.cons_append, List.length_cons] at h ⊢
      obtain ⟨fuel', hfuel, hfill⟩ := ih (fuel + 1) (by omega)
      refine ⟨fuel', hfuel, fun numbering => ?_⟩
      rw [fillParts_of_not_brace hc, hfill]
      cases fillParts nested arg fuel' rest numbering <;> rfl

/-- One plain field between two texts is filled with the argument between these texts. -/
theorem fill_around {t : String} (ht : arg.plain = .ok t) (before after : String) :
    fill (around before after) arg = .ok (before ++ t ++ after) := by
  have hlist : (around before after).toList
      = escape before.toList ++ '\x7b' :: '\x7d' :: (escape after.toList ++ []) := by
    rw [around, String.toList_ofList, List.append_nil]
  have hfill : ∀ cs numbering, fillNested arg 2 cs numbering
      = fillParts (fillNested arg 1) arg (cs.length + 1) cs numbering := fun _ _ => rfl
  unfold fill
  rw [hlist, hfill]
  obtain ⟨fuel, hfuel, hbefore⟩ := exists_fillParts_escape (fillNested arg 1) arg before.toList
    ('\x7b' :: '\x7d' :: (escape after.toList ++ [])) _ (Nat.lt_succ_self _)
  obtain ⟨k, rfl⟩ : ∃ k, fuel = k + 1 := ⟨fuel - 1, by omega⟩
  obtain ⟨k', -, hafter⟩ := exists_fillParts_escape (fillNested arg 1) arg after.toList [] k
    (by simp at hfuel ⊢; omega)
  rw [hbefore, fillParts_bare ht, hafter, fillParts_nil]
  simp [Except.map, ← String.append_assoc]

end Template

end ProposalCheck
