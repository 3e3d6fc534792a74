import ProposalCheck.Proofs.Kinds
import ProposalCheck.Proofs.Prose

/-!
# What the rule about prose reports

`Rule.Prose.messages_eq_offences`: when the rule gets to its end, its messages are about the nodes of
the body that hold prose in which the pattern is found, one about each, in preorder. The rule walks
past code and HTML, but a body has nothing below them (`Document.reached_body`), so that no prose is
missed.
-/

namespace ProposalCheck

namespace Findings

theorem stop_append_eq_none {f g : Findings} :
    (f ++ g).stop = Option.none ↔ f.stop = Option.none ∧ g.stop = Option.none := by
  cases hf : f.stop with
  | none => simp [append_of_none hf]
  | some s => simp [append_of_stop hf, hf]

theorem stop_concat_eq_none {fs : List Findings} :
    (concat fs).stop = Option.none ↔ ∀ f ∈ fs, f.stop = Option.none := by
  induction fs with
  | nil => exact ⟨fun _ => List.forall_mem_nil _, fun _ => rfl⟩
  | cons f rest ih => rw [concat_cons, stop_append_eq_none, ih, List.forall_mem_cons]

/-- Findings that do not stop have their messages one after the other. -/
theorem messages_concat {fs : List Findings} (h : ∀ f ∈ fs, f.stop = Option.none) :
    (concat fs).messages = fs.flatMap messages := by
  induction fs with
  | nil => rfl
  | cons f rest ih =>
    obtain ⟨hf, hrest⟩ := List.forall_mem_cons.1 h
    rw [concat_cons, append_of_none hf, List.flatMap_cons, ih hrest]

end Findings

theorem Markup.Construct.isVerbatim_or_isAtom {c : Construct} (h : c.category ∈ Rule.Prose.skipped) :
    c.isVerbatim = true ∨ c.isAtom = true := by
  cases c <;> simp_all [category, Rule.Prose.skipped, isVerbatim, isAtom]

namespace Document

open Markup (Node Place)

variable {text : String} {origin : Option String} {path : Option Path} {d : Document}

/-- Nothing stands inside code and HTML. -/
theorem children_eq_nil (hparse : parse text origin path = .ok d) {p : Place}
    (hp : p ∈ d.body.places) (hskip : p.construct.category ∈ Rule.Prose.skipped) :
    p.node.children = [] := by
  rw [← Node.map_place_sites] at hp
  obtain ⟨s, hs, rfl⟩ := List.mem_map.1 hp
  exact (Markup.stands_of_read (read_of_parse hparse) s hs).children_eq_nil
    (Markup.Construct.isVerbatim_or_isAtom hskip)

/-- The rule about prose reaches all of a body. -/
theorem reached_body (hparse : parse text origin path = .ok d) :
    Rule.Prose.reached d.body = d.body.places := by
  rw [Rule.Prose.reached, Node.filter_reached_positions, Node.map_toPlace_positions]
  intro p hp hskip
  have hplace : p.toPlace ∈ d.body.places := by
    rw [← Node.map_toPlace_positions]
    exact List.mem_map_of_mem hp
  refine children_eq_nil hparse hplace ?_
  by_contra hnot
  rw [Markup.Callbacks.skips, Rule.Prose.answer, if_neg hnot] at hskip
  cases hskip

end Document

namespace Rule.Prose

open Markup (Construct Place)

/-- A construct holds a text as prose: as its content, its title or its label. -/
inductive Holds : Construct → String → Prop
  | text (s : String) : Holds (.text s) s
  | link (target title : String) : Holds (.link target (some title)) title
  | image (source title alt : String) : Holds (.image source (some title) alt) title
  | footnote (label : String) : Holds (.footnote (some label)) label
  | footnoteRef (label : String) : Holds (.footnoteRef (some label)) label

/-- A construct holds prose that is not empty and in which a pattern is found. -/
def Offends (pattern : Pattern) (x : Construct) : Prop :=
  ∃ s, Holds x s ∧ s ≠ "" ∧ (pattern.find? s.toList.toArray).isSome = true

theorem Holds.prose_eq {x : Construct} {s : String} (h : Holds x s) : prose x = s := by
  cases h <;> rfl

theorem holds_prose {x : Construct} (h : prose x ≠ "") : Holds x (prose x) := by
  cases x with
  | text s => exact .text s
  | link target title =>
    cases title with
    | none => exact absurd rfl h
    | some title => exact .link target title
  | image source title alt =>
    cases title with
    | none => exact absurd rfl h
    | some title => exact .image source title alt
  | footnote label | footnoteRef label =>
    cases label with
    | none => exact absurd rfl h
    | some label => constructor
  | _ => exact absurd rfl h

theorem offence?_isSome_iff {pattern : Pattern} {x : Construct} :
    (offence? pattern x).isSome = true ↔ Offends pattern x := by
  have hsome : (offence? pattern x).isSome = true ↔
      prose x ≠ "" ∧ (pattern.find? (prose x).toList.toArray).isSome = true := by
    rw [offence?]
    by_cases hempty : prose x = ""
    · simp [hempty]
    · simp [hempty]
  rw [hsome]
  constructor
  · rintro ⟨hne, hfound⟩
    exact ⟨_, holds_prose hne, hne, hfound⟩
  · rintro ⟨s, hs, hne, hfound⟩
    obtain rfl := hs.prose_eq
    exact ⟨hne, hfound⟩

instance (pattern : Pattern) (x : Construct) : Decidable (Offends pattern x) :=
  decidable_of_iff _ offence?_isSome_iff

/-- What is said about a node, with an excerpt of its lines. -/
def message (s : Setup) (slug : String) (level : Level) (snippet : Snippet) : Message :=
  (((level.message s.message).withId slug).addSnippet snippet).addFooter
    (Level.info.message ("the pattern in question: \x60" ++ s.pattern ++ "\x60"))

variable {s : Setup} {slug : String} {c : Context} {pattern : Pattern}

/-- About a node without prose in which the pattern is found, there is nothing to say; about any other
one there is one message, unless the rule stops there. -/
theorem messages_judge {p : Place} (h : (judge s slug c pattern p).stop = none) :
    if Offends pattern p.construct then
      ∃ snippet, c.document.excerpt p c.level none = .ok snippet ∧
        (judge s slug c pattern p).messages = [message s slug c.level snippet]
    else (judge s slug c pattern p).messages = [] := by
  rw [judge] at h ⊢
  cases hm : offence? pattern p.construct with
  | none =>
    have hnot : ¬ Offends pattern p.construct := by
      rw [← offence?_isSome_iff, hm]
      exact Bool.false_ne_true
    rw [if_neg hnot]
    rfl
  | some m =>
    have hoffends : Offends pattern p.construct := by
      rw [← offence?_isSome_iff, hm]
      rfl
    rw [if_pos hoffends]
    rw [hm] at h
    dsimp only at h ⊢
    split at h
    · cases h
    · rename_i hgarbled
      rw [if_neg hgarbled]
      rw [report] at h ⊢
      cases hsnippet : c.document.excerpt p c.level none with
      | error e =>
        rw [hsnippet] at h
        cases h
      | ok snippet => exact ⟨snippet, rfl, rfl⟩

theorem flatMap_judge {ps : List Place} (h : ∀ p ∈ ps, (judge s slug c pattern p).stop = none) :
    ∃ snippets, List.Forall₂ (fun p snippet => c.document.excerpt p c.level none = .ok snippet)
        (ps.filter fun p => Offends pattern p.construct) snippets ∧
      (ps.map (judge s slug c pattern)).flatMap Findings.messages =
        snippets.map (message s slug c.level) := by
  induction ps with
  | nil => exact ⟨[], .nil, rfl⟩
  | cons p rest ih =>
    obtain ⟨hp, hrest⟩ := List.forall_mem_cons.1 h
    obtain ⟨snippets, hsnippets, hmessages⟩ := ih hrest
    have hown := messages_judge hp
    rw [List.map_cons, List.flatMap_cons, hmessages]
    by_cases hoffends : Offends pattern p.construct
    · rw [if_pos hoffends] at hown
      obtain ⟨snippet, hsnippet, hmessage⟩ := hown
      refine ⟨snippet :: snippets, ?_, by rw [hmessage]; rfl⟩
      rw [List.filter_cons, if_pos (decide_eq_true hoffends)]
      exact .cons hsnippet hsnippets
    · rw [if_neg hoffends] at hown
      refine ⟨snippets, ?_, by rw [hown]; rfl⟩
      rwa [List.filter_cons, if_neg (by simpa using hoffends)]

/-- When the rule gets to its end, it has one message about each node that holds prose in which the
pattern is found, in preorder, with an excerpt of the node, and no others. -/
theorem messages_eq_offences {text : String} {origin : Option String} {path : Option Path}
    (hparse : Document.parse text origin path = .ok c.document)
    (hread : Pattern.read s.pattern = .ok pattern)
    (hstop : ((Rule.prose s).check slug c).stop = none) :
    ∃ snippets,
      List.Forall₂ (fun p snippet => c.document.excerpt p c.level none = .ok snippet)
        (c.document.body.places.filter fun p => Offends pattern p.construct) snippets ∧
      ((Rule.prose s).check slug c).messages = snippets.map (message s slug c.level) := by
  have hcheck : (Rule.prose s).check slug c =
      .concat (c.document.body.places.map (judge s slug c pattern)) := by
    change check s slug c = _
    rw [check_eq, hread, Document.reached_body hparse]
    rfl
  rw [hcheck] at hstop ⊢
  have hjudge := Findings.stop_concat_eq_none.1 hstop
  rw [Findings.messages_concat hjudge]
  exact flatMap_judge (List.forall_mem_map.1 hjudge)

/-- The rule that is against the letter b. -/
def withoutB : Setup :=
  { pattern := "b", message := "no b" }

/-- A text, the code next to it and a title: there are messages about the text and the
title. -/
theorem messages_eq_offences_title : ∃ c : Context,
    Document.parse "---\na: b\n---\nb \x60b\x60 [x](y 'b')\n" none none = .ok c.document ∧
      ∃ pattern, Pattern.read withoutB.pattern = .ok pattern ∧ ∃ snippets,
        List.Forall₂ (fun p snippet => c.document.excerpt p c.level none = .ok snippet)
          (c.document.body.places.filter fun p => Offends pattern p.construct) snippets ∧
        ((Rule.prose withoutB).check "no-b" c).messages =
          snippets.map (message withoutB "no-b" c.level) ∧
        ((Rule.prose withoutB).check "no-b" c).messages.length = 2 := by
  have hfound : (Document.parse "---\na: b\n---\nb \x60b\x60 [x](y 'b')\n" none none).toOption.map
      (fun d =>
        let f := (Rule.prose withoutB).check "no-b"
          { document := d, cache := .empty, level := .error, settings := {} }
        (f.stop.isNone, f.messages.length)) = some (true, 2) := by decide +kernel
  have hpattern : (Pattern.read withoutB.pattern).isOk = true := by decide +kernel
  cases hparse : Document.parse "---\na: b\n---\nb \x60b\x60 [x](y 'b')\n" none none with
  | error e =>
    rw [hparse] at hfound
    cases hfound
  | ok d =>
    rw [hparse] at hfound
    obtain ⟨hstop, hlength⟩ := Prod.mk.inj (Option.some.inj hfound)
    cases hread : Pattern.read withoutB.pattern with
    | error e =>
      rw [hread] at hpattern
      cases hpattern
    | ok pattern =>
      obtain ⟨snippets, hsnippets, hmessages⟩ := messages_eq_offences
        (c := { document := d, cache := .empty, level := .error, settings := {} })
        hparse hread (Option.isNone_iff_eq_none.1 hstop)
      exact ⟨_, rfl, pattern, rfl, snippets, hsnippets, hmessages, hlength⟩

end Rule.Prose

end ProposalCheck
