import ProposalCheck.Pattern.Matching

/-!
# What the group of a number captures

A part of a pattern that has no group of its own and does not look around leaves the marks of groups
as they are: it hands on the marks it was given, and when it fails it leaves behind at least those
(`Pattern.Node.keeps_run`). What a failed attempt has marked on top of them is forgotten before the
next attempt (`Pattern.Marks.after_of_partOf`), so that every attempt starts alike.

`Pattern.Node.isNumbered` tells whether a pattern is a sequence of such parts with a group of one or
more digits among them. In every match of such a pattern the group has taken part, and what it has
captured is a run of digits (`Pattern.numbered_of_find?`, `Pattern.numbered_of_mem_findAll`).
-/

namespace ProposalCheck

/-- A text is one or more digits. -/
structure Text.Digits (cs : List Char) : Prop where
  ne_nil : cs ≠ []
  isDigit : ∀ c ∈ cs, c.isDigit = true

namespace Pattern

variable {text : Array Char} {test : Char → Bool} {undo : Bool} {Good : Nat → Marks → Prop}
  {m : Marks} {k : Continuation}

/-! ### Marks that are left behind -/

namespace Marks

/-- The marks are the first ones of others. -/
def PartOf (m left : Marks) : Prop :=
  m.positions.toList <+: left.positions.toList

theorem PartOf.refl (m : Marks) : m.PartOf m :=
  List.prefix_refl _

/-- Where an attempt has left the marks before it in place, the next one starts with the same. -/
theorem after_of_partOf {left : Marks} (h : m.PartOf left) (undo : Bool) : m.after left undo = m := by
  cases undo with
  | true => rfl
  | false =>
    have htake : (left.positions.extract 0 m.positions.size).toList = m.positions.toList := by
      rw [Array.toList_extract, List.extract_eq_take_drop, List.drop_zero, Nat.sub_zero]
      exact (List.prefix_iff_eq_take.1 h).symm
    simp only [after, Bool.false_eq_true, if_false]
    rw [Array.toList_inj.1 htake]

end Marks

namespace Outcome

/-- A match is as wanted, and a failure leaves marks in place. -/
def Leads (Good : Nat → Marks → Prop) (m : Marks) : Outcome → Prop
  | matched stop marks => Good stop marks
  | failed left => m.PartOf left

theorem leads_failed (Good : Nat → Marks → Prop) (m : Marks) : (failed m).Leads Good m :=
  Marks.PartOf.refl m

theorem Leads.of_partOf {o : Outcome} {m' : Marks} (h : o.Leads Good m') (hm : m.PartOf m') :
    o.Leads Good m := by
  cases o with
  | matched stop marks => exact h
  | failed left => exact List.IsPrefix.trans hm h

/-- The next attempt may start with the marks of the one that has failed. -/
theorem Leads.orElse {o : Outcome} {next : Marks → Outcome} (h : o.Leads Good m)
    (hnext : ∀ left, m.PartOf left → (next left).Leads Good m) : (o.orElse next).Leads Good m := by
  cases o with
  | matched stop marks => exact h
  | failed left => exact hnext left h

theorem Leads.orElse_failed {o : Outcome} (h : o.Leads Good m) (undo : Bool) :
    (o.orElse fun left => .failed (m.after left undo)).Leads Good m := by
  refine h.orElse fun left hleft => ?_
  rw [Marks.after_of_partOf hleft]
  exact leads_failed Good m

/-- The two outcomes of an attempt of its own. -/
theorem Leads.cases {o : Outcome} (h : o.Leads (fun _ marks => marks = m) m) :
    (∃ q, o = .matched q m) ∨ ∃ left, o = .failed left ∧ m.PartOf left := by
  cases o with
  | matched q marks =>
    obtain rfl : marks = m := h
    exact .inl ⟨q, rfl⟩
  | failed left => exact .inr ⟨left, rfl, h⟩

theorem Leads.ite {c : Prop} [Decidable c] {o o' : Outcome} (h : c → o.Leads Good m)
    (h' : ¬ c → o'.Leads Good m) : (if c then o else o').Leads Good m := by
  split
  · exact h ‹_›
  · exact h' ‹_›

end Outcome

open Outcome (leads_failed)

/-! ### Runs of single characters -/

/-- Each character of a text from one position to another satisfies a test. -/
def AllFrom (text : Array Char) (test : Char → Bool) (start stop : Nat) : Prop :=
  ∀ i, start ≤ i → i < stop → ∃ c, text[i]? = some c ∧ test c = true

theorem AllFrom.nil (text : Array Char) (test : Char → Bool) (p : Nat) : AllFrom text test p p :=
  fun i hstart hstop => by omega

theorem AllFrom.mono {start stop stop' : Nat} (h : AllFrom text test start stop)
    (hstop : stop' ≤ stop) : AllFrom text test start stop' :=
  fun i hi hlt => h i hi (by omega)

theorem AllFrom.append {start mid stop : Nat} (h : AllFrom text test start mid)
    (h' : AllFrom text test mid stop) : AllFrom text test start stop := by
  intro i hstart hstop
  by_cases hmid : i < mid
  · exact h i hstart hmid
  · exact h' i (by omega) hstop

theorem AllFrom.cons {p stop : Nat} {c : Char} (hc : text[p]? = some c) (htest : test c = true)
    (h : AllFrom text test (p + 1) stop) : AllFrom text test p stop := by
  intro i hstart hstop
  by_cases hi : i = p
  · exact ⟨c, by rw [hi, hc], htest⟩
  · exact h i (by omega) hstop

theorem allFrom_runEnd (text : Array Char) (test : Char → Bool) (fuel p : Nat) :
    AllFrom text test p (runEnd text test fuel p) := by
  induction fuel generalizing p with
  | zero => exact .nil text test p
  | succ fuel ih =>
    unfold runEnd
    split
    · rename_i c hc
      by_cases htest : test c = true
      · rw [if_pos htest]
        exact .cons hc htest (ih (p + 1))
      · rw [if_neg htest]
        exact .nil text test p
    · exact .nil text test p

theorem leads_tryDown {least p : Nat}
    (hk : ∀ q, least ≤ q → q ≤ p → (k q m).Leads Good m) :
    (tryDown least undo k p m).Leads Good m := by
  induction p with
  | zero =>
    unfold tryDown
    by_cases hleast : least = 0
    · rw [if_pos (by simp [hleast])]
      exact (hk 0 (by omega) (Nat.le_refl 0)).orElse_failed undo
    · rw [if_neg (by simp [hleast])]
      exact leads_failed Good m
  | succ p ih =>
    unfold tryDown
    by_cases hlt : p + 1 < least
    · rw [if_pos hlt]
      exact leads_failed Good m
    · rw [if_neg hlt]
      refine (hk (p + 1) (by omega) (Nat.le_refl _)).orElse fun left hleft => ?_
      rw [Marks.after_of_partOf hleft]
      exact ih fun q hq hle => hk q hq (by omega)

theorem leads_tryUp {fuel p : Nat}
    (hk : ∀ q, p ≤ q → AllFrom text test p q → (k q m).Leads Good m) :
    (tryUp text test undo k fuel p m).Leads Good m := by
  induction fuel generalizing p with
  | zero => exact (hk p (Nat.le_refl p) (.nil text test p)).orElse_failed undo
  | succ fuel ih =>
    unfold tryUp
    refine (hk p (Nat.le_refl p) (.nil text test p)).orElse fun left hleft => ?_
    simp only [Marks.after_of_partOf hleft]
    split
    · rename_i c hc
      by_cases htest : test c = true
      · rw [if_pos htest]
        exact ih fun q hq hall => hk q (by omega) (.cons hc htest hall)
      · rw [if_neg htest]
        exact leads_failed Good m
    · exact leads_failed Good m

/-- A repeated character goes on behind as many characters as are wanted, each of which satisfies
the test. -/
theorem leads_repeatSingle {greed : Greed} {min p : Nat} {max : Option Nat}
    (hk : ∀ q, p + min ≤ q → AllFrom text test p q → (k q m).Leads Good m) :
    (repeatSingle text greed min max undo test p m k).Leads Good m := by
  unfold repeatSingle
  simp only
  split
  · exact leads_failed Good m
  · cases greed with
    | greedy =>
      exact leads_tryDown fun q hq hle => hk q hq ((allFrom_runEnd text test _ p).mono hle)
    | lazy =>
      have hfirst := allFrom_runEnd text test min p
      refine .ite (fun _ => leads_failed Good m) fun hmin => leads_tryUp fun q hq hall => ?_
      exact hk q hq ((hfirst.mono (by omega)).append hall)
    | possessive =>
      exact .ite (fun _ => leads_failed Good m) fun hmin =>
        hk _ (by omega) (allFrom_runEnd text test _ p)

/-! ### Parts without groups -/

/-- A matcher hands on the marks it is given, and leaves them in place when it fails. -/
def Matcher.Keeps (run : Matcher) : Prop :=
  ∀ (Good : Nat → Marks → Prop) (p : Nat) (m : Marks) (k : Continuation),
    (∀ q, (k q m).Leads Good m) → (run p m k).Leads Good m

namespace Matcher.Keeps

variable {step : Matcher} (hstep : step.Keeps) {min : Nat} {max : Option Nat}

include hstep

theorem leads_matched (p : Nat) (m : Marks) :
    (step p m .matched).Leads (fun _ marks => marks = m) m :=
  hstep _ p m .matched fun _ => rfl

theorem leads_repeatGreedy (hk : ∀ q, (k q m).Leads Good m) (fuel count : Nat) (last : Option Nat)
    (p : Nat) : (repeatGreedy step min max k fuel count last p m).Leads Good m := by
  induction fuel generalizing count last p with
  | zero => exact hk p
  | succ fuel ih =>
    unfold repeatGreedy
    split
    · exact hstep _ p m _ fun q => ih (count + 1) last q
    · split
      · exact (hstep _ p m _ fun q => ih (count + 1) (some p) q).orElse fun _ _ => hk p
      · exact hk p

theorem leads_repeatLazy (hk : ∀ q, (k q m).Leads Good m) (fuel count : Nat) (last : Option Nat)
    (p : Nat) : (repeatLazy step min max undo k fuel count last p m).Leads Good m := by
  induction fuel generalizing count last p with
  | zero => exact hk p
  | succ fuel ih =>
    unfold repeatLazy
    split
    · exact hstep _ p m _ fun q => ih (count + 1) last q
    · refine (hk p).orElse fun left hleft => ?_
      simp only [Marks.after_of_partOf hleft]
      split
      · exact hstep _ p m _ fun q => ih (count + 1) (some p) q
      · exact leads_failed Good m

theorem leads_repeatPossessive (fuel count p : Nat) (m : Marks) :
    (repeatPossessive step min max fuel count p m).Leads (fun _ marks => marks = m) m := by
  induction fuel generalizing count p with
  | zero => rfl
  | succ fuel ih =>
    unfold repeatPossessive
    split
    · rcases (hstep.leads_matched p m).cases with ⟨q, hrun⟩ | ⟨left, hrun, hleft⟩
      · simp only [hrun]
        exact ih (count + 1) q
      · simp only [hrun]
        exact hleft
    · split
      · rcases (hstep.leads_matched p m).cases with ⟨q, hrun⟩ | ⟨left, hrun, -⟩
        · simp only [hrun]
          exact .ite (fun _ => rfl) fun _ => ih (count + 1) q
        · simp only [hrun]
          rfl
      · rfl

end Matcher.Keeps

theorem keeps_takeOne (text : Array Char) (test : Char → Bool) : (takeOne text test).Keeps := by
  intro Good p m k hk
  unfold takeOne
  split
  · split
    · exact hk (p + 1)
    · exact leads_failed Good m
  · exact leads_failed Good m

/-- Whether no part of a pattern is a group with a number or looks around. -/
def Node.isBare : Node → Bool
  | .cat a b => a.isBare && b.isBare
  | .alt a b => a.isBare && b.isBare
  | .repetition _ _ _ body => body.isBare
  | .group none body => body.isBare
  | .group (some _) _ => false
  | .look _ _ _ => false
  | .conditional _ yes no => yes.isBare && no.isBare
  | .atomic body => body.isBare
  | _ => true

/-- A part without groups leaves the marks of groups alone. Each construct hands its continuation the
marks that it got, or those that an attempt has left of them. -/
theorem Node.keeps_run (text : Array Char) (n : Node) (h : n.isBare = true) (undo : Bool) :
    Matcher.Keeps (n.run text undo) := by
  induction n generalizing undo with
  | empty => exact fun Good p m k hk => hk p
  | any lineFeedToo => exact keeps_takeOne text _
  | char f negated code => exact keeps_takeOne text _
  | set f negated items => exact keeps_takeOne text _
  | anchor a =>
    intro Good p m k hk
    simp only [Node.run]
    split
    · exact hk p
    · exact leads_failed Good m
  | cat a b iha ihb =>
    simp only [Node.isBare, Bool.and_eq_true] at h
    intro Good p m k hk
    exact iha h.1 undo Good p m _ fun q => ihb h.2 undo Good q m k hk
  | alt a b iha ihb =>
    simp only [Node.isBare, Bool.and_eq_true] at h
    intro Good p m k hk
    simp only [Node.run]
    refine (iha h.1 undo Good p m k hk).orElse fun left hleft => ?_
    rw [Marks.after_of_partOf hleft]
    exact (ihb h.2 undo Good p m k hk).orElse_failed undo
  | repetition greed min max body ih =>
    intro Good p m k hk
    simp only [Node.run]
    split
    · exact leads_repeatSingle fun q _ _ => hk q
    · cases greed with
      | greedy => exact (ih h true).leads_repeatGreedy hk _ 0 none p
      | lazy => exact (ih h true).leads_repeatLazy hk _ 0 none p
      | possessive =>
        simp only
        rcases ((ih h undo).leads_repeatPossessive _ 0 p m).cases with ⟨q, hrun⟩ | ⟨left, hrun, hleft⟩
        · rw [hrun]
          exact hk q
        · rw [hrun]
          exact hleft
  | group index body ih =>
    cases index with
    | none => exact ih h undo
    | some i => cases h
  | look behind negated body ih => cases h
  | reference f index =>
    intro Good p m k hk
    simp only [Node.run]
    split
    · split
      · exact hk _
      · exact leads_failed Good m
    · exact leads_failed Good m
  | conditional index yes no ihyes ihno =>
    simp only [Node.isBare, Bool.and_eq_true] at h
    intro Good p m k hk
    simp only [Node.run]
    split
    · exact ihyes h.1 undo Good p m k hk
    · exact ihno h.2 undo Good p m k hk
  | atomic body ih =>
    intro Good p m k hk
    simp only [Node.run]
    rcases ((ih h undo).leads_matched p m).cases with ⟨q, hrun⟩ | ⟨left, hrun, hleft⟩
    · rw [hrun]
      exact hk q
    · rw [hrun]
      exact hleft

/-! ### The group of a number -/

/-- The first group of a pattern, of one or more digits. -/
def Node.numeral : Node :=
  .group (some 1) (.repetition .greedy 1 none (.set .exact false [.range 48 57]))

/-- Whether a pattern is a sequence of parts without groups, but for the group of a number. -/
def Node.isNumbered : Node → Bool
  | .cat a b => (a.isBare && b.isNumbered) || (a == .numeral && b.isBare)
  | n => n == .numeral

/-- The marks of a match whose only group has captured digits of the text. -/
def Marks.Numbered (text : Array Char) (m : Marks) : Prop :=
  ∃ start stop, m.positions = #[some start, some stop] ∧ start < stop ∧
    AllFrom text Char.isDigit start stop

theorem setHas_digits (c : Char) : setHas .exact false [.range 48 57] c = c.isDigit := by
  rw [Bool.eq_iff_iff, Char.isDigit_iff_toNat]
  simp [setHas, SetItem.has]

theorem leads_numeral {p : Nat} {k : Continuation}
    (hk : ∀ q m, m.Numbered text → (k q m).Leads Good m) :
    (Node.numeral.run text undo p {} k).Leads Good {} := by
  have htest : setHas .exact false [.range 48 57] = Char.isDigit := funext setHas_digits
  have hbody : (repeatSingle text .greedy 1 none undo Char.isDigit p ⟨#[some p]⟩ fun q m =>
      k q (m.put 1 q)).Leads Good ⟨#[some p]⟩ := by
    apply leads_repeatSingle
    intro q hq hall
    have hnumbered : Marks.Numbered text ⟨#[some p, some q]⟩ := ⟨p, q, rfl, by omega, hall⟩
    exact (hk q _ hnumbered).of_partOf ⟨[some q], rfl⟩
  simp only [Node.numeral, Node.run, Node.single?, htest]
  exact hbody.of_partOf List.nil_prefix

/-- In a sequence the parts in front of the number are run with no marks, and the ones behind it
with those of the number. -/
theorem Node.leads_run (n : Node) (h : n.isNumbered = true) {p : Nat} {k : Continuation}
    (hk : ∀ q m, m.Numbered text → (k q m).Leads Good m) :
    (n.run text undo p {} k).Leads Good {} := by
  induction n generalizing p with
  | cat a b _ ih =>
    simp only [isNumbered, Bool.or_eq_true, Bool.and_eq_true, beq_iff_eq] at h
    rcases h with ⟨ha, hb⟩ | ⟨rfl, hb⟩
    · exact keeps_run text a ha undo Good p {} _ fun q => ih hb
    · exact leads_numeral fun q m hm => keeps_run text b hb undo Good q m k fun r => hk r m hm
  | group index body _ =>
    rw [beq_iff_eq.1 (h : (group index body == numeral) = true)]
    exact leads_numeral hk
  | _ => cases h

/-! ### Matches -/

variable {r : Pattern} {found : Match}

theorem numbered_of_matchAt? (hr : r.node.isNumbered = true) {p : Nat} {nonempty : Bool}
    (h : r.matchAt? text p nonempty = some found) : found.marks.Numbered text := by
  have hleads : (r.node.run text false p {} fun q m =>
      if nonempty && q == p then .failed m else .matched q m).Leads
        (fun _ marks => marks.Numbered text) {} :=
    r.node.leads_run hr fun q m hm => .ite (fun _ => leads_failed _ m) fun _ => hm
  unfold matchAt? at h
  split at h
  · rename_i stop marks hrun
    obtain rfl := Option.some.inj h
    rw [hrun] at hleads
    exact hleads
  · cases h

theorem numbered_of_findFrom (hr : r.node.isNumbered = true) {fuel p : Nat} {nonempty : Bool}
    (h : r.findFrom text nonempty fuel p = some found) : found.marks.Numbered text := by
  have hhere {p : Nat} {nonempty : Bool} (h : (if r.mayStart text[p]? then
      r.matchAt? text p nonempty else none) = some found) : found.marks.Numbered text := by
    split at h
    · exact numbered_of_matchAt? hr h
    · cases h
  induction fuel generalizing p nonempty with
  | zero => exact hhere h
  | succ fuel ih =>
    unfold findFrom at h
    split at h
    · rename_i m hm
      rw [h] at hm
      exact hhere hm
    · exact ih h

/-- What the first match of a pattern with a number has captured. -/
theorem numbered_of_find? (hr : r.node.isNumbered = true) (h : r.find? text = some found) :
    found.marks.Numbered text :=
  numbered_of_findFrom hr h

/-- What each match of a pattern with a number has captured. -/
theorem numbered_of_mem_findAll (hr : r.node.isNumbered = true) (h : found ∈ r.findAll text) :
    found.marks.Numbered text := by
  have hfrom {fuel p : Nat} {nonempty : Bool} (h : found ∈ r.findAllFrom text fuel nonempty p) :
      found.marks.Numbered text := by
    induction fuel generalizing p nonempty with
    | zero => cases h
    | succ fuel ih =>
      unfold findAllFrom at h
      split at h
      · cases h
      · split at h
        · cases h
        · rename_i m hm
          rcases List.mem_cons.1 h with rfl | h
          · exact numbered_of_findFrom hr hm
          · exact ih h
  exact hfrom h

/-- What the first group of a match has captured, nothing if it has taken no part. -/
def Match.capture (cs : List Char) (m : Match) : List Char :=
  match m.group? 1 with
  | some (start, stop) => (cs.drop start).take (stop - start)
  | none => []

theorem digits_of_allFrom {cs : List Char} {start stop : Nat} (hlt : start < stop)
    (h : AllFrom cs.toArray Char.isDigit start stop) :
    Text.Digits ((cs.drop start).take (stop - start)) := by
  refine ⟨fun hnil => ?_, fun c hc => ?_⟩
  · obtain ⟨c, hc, -⟩ := h start (Nat.le_refl start) hlt
    have hstart : start < cs.length := by
      simpa using (Array.getElem?_eq_some_iff.1 hc).1
    rw [List.take_eq_nil_iff, List.drop_eq_nil_iff] at hnil
    omega
  · obtain ⟨i, hi⟩ := List.mem_iff_getElem?.1 hc
    have hlt : i < stop - start := by
      have hlength := (List.getElem?_eq_some_iff.1 hi).1
      rw [List.length_take] at hlength
      omega
    rw [List.getElem?_take_of_lt hlt, List.getElem?_drop] at hi
    obtain ⟨c', hc', hdigit⟩ := h (start + i) (by omega) (by omega)
    rw [List.getElem?_toArray, hi] at hc'
    rwa [Option.some.inj hc']

/-- The group of a number has taken part in the match and has captured digits. -/
theorem Marks.Numbered.exists_capture {cs : List Char} (h : found.marks.Numbered cs.toArray) :
    ∃ start stop, found.group? 1 = some (start, stop) ∧ start < stop ∧
      found.capture cs = (cs.drop start).take (stop - start) ∧ Text.Digits (found.capture cs) := by
  obtain ⟨start, stop, hpositions, hlt, hall⟩ := h
  have hgroup : found.group? 1 = some (start, stop) := by
    rw [Match.group?, Marks.group?, hpositions]
    rfl
  have hcapture : found.capture cs = (cs.drop start).take (stop - start) := by
    rw [Match.capture, hgroup]
  refine ⟨start, stop, hgroup, hlt, hcapture, ?_⟩
  rw [hcapture]
  exact digits_of_allFrom hlt hall

theorem Marks.Numbered.digits_capture {cs : List Char} (h : found.marks.Numbered cs.toArray) :
    Text.Digits (found.capture cs) ∧ found.capture cs <:+: cs := by
  obtain ⟨start, stop, -, -, hcapture, hdigits⟩ := h.exists_capture
  refine ⟨hdigits, ?_⟩
  rw [hcapture]
  exact (List.take_prefix _ _).isInfix.trans (List.drop_suffix _ _).isInfix

end Pattern

end ProposalCheck
