import ProposalCheck.Proofs.Walks
import ProposalCheck.Rule.Prose

/-!
# What the rule about prose looks at

The rule goes through a body with a walk that does not look below code and HTML. The walk judges one
node after the other (`Prose.ofWork_walk`), so the rule finds what it finds at the places that are
reached, put together in their order (`Prose.check_eq`).
-/

namespace ProposalCheck

namespace Findings

theorem concat_cons (f : Findings) (fs : List Findings) : concat (f :: fs) = f ++ concat fs :=
  rfl

theorem append_of_stop {f : Findings} {s : Stop} (h : f.stop = some s) (g : Findings) : f ++ g = f := by
  change append f g = f
  rw [append, h]

theorem append_of_none {f : Findings} (h : f.stop = Option.none) (g : Findings) :
    f ++ g = { messages := f.messages ++ g.messages, stop := g.stop } := by
  change append f g = _
  rw [append, h]

theorem run_tell (f : Findings) (messages : List Message) : (tell f).run.run messages =
    (match f.stop with | some s => .error s | Option.none => .ok (), messages ++ f.messages) := by
  cases hf : f.stop with
  | none => simp only [tell, hf]; rfl
  | some s => simp only [tell, hf]; rfl

theorem tell_none : none.tell = (pure () : Work Unit) :=
  ExceptT.ext (StateT.ext fun messages => congrArg (Prod.mk (Except.ok ())) (List.append_nil messages))

theorem tell_append (f g : Findings) : (f ++ g).tell = f.tell >>= fun _ => g.tell := by
  refine ExceptT.ext (StateT.ext fun messages => ?_)
  rw [ExceptT.run_bind, StateT.run_bind, run_tell f]
  cases hf : f.stop with
  | none =>
    rw [append_of_none hf, run_tell, ← List.append_assoc]
    exact (run_tell g _).symm
  | some s =>
    rw [append_of_stop hf, run_tell, hf]
    rfl

theorem forM_tell (fs : List Findings) : fs.forM tell = (concat fs).tell := by
  induction fs with
  | nil => exact tell_none.symm
  | cons f rest ih =>
    rw [List.forM_eq_forM] at ih ⊢
    rw [List.forM_cons, ih, concat_cons, tell_append]

/-- Saying findings one after the other is saying them put together. -/
theorem ofWork_forM_tell (fs : List Findings) : ofWork (fs.forM tell) = concat fs := by
  rw [forM_tell, ofWork, run_tell]
  cases concat fs with
  | mk messages stop =>
  cases stop with
  | none => rfl
  | some s => rfl

end Findings

namespace Rule.Prose

open Markup

variable (s : Setup) (slug : String) (c : Context) (pattern : Pattern)

/-- What the rule answers at a node. -/
def answer (p : Position) : Option Next :=
  some (if p.construct.category ∈ skipped then .past else .below)

/-- The places of a tree that are not below code or HTML. -/
def reached (n : Node) : List Place :=
  (n.positions.filter (Position.reached (Callbacks.skips answer))).map Position.toPlace

/-- A construct holds prose only under a category whose nodes are judged. -/
theorem prose_eq_empty {x : Construct} (h : x.category ∉ judged) : prose x = "" := by
  cases x <;> first | rfl | exact absurd (of_decide_eq_true rfl) h

theorem judge_eq_none {p : Place} (h : p.construct.category ∉ judged) :
    judge s slug c pattern p = .none := by
  rw [judge, offence?, prose_eq_empty h]
  rfl

theorem not_mem_judged : ∀ category ∈ skipped, category ∉ judged := by
  decide

/-- Coming to a node is judging it, whatever its category is. -/
theorem enter_callbacks (p : Position) :
    (callbacks s slug c pattern).enter p.construct.category p =
      (fun _ => answer p) <$> (judge s slug c pattern p.toPlace).tell := by
  by_cases hjudged : p.construct.category ∈ judged
  · have hskip : p.construct.category ∉ skipped := fun h => not_mem_judged _ h hjudged
    simp only [callbacks, answer, hskip, hjudged, if_true, if_false, map_eq_pure_bind]
  · rw [judge_eq_none s slug c pattern hjudged, Findings.tell_none, map_pure]
    by_cases hskip : p.construct.category ∈ skipped
    · simp only [callbacks, answer, hskip, if_true]
    · simp only [callbacks, answer, hskip, hjudged, if_false]

theorem call_entered (p : Position) : (callbacks s slug c pattern).call (.entered p) =
    (judge s slug c pattern p.toPlace).tell := by
  rw [Callbacks.call, enter_callbacks, bind_map_left]
  exact bind_pure _

theorem call_departed (p : Position) :
    (callbacks s slug c pattern).call (.departed p) = pure () :=
  rfl

/-- Of the calls, only those for the nodes that are entered say anything. -/
theorem forM_call (calls : List Call) : calls.forM (callbacks s slug c pattern).call =
    (((calls.filterMap Call.entered?).map Position.toPlace).map
      (judge s slug c pattern)).forM Findings.tell := by
  induction calls with
  | nil => rfl
  | cons x rest ih =>
    rw [List.forM_eq_forM] at ih ⊢
    rw [List.forM_cons, ih]
    cases x with
    | entered p =>
      rw [call_entered]
      rfl
    | departed p =>
      rw [call_departed, pure_bind]
      rfl

/-- The walk judges the places that are reached. -/
theorem walk_eq_forM (n : Node) : n.walk (callbacks s slug c pattern).visitor =
    ((reached n).map (judge s slug c pattern)).forM Findings.tell := by
  have hanswer (p : Position) : (callbacks s slug c pattern).enter p.construct.category p =
      (fun _ => answer p) <$> (callbacks s slug c pattern).enter p.construct.category p := by
    rw [enter_callbacks, Functor.map_map]
  rw [Node.walk, Callbacks.walkIn_eq_forM hanswer, forM_call, reached, ← n.entered_calls]
  rfl

/-- The rule puts together what there is to say about the places that are reached. -/
theorem check_eq : check s slug c =
    .ofExcept ((Pattern.read s.pattern).mapError (stopOf s.pattern)) fun pattern =>
      .concat ((reached c.document.body).map (judge s slug c pattern)) := by
  rw [check]
  refine congrArg _ (funext fun pattern => ?_)
  rw [walk_eq_forM, Findings.ofWork_forM_tell]

theorem mem_places_of_mem_reached {n : Node} {p : Place} (h : p ∈ reached n) : p ∈ n.places := by
  obtain ⟨q, hq, rfl⟩ := List.mem_map.1 h
  rw [← n.map_toPlace_positions]
  exact List.mem_map_of_mem (List.mem_of_mem_filter hq)

end Rule.Prose

end ProposalCheck
