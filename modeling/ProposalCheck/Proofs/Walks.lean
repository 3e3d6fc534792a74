import Mathlib.Data.List.Nodup
import ProposalCheck.Markup.Walk

/-!
# What a walk does

What a visitor sees of a tree depends on the nodes below which it does not look. `Node.calls` lists
the calls that it then gets: each node that is reached is entered in preorder, the ones that are not
skipped are departed in postorder, and the calls nest (`Node.entered_calls`, `Node.departed_calls`,
`Node.brackets_calls`). A walk makes these calls one after the other (`Callbacks.walk_eq_forM`), and so
a callback that raises something leaves a front part of them (`Node.walk_run`).
-/

namespace ProposalCheck.Markup

/-! ### Positions in a tree -/

namespace Position

/-- The nodes of a surrounding, each with its own surrounding. -/
def ancestorsOf : List (Place × Nat) → List Position
  | [] => []
  | (p, _) :: around => ⟨p, around⟩ :: ancestorsOf around

/-- The nodes around a node, the innermost first. -/
def ancestors (p : Position) : List Position :=
  ancestorsOf p.around

/-- Whether none of the nodes around a node is skipped. -/
def reached (skips : Position → Bool) (p : Position) : Bool :=
  p.ancestors.all fun a => !skips a

/-- The numbers of the children that lead to a node, the last one first. -/
def path (p : Position) : List Nat :=
  p.around.map (·.2)

theorem mem_ancestorsOf {p : Position} {k : Nat} {around : List (Place × Nat)}
    (h : p.child k <:+ around) : p ∈ ancestorsOf around := by
  induction around with
  | nil => exact absurd (List.suffix_nil.1 h) (List.cons_ne_nil _ _)
  | cons a rest ih =>
    obtain heq | hrest := List.suffix_cons_iff.1 h
    · obtain ⟨rfl, rfl⟩ := List.cons.inj heq
      exact List.mem_cons_self
    · exact List.mem_cons_of_mem _ (ih hrest)

/-- What is around a child of a node that is reached and not skipped is not skipped. -/
theorem all_ancestorsOf_child {skips : Position → Bool} {p : Position} (k : Nat)
    (h : p.reached skips = true) (hskip : skips p = false) :
    (ancestorsOf (p.child k)).all (fun a => !skips a) = true := by
  have hp : (⟨p.toPlace, p.around⟩ : Position) = p := rfl
  rw [child, ancestorsOf, List.all_cons, hp, hskip]
  exact h

end Position

mutual

/-- The node inside some nodes and everything below it in preorder. -/
def Node.positionsIn (around : List (Place × Nat)) : Node → List Position
  | .node c l cs =>
    let p := (Node.node c l cs).position around
    p :: Node.listPositionsIn p 0 cs

/-- Children of a node and everything below them in preorder; the first one has the number `k`. -/
def Node.listPositionsIn (p : Position) (k : Nat) : List Node → List Position
  | [] => []
  | n :: ns => n.positionsIn (p.child k) ++ Node.listPositionsIn p (k + 1) ns

end

/-- The node and everything below it in preorder. -/
def Node.positions (n : Node) : List Position :=
  n.positionsIn []

mutual

/-- The node inside some nodes and everything below it in postorder. -/
def Node.positionsUpIn (around : List (Place × Nat)) : Node → List Position
  | .node c l cs =>
    let p := (Node.node c l cs).position around
    Node.listPositionsUpIn p 0 cs ++ [p]

/-- Children of a node and everything below them in postorder; the first one has the number `k`. -/
def Node.listPositionsUpIn (p : Position) (k : Nat) : List Node → List Position
  | [] => []
  | n :: ns => n.positionsUpIn (p.child k) ++ Node.listPositionsUpIn p (k + 1) ns

end

/-- The node and everything below it in postorder. -/
def Node.positionsUp (n : Node) : List Position :=
  n.positionsUpIn []

namespace Node

@[simp] theorem around_position (around : List (Place × Nat)) (n : Node) :
    (n.position around).around = around :=
  rfl

mutual

theorem map_toPlace_positionsIn (around : List (Place × Nat)) (n : Node) :
    (n.positionsIn around).map Position.toPlace = n.placesIn (around.head?.bind (·.1.lines)) := by
  match n with
  | .node c l cs =>
    rw [positionsIn, placesIn, List.map_cons, map_toPlace_listPositionsIn]
    rfl

theorem map_toPlace_listPositionsIn (p : Position) (k : Nat) (ns : List Node) :
    (listPositionsIn p k ns).map Position.toPlace = listPlacesIn p.lines ns := by
  match ns with
  | [] => rfl
  | n :: rest =>
    rw [listPositionsIn, listPlacesIn, List.map_append, map_toPlace_positionsIn,
      map_toPlace_listPositionsIn]
    rfl

end

/-- The positions of a tree are those of its places. -/
theorem map_toPlace_positions (n : Node) : n.positions.map Position.toPlace = n.places :=
  map_toPlace_positionsIn [] n

mutual

theorem suffix_of_mem_positionsIn {around : List (Place × Nat)} (n : Node) :
    ∀ q ∈ n.positionsIn around, around <:+ q.around := by
  match n with
  | .node c l cs =>
    rw [positionsIn]
    refine List.forall_mem_cons.2 ⟨List.suffix_rfl, fun q hq => ?_⟩
    obtain ⟨k, -, hk⟩ := child_suffix_of_mem cs q hq
    exact (List.suffix_cons _ _).trans hk

theorem child_suffix_of_mem {p : Position} {k : Nat} (ns : List Node) :
    ∀ q ∈ listPositionsIn p k ns, ∃ j ≥ k, p.child j <:+ q.around := by
  match ns with
  | [] => exact fun q hq => absurd hq List.not_mem_nil
  | n :: rest =>
    rw [listPositionsIn]
    refine List.forall_mem_append.2 ⟨fun q hq => ⟨k, Nat.le_refl k, suffix_of_mem_positionsIn n q hq⟩, ?_⟩
    intro q hq
    obtain ⟨j, hj, hsuffix⟩ := child_suffix_of_mem rest q hq
    exact ⟨j, by omega, hsuffix⟩

end

/-- Below a node, the node is an ancestor. -/
theorem mem_ancestors_of_mem {p : Position} {k : Nat} {ns : List Node} :
    ∀ q ∈ listPositionsIn p k ns, p ∈ q.ancestors := by
  intro q hq
  obtain ⟨j, -, hsuffix⟩ := child_suffix_of_mem ns q hq
  exact Position.mem_ancestorsOf hsuffix

mutual

theorem perm_positionsUpIn (around : List (Place × Nat)) (n : Node) :
    (n.positionsUpIn around).Perm (n.positionsIn around) := by
  match n with
  | .node c l cs =>
    rw [positionsUpIn, positionsIn]
    exact (List.perm_append_singleton _ _).trans ((perm_listPositionsUpIn _ 0 cs).cons _)

theorem perm_listPositionsUpIn (p : Position) (k : Nat) (ns : List Node) :
    (listPositionsUpIn p k ns).Perm (listPositionsIn p k ns) := by
  match ns with
  | [] => exact .refl _
  | n :: rest =>
    rw [listPositionsUpIn, listPositionsIn]
    exact (perm_positionsUpIn _ n).append (perm_listPositionsUpIn p (k + 1) rest)

end

/-- Paths into different children of a node differ. -/
theorem path_ne {p q r : Position} {i j : Nat} (hij : i < j) (hq : p.child i <:+ q.around)
    (hr : p.child j <:+ r.around) : q.path ≠ r.path := by
  intro heq
  have hi : i :: p.path <:+ q.path := hq.map Prod.snd
  have hj : j :: p.path <:+ r.path := hr.map Prod.snd
  rw [← heq] at hj
  have hsame : i :: p.path = j :: p.path :=
    (List.suffix_of_suffix_length_le hi hj (Nat.le_refl _)).eq_of_length rfl
  exact absurd (List.cons.inj hsame).1 (Nat.ne_of_lt hij)

mutual

theorem nodup_positionsIn (around : List (Place × Nat)) (n : Node) :
    ((n.positionsIn around).map Position.path).Nodup := by
  match n with
  | .node c l cs =>
    rw [positionsIn, List.map_cons, List.nodup_cons]
    refine ⟨fun hmem => ?_, nodup_listPositionsIn _ 0 cs⟩
    obtain ⟨q, hq, hpath⟩ := List.mem_map.1 hmem
    obtain ⟨j, -, hsuffix⟩ := child_suffix_of_mem cs q hq
    have hlength : (Position.child _ j).length ≤ q.around.length := hsuffix.length_le
    have hsame : q.around.length = around.length := by
      simpa [Position.path] using congrArg List.length hpath
    simp [Position.child] at hlength
    omega

theorem nodup_listPositionsIn (p : Position) (k : Nat) (ns : List Node) :
    ((listPositionsIn p k ns).map Position.path).Nodup := by
  match ns with
  | [] => exact List.nodup_nil
  | n :: rest =>
    rw [listPositionsIn, List.map_append, List.nodup_append]
    refine ⟨nodup_positionsIn _ n, nodup_listPositionsIn p (k + 1) rest, ?_⟩
    intro a ha b hb
    obtain ⟨q, hq, rfl⟩ := List.mem_map.1 ha
    obtain ⟨r, hr, rfl⟩ := List.mem_map.1 hb
    obtain ⟨j, hj, hsuffix⟩ := child_suffix_of_mem rest r hr
    exact path_ne (by omega) (suffix_of_mem_positionsIn n q hq) hsuffix

end

/-- No two nodes of a tree are in the same position. -/
theorem nodup_positions (n : Node) : n.positions.Nodup :=
  (nodup_positionsIn [] n).of_map _

end Node

/-! ### The calls of a visitor -/

/-- A call that a visitor gets. -/
inductive Call where
  | entered (p : Position)
  | departed (p : Position)
deriving Repr

namespace Call

/-- The node that is entered. -/
def entered? : Call → Option Position
  | entered p => some p
  | departed _ => none

/-- The node that is departed. -/
def departed? : Call → Option Position
  | entered _ => none
  | departed p => some p

end Call

mutual

/-- The calls for a node inside some nodes and what is below it. -/
def Node.callsIn (skips : Position → Bool) (around : List (Place × Nat)) : Node → List Call
  | .node c l cs =>
    let p := (Node.node c l cs).position around
    .entered p :: if skips p then [] else Node.listCallsIn skips p 0 cs ++ [.departed p]

/-- The calls for children of a node and what is below them; the first one has the number `k`. -/
def Node.listCallsIn (skips : Position → Bool) (p : Position) (k : Nat) : List Node → List Call
  | [] => []
  | n :: ns => n.callsIn skips (p.child k) ++ Node.listCallsIn skips p (k + 1) ns

end

/-- The calls that a visitor gets in a tree. -/
def Node.calls (skips : Position → Bool) (n : Node) : List Call :=
  n.callsIn skips []

/-- A visitor that has entered the nodes `opened` and not yet departed them, the latest first, gets
calls that nest: it departs the latest of the nodes that it has entered, that are not skipped and
that are still open, and in the end none is. -/
inductive Brackets (skips : Position → Bool) : List Position → List Call → Prop
  | closed : Brackets skips [] []
  | skipped {opened : List Position} {calls : List Call} {p : Position} (hskip : skips p = true)
      (rest : Brackets skips opened calls) : Brackets skips opened (.entered p :: calls)
  | entered {opened : List Position} {calls : List Call} {p : Position} (hskip : skips p = false)
      (rest : Brackets skips (p :: opened) calls) : Brackets skips opened (.entered p :: calls)
  | departed {opened : List Position} {calls : List Call} {p : Position}
      (rest : Brackets skips opened calls) : Brackets skips (p :: opened) (.departed p :: calls)

namespace Node

variable {skips : Position → Bool}

/-- Nothing below a node that is skipped is reached. -/
theorem filter_reached_below {p : Position} (hskip : skips p = true) (k : Nat) (ns : List Node) :
    (listPositionsIn p k ns).filter (Position.reached skips) = [] := by
  refine List.filter_eq_nil_iff.2 fun q hq hreached => ?_
  have hp := List.all_eq_true.1 hreached p (mem_ancestors_of_mem q hq)
  rw [hskip] at hp
  cases hp

mutual

theorem entered_callsIn {around : List (Place × Nat)} (n : Node)
    (h : (Position.ancestorsOf around).all (fun a => !skips a) = true) :
    (n.callsIn skips around).filterMap Call.entered? =
      (n.positionsIn around).filter (Position.reached skips) := by
  match n with
  | .node c l cs =>
    rw [callsIn, positionsIn]
    set p := (node c l cs).position around
    have hp : p.reached skips = true := h
    have hentered : Call.entered? (.entered p) = some p := rfl
    rw [List.filterMap_cons_some hentered, List.filter_cons_of_pos hp]
    cases hskip : skips p with
    | true => rw [if_pos rfl, filter_reached_below hskip]; rfl
    | false =>
      rw [if_neg Bool.false_ne_true, List.filterMap_append, entered_listCallsIn hskip hp]
      exact congrArg (p :: ·) (List.append_nil _)

theorem entered_listCallsIn {p : Position} (hskip : skips p = false) (hp : p.reached skips = true)
    {k : Nat} (ns : List Node) :
    (listCallsIn skips p k ns).filterMap Call.entered? =
      (listPositionsIn p k ns).filter (Position.reached skips) := by
  match ns with
  | [] => rfl
  | n :: rest =>
    rw [listCallsIn, listPositionsIn, List.filterMap_append, List.filter_append,
      entered_callsIn n (Position.all_ancestorsOf_child k hp hskip), entered_listCallsIn hskip hp]

end

mutual

theorem filter_reached_positionsIn {around : List (Place × Nat)} (n : Node)
    (haround : (Position.ancestorsOf around).all (fun a => !skips a) = true)
    (h : ∀ p ∈ n.positionsIn around, skips p = true → p.node.children = []) :
    (n.positionsIn around).filter (Position.reached skips) = n.positionsIn around := by
  match n with
  | .node c l cs =>
    rw [positionsIn] at h ⊢
    set p := (node c l cs).position around
    have hp : p.reached skips = true := haround
    obtain ⟨hown, hbelow⟩ := List.forall_mem_cons.1 h
    rw [List.filter_cons_of_pos hp]
    cases hskip : skips p with
    | true =>
      obtain rfl : cs = [] := hown hskip
      rfl
    | false => rw [filter_reached_listPositionsIn hskip hp cs hbelow]

theorem filter_reached_listPositionsIn {p : Position} (hskip : skips p = false)
    (hp : p.reached skips = true) {k : Nat} (ns : List Node)
    (h : ∀ q ∈ listPositionsIn p k ns, skips q = true → q.node.children = []) :
    (listPositionsIn p k ns).filter (Position.reached skips) = listPositionsIn p k ns := by
  match ns with
  | [] => rfl
  | n :: rest =>
    rw [listPositionsIn] at h ⊢
    obtain ⟨hn, hrest⟩ := List.forall_mem_append.1 h
    rw [List.filter_append, filter_reached_listPositionsIn hskip hp rest hrest,
      filter_reached_positionsIn n (Position.all_ancestorsOf_child k hp hskip) hn]

end

/-- If nothing is below the nodes that are skipped, all nodes are reached. -/
theorem filter_reached_positions (n : Node)
    (h : ∀ p ∈ n.positions, skips p = true → p.node.children = []) :
    n.positions.filter (Position.reached skips) = n.positions :=
  filter_reached_positionsIn n rfl h

/-- The nodes that are entered are those that are reached, in preorder. -/
theorem entered_calls (n : Node) :
    (n.calls skips).filterMap Call.entered? = n.positions.filter (Position.reached skips) :=
  entered_callsIn n rfl

mutual

theorem departed_callsIn {around : List (Place × Nat)} (n : Node)
    (h : (Position.ancestorsOf around).all (fun a => !skips a) = true) :
    (n.callsIn skips around).filterMap Call.departed? =
      (n.positionsUpIn around).filter fun p => p.reached skips && !skips p := by
  match n with
  | .node c l cs =>
    rw [callsIn, positionsUpIn]
    set p := (node c l cs).position around
    have hp : p.reached skips = true := h
    rw [List.filterMap_cons_none rfl, List.filter_append]
    cases hskip : skips p with
    | true =>
      have hnone : (listPositionsUpIn p 0 cs).filter (fun q => q.reached skips && !skips q) = [] := by
        refine List.filter_eq_nil_iff.2 fun q hq hq' => ?_
        have hbelow : q ∈ (listPositionsIn p 0 cs).filter (Position.reached skips) :=
          List.mem_filter.2
            ⟨(perm_listPositionsUpIn p 0 cs).mem_iff.1 hq, (Bool.and_eq_true_iff.1 hq').1⟩
        rw [filter_reached_below hskip] at hbelow
        cases hbelow
      rw [if_pos rfl, hnone, List.filter_singleton, hp, hskip]
      rfl
    | false =>
      rw [if_neg Bool.false_ne_true, List.filterMap_append, departed_listCallsIn hskip hp,
        List.filter_singleton, hp, hskip]
      rfl

theorem departed_listCallsIn {p : Position} (hskip : skips p = false) (hp : p.reached skips = true)
    {k : Nat} (ns : List Node) :
    (listCallsIn skips p k ns).filterMap Call.departed? =
      (listPositionsUpIn p k ns).filter fun q => q.reached skips && !skips q := by
  match ns with
  | [] => rfl
  | n :: rest =>
    rw [listCallsIn, listPositionsUpIn, List.filterMap_append, List.filter_append,
      departed_callsIn n (Position.all_ancestorsOf_child k hp hskip), departed_listCallsIn hskip hp]

end

/-- The nodes that are departed are those that are reached and not skipped, in postorder. -/
theorem departed_calls (n : Node) : (n.calls skips).filterMap Call.departed? =
    n.positionsUp.filter fun p => p.reached skips && !skips p :=
  departed_callsIn n rfl

mutual

theorem brackets_callsIn {around : List (Place × Nat)} (n : Node) {opened : List Position}
    {rest : List Call} (h : Brackets skips opened rest) :
    Brackets skips opened (n.callsIn skips around ++ rest) := by
  match n with
  | .node c l cs =>
    rw [callsIn, List.cons_append]
    cases hskip : skips ((node c l cs).position around) with
    | true => rw [if_pos rfl]; exact .skipped hskip h
    | false =>
      rw [if_neg Bool.false_ne_true, List.append_assoc]
      exact .entered hskip (brackets_listCallsIn cs (.departed h))

theorem brackets_listCallsIn {p : Position} {k : Nat} (ns : List Node) {opened : List Position}
    {rest : List Call} (h : Brackets skips opened rest) :
    Brackets skips opened (listCallsIn skips p k ns ++ rest) := by
  match ns with
  | [] => exact h
  | n :: others =>
    rw [listCallsIn, List.append_assoc]
    exact brackets_callsIn n (brackets_listCallsIn others h)

end

/-- The calls nest, and every node that is entered and not skipped is departed. -/
theorem brackets_calls (n : Node) : Brackets skips [] (n.calls skips) := by
  have h : Brackets skips [] (n.callsIn skips [] ++ []) := brackets_callsIn n .closed
  rwa [List.append_nil] at h

end Node

/-! ### What a walk calls -/

namespace Callbacks

/-- Makes a call. -/
def call {m : Type → Type} [Monad m] (c : Callbacks m) : Call → m Unit
  | .entered p => do
    let _ ← c.enter p.construct.category p
  | .departed p => c.depart p.construct.category p

/-- The nodes below which a walk does not go on: an answer that is left out does not skip. -/
def skips (answer : Position → Option Next) (p : Position) : Bool :=
  answer p == some .past

theorem getD_answer (answer : Position → Option Next) (p : Position) :
    (answer p).getD .below = if skips answer p then .past else .below := by
  rw [skips]
  match answer p with
  | none => rfl
  | some .below => rfl
  | some .past => rfl

section

variable {m : Type → Type} [Monad m] [LawfulMonad m] {c : Callbacks m}
  {answer : Position → Option Next}

/-- At a node, a visitor gets the answer that is known beforehand. -/
theorem enter_visitor_bind {α : Type} {p : Position}
    (h : c.enter p.construct.category p = (fun _ => answer p) <$> c.enter p.construct.category p)
    (next : Next → m α) :
    c.visitor.enter p >>= next = c.call (.entered p) >>= fun _ => next ((answer p).getD .below) := by
  have hanswer : c.visitor.enter p =
      (fun _ => (answer p).getD .below) <$> c.enter p.construct.category p := by
    change (c.enter _ p >>= fun a => pure (a.getD .below)) = _
    conv_lhs => rw [h]
    simp only [bind_pure_comp, Functor.map_map]
  rw [hanswer, call]
  simp only [bind_map_left, bind_pure_comp]

mutual

theorem walkIn_eq_forM
    (h : ∀ p, c.enter p.construct.category p =
      (fun _ => answer p) <$> c.enter p.construct.category p)
    {around : List (Place × Nat)} (n : Node) :
    n.walkIn c.visitor around = (n.callsIn (skips answer) around).forM c.call := by
  match n with
  | .node cn l cs =>
    rw [Node.walkIn, Node.callsIn, List.forM_eq_forM, List.forM_cons]
    set p := (Node.node cn l cs).position around
    rw [enter_visitor_bind (h p)]
    refine congrArg _ (funext fun _ => ?_)
    rw [getD_answer]
    cases hskip : skips answer p with
    | true => rfl
    | false =>
      rw [if_neg Bool.false_ne_true, if_neg Bool.false_ne_true, List.forM_append,
        List.forM_cons, List.forM_nil, bind_pure_unit, ← List.forM_eq_forM, ← walkListIn_eq_forM h]
      rfl

theorem walkListIn_eq_forM
    (h : ∀ p, c.enter p.construct.category p =
      (fun _ => answer p) <$> c.enter p.construct.category p)
    {p : Position} {k : Nat} (ns : List Node) :
    Node.walkListIn c.visitor p k ns = (Node.listCallsIn (skips answer) p k ns).forM c.call := by
  match ns with
  | [] => rfl
  | n :: rest =>
    rw [Node.walkListIn, Node.listCallsIn, List.forM_eq_forM, List.forM_append,
      walkIn_eq_forM h, walkListIn_eq_forM h]
    rfl

end

end

/-! ### Callbacks with a state that may raise something -/

section

variable {ε σ : Type} {c : Callbacks (ExceptT ε (StateM σ))} {answer : Position → Option Next}

/-- When entering a node returns, then with the answer for the node, whatever the state. -/
def Answers (c : Callbacks (ExceptT ε (StateM σ))) (answer : Position → Option Next) : Prop :=
  ∀ p s a t, (c.enter p.construct.category p).run.run s = (.ok a, t) → a = answer p

/-- Notes a call in front of the state and makes it. -/
def noting {α : Type} (x : Call) (make : ExceptT ε (StateM σ) α) :
    ExceptT ε (StateM (List Call × σ)) α :=
  ExceptT.mk fun made =>
    let (r, t) := make.run.run made.2
    (r, (made.1 ++ [x], t))

/-- The callbacks that do the same and note all calls. -/
def recording (c : Callbacks (ExceptT ε (StateM σ))) :
    Callbacks (ExceptT ε (StateM (List Call × σ))) where
  enter k p := noting (.entered p) (c.enter k p)
  depart k p := noting (.departed p) (c.depart k p)

theorem Answers.enter_eq (h : c.Answers answer) (p : Position) :
    c.enter p.construct.category p = (fun _ => answer p) <$> c.enter p.construct.category p := by
  refine ExceptT.ext (StateT.ext fun s => ?_)
  have hs := h p s
  rw [ExceptT.run_map, StateT.run_map]
  generalize (c.enter p.construct.category p).run.run s = x at hs
  obtain ⟨r, t⟩ := x
  cases r with
  | error e => rfl
  | ok a =>
    rw [hs a t rfl]
    rfl

theorem run_noting {α : Type} (x : Call) (make : ExceptT ε (StateM σ) α) (before : List Call) (s : σ) :
    (noting x make).run.run (before, s) =
      ((make.run.run s).1, before ++ [x], (make.run.run s).2) :=
  rfl

/-- A call that is noted does what the call does. -/
theorem run_call_recording (c : Callbacks (ExceptT ε (StateM σ))) (x : Call) (before : List Call)
    (s : σ) : (c.recording.call x).run.run (before, s) =
      (((c.call x).run.run s).1, before ++ [x], ((c.call x).run.run s).2) := by
  cases x with
  | entered p =>
    simp only [call, ExceptT.run_bind, StateT.run_bind, recording, run_noting]
    obtain ⟨r, t⟩ := (c.enter p.construct.category p).run.run s
    cases r with
    | error e => rfl
    | ok a => rfl
  | departed p => rfl

theorem Answers.recording (h : c.Answers answer) : c.recording.Answers answer := by
  intro p s a t hrun
  have hpair := Prod.ext_iff.1 ((run_noting _ _ _ _).symm.trans hrun)
  exact h p s.2 a _ (Prod.ext hpair.1 rfl)

/-- Making calls one after the other from the state `s`: those of `made` are made, with the result `r`
and the state `t` in the end. The first one that raises something is the last one. -/
inductive Making (c : Callbacks (ExceptT ε (StateM σ))) :
    List Call → σ → List Call → Except ε Unit → σ → Prop
  | done (s : σ) : Making c [] s [] (.ok ()) s
  | raised {x : Call} {rest : List Call} {s t : σ} {e : ε}
      (hx : (c.call x).run.run s = (.error e, t)) : Making c (x :: rest) s [x] (.error e) t
  | next {x : Call} {rest made : List Call} {s t u : σ} {r : Except ε Unit}
      (hx : (c.call x).run.run s = (.ok (), t)) (hrest : Making c rest t made r u) :
      Making c (x :: rest) s (x :: made) r u

theorem making_forM (calls : List Call) (s : σ) (before : List Call) :
    ∃ made r t, Making c calls s made r t ∧ (calls.forM c.call).run.run s = (r, t) ∧
      (calls.forM c.recording.call).run.run (before, s) = (r, before ++ made, t) := by
  induction calls generalizing s before with
  | nil =>
    refine ⟨[], .ok (), s, .done s, rfl, ?_⟩
    rw [List.append_nil]
    rfl
  | cons x rest ih =>
    simp only [List.forM_eq_forM, List.forM_cons]
    rw [ExceptT.run_bind, ExceptT.run_bind, StateT.run_bind, StateT.run_bind, run_call_recording]
    cases hx : (c.call x).run.run s with
    | mk r t =>
    cases r with
    | error e => exact ⟨[x], .error e, t, .raised hx, rfl, rfl⟩
    | ok a =>
      obtain ⟨made, r, u, hmade, hplain, hrecorded⟩ := ih t (before ++ [x])
      refine ⟨x :: made, r, u, .next hx hmade, hplain, ?_⟩
      rw [List.append_assoc] at hrecorded
      exact hrecorded

/-- If no call raises anything, all are made, and else those up to the first one that does. -/
theorem Making.ends {calls made : List Call} {s t : σ} {r : Except ε Unit}
    (h : Making c calls s made r t) :
    (r = .ok () ∧ made = calls) ∨
      ∃ e before x after u, r = .error e ∧ calls = before ++ x :: after ∧ made = before ++ [x] ∧
        (before.forM c.call).run.run s = (.ok (), u) ∧ (c.call x).run.run u = (.error e, t) := by
  induction h with
  | done s => exact .inl ⟨rfl, rfl⟩
  | @raised x rest s t e hx => exact .inr ⟨e, [], x, rest, s, rfl, rfl, rfl, rfl, hx⟩
  | @next y rest made s t u r hy _ ih =>
    obtain ⟨hr, hmade⟩ | ⟨e, before, x, after, v, hr, hcalls, hmade, hbefore, hx⟩ := ih
    · exact .inl ⟨hr, congrArg (y :: ·) hmade⟩
    · refine .inr ⟨e, y :: before, x, after, v, hr, congrArg (y :: ·) hcalls,
        congrArg (y :: ·) hmade, ?_, hx⟩
      rw [List.forM_eq_forM, List.forM_cons, ExceptT.run_bind, StateT.run_bind, hy]
      exact hbefore

end

end Callbacks

/-- What a walk over a tree does when the answers for its nodes are given. -/
structure Node.Traversal {ε σ : Type} (n : Node) (c : Callbacks (ExceptT ε (StateM σ)))
    (answer : Position → Option Next) : Prop where
  /-- The nodes that are entered are those inside no skipped node, in preorder. -/
  entered : (n.calls (Callbacks.skips answer)).filterMap Call.entered? =
    n.positions.filter (Position.reached (Callbacks.skips answer))
  /-- The nodes that are departed are those of them that are not skipped, in postorder. -/
  departed : (n.calls (Callbacks.skips answer)).filterMap Call.departed? =
    n.positionsUp.filter fun p =>
      p.reached (Callbacks.skips answer) && !Callbacks.skips answer p
  brackets : Brackets (Callbacks.skips answer) [] (n.calls (Callbacks.skips answer))
  /-- The walk makes these calls. -/
  walk : n.walk c.visitor = (n.calls (Callbacks.skips answer)).forM c.call
  /-- Noting the calls changes nothing else. All of them are made if none raises anything; else what
  is raised leaves the walk, and those up to the one that raises it are made. -/
  run (s : σ) : ∃ made r t, (n.walk c.visitor).run.run s = (r, t) ∧
    (n.walk c.recording.visitor).run.run ([], s) = (r, made, t) ∧
    ((r = .ok () ∧ made = n.calls (Callbacks.skips answer)) ∨
      ∃ e before x after u, r = .error e ∧
        n.calls (Callbacks.skips answer) = before ++ x :: after ∧ made = before ++ [x] ∧
        (before.forM c.call).run.run s = (.ok (), u) ∧ (c.call x).run.run u = (.error e, t))

/-- Whatever callbacks do with their state and whatever they raise: if the answers are given by the
nodes, a walk is a depth-first traversal of the nodes that are not inside a skipped one. -/
theorem Node.walk_traversal {ε σ : Type} (n : Node) {c : Callbacks (ExceptT ε (StateM σ))}
    {answer : Position → Option Next} (h : c.Answers answer) : n.Traversal c answer where
  entered := n.entered_calls
  departed := n.departed_calls
  brackets := n.brackets_calls
  walk := Callbacks.walkIn_eq_forM h.enter_eq n
  run s := by
    obtain ⟨made, r, t, hmade, hplain, hrecorded⟩ :=
      Callbacks.making_forM (c := c) (n.calls (Callbacks.skips answer)) s []
    have hwalk : n.walk c.visitor = (n.calls (Callbacks.skips answer)).forM c.call :=
      Callbacks.walkIn_eq_forM h.enter_eq n
    have hnoting : n.walk c.recording.visitor =
        (n.calls (Callbacks.skips answer)).forM c.recording.call :=
      Callbacks.walkIn_eq_forM h.recording.enter_eq n
    exact ⟨made, r, t, hwalk ▸ hplain, hnoting ▸ hrecorded, hmade.ends⟩

/-- Callbacks that count the nodes they come to, do not look below links and raise an error on leaving
a paragraph. -/
def Callbacks.counting : Callbacks (ExceptT String (StateM Nat)) where
  enter category _ := do
    modify (· + 1)
    return if category == "link" then some .past else none
  depart category _ := if category == "paragraph" then throw "a paragraph ends" else pure ()

theorem Node.walk_traversal_counting :
    Callbacks.counting.Answers (fun p => if p.construct.category == "link" then some .past else none) ∧
      (Node.node .paragraph none [.node (.link "/" none) none [.node (.text "a") none []],
        .node .softBreak none []]).Traversal Callbacks.counting
        (fun p => if p.construct.category == "link" then some .past else none) :=
  have h : Callbacks.counting.Answers
      (fun p => if p.construct.category == "link" then some .past else none) :=
    fun _ _ _ _ hrun => (Except.ok.inj (Prod.ext_iff.1 hrun).1).symm
  ⟨h, Node.walk_traversal _ h⟩

end ProposalCheck.Markup
