import ProposalCheck.Reference.Basic

/-!
# What references lead to

A `Cache` holds for each reference what was found there: a document, or the reason why there is
none. The first result for a reference stays; `Cache.lookup` tells a reference that failed from one
that was never followed.
-/

namespace ProposalCheck

/-- The results of following references, in the order in which they came. -/
structure Cache (ε α : Type) where
  entries : List (Reference × Except ε α) := []

/-- Why a reference gives no document. -/
inductive LookupError (ε : Type) where
  /-- The reference was never followed. -/
  | undeclared (r : Reference)
  | failed (e : ε)
deriving Repr, Inhabited

namespace LookupError

/-- The wording of the error for a reference that was never followed. -/
def undeclaredText (r : Reference) : String :=
  "no document was requested for \x60" ++ r.describe ++ "\x60"

end LookupError

namespace Cache

variable {ε α : Type}

instance : Inhabited (Cache ε α) := ⟨{}⟩

/-- The cache without results. -/
def empty : Cache ε α := {}

/-- The result for a reference. -/
def get? (c : Cache ε α) (r : Reference) : Option (Except ε α) :=
  (c.entries.find? fun e => e.1 == r).map (·.2)

/-- Whether a reference has been followed. -/
def contains (c : Cache ε α) (r : Reference) : Bool :=
  (c.get? r).isSome

/-- The references that have been followed. -/
def references (c : Cache ε α) : List Reference :=
  c.entries.map (·.1)

/-- Adds a result, unless there is one for the reference. -/
def store (c : Cache ε α) (r : Reference) (x : Except ε α) : Cache ε α :=
  if c.contains r then c else { entries := c.entries ++ [(r, x)] }

/-- The document that a reference leads to. -/
def lookup (c : Cache ε α) (r : Reference) : Except (LookupError ε) α :=
  match c.get? r with
  | none => .error (.undeclared r)
  | some (.error e) => .error (.failed e)
  | some (.ok x) => .ok x

/-- The references that gave no document, with the reasons. -/
def failures (c : Cache ε α) : List (Reference × ε) :=
  c.entries.filterMap fun e =>
    match e.2 with
    | .error x => some (e.1, x)
    | .ok _ => none

@[simp] theorem get?_empty (r : Reference) : (empty : Cache ε α).get? r = none := rfl

theorem get?_store (c : Cache ε α) (r s : Reference) (x : Except ε α) :
    (c.store r x).get? s = if s = r then some ((c.get? r).getD x) else c.get? s := by
  unfold store contains
  by_cases h : (c.get? r).isSome
  · obtain ⟨y, hy⟩ := Option.isSome_iff_exists.1 h
    by_cases hs : s = r
    · subst hs; simp [hy]
    · simp [h, hs]
  · have hn : c.get? r = none := by simpa using h
    simp only [hn, Option.isSome_none, Bool.false_eq_true, ↓reduceIte, Option.getD_none]
    unfold get? at hn ⊢
    rw [Option.map_eq_none_iff] at hn
    by_cases hs : s = r
    · subst hs
      simp [List.find?_append, hn]
    · have hr : ¬ r = s := fun h' => hs h'.symm
      simp [List.find?_append, hs, hr]

end Cache

end ProposalCheck
