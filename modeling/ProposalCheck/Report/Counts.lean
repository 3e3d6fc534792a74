import ProposalCheck.Report.Reporter

/-!
# Counting messages

A counting reporter tallies messages by their levels before it passes them on.
-/

namespace ProposalCheck

/-- How many messages there were of each level. -/
structure Counts where
  error : Nat := 0
  warning : Nat := 0
  info : Nat := 0
  note : Nat := 0
  help : Nat := 0
deriving DecidableEq, Repr, Inhabited

namespace Counts

/-- The count of a level. -/
def get (c : Counts) : Level → Nat
  | .error => c.error
  | .warning => c.warning
  | .info => c.info
  | .note => c.note
  | .help => c.help

/-- One more message of a level. -/
def add (c : Counts) : Level → Counts
  | .error => { c with error := c.error + 1 }
  | .warning => { c with warning := c.warning + 1 }
  | .info => { c with info := c.info + 1 }
  | .note => { c with note := c.note + 1 }
  | .help => { c with help := c.help + 1 }

theorem get_add (c : Counts) (l k : Level) :
    (c.add l).get k = c.get k + if l = k then 1 else 0 := by
  cases l <;> cases k <;> simp [add, get]

end Counts

namespace Reporter

/-- Counts messages and passes them on. -/
def counting {σ : Type} (inner : Reporter σ) : Reporter (Counts × σ) where
  report s m :=
    let (t, stop) := inner.report s.2 m
    ((s.1.add m.level, t), stop)

end Reporter

end ProposalCheck
