import ProposalCheck.Report.Reporter

/-!
# Hints for the reader

The first message of each rule gets a footer that says where to read more about the rule. Messages
without a slug are passed on as they are.
-/

namespace ProposalCheck.Reporter

variable {σ : Type}

/-- Adds a footer to the first message of each slug. The state holds the slugs that have
been seen. -/
def withHelp (help : String → Except Crash String) (inner : Reporter σ) :
    Reporter (List String × σ) where
  report s m :=
    let forward (seen : List String) (m : Message) :=
      let (t, stop) := inner.report s.2 m
      ((seen, t), stop)
    match m.id with
    | none => forward s.1 m
    | some id =>
      if s.1.contains id then forward s.1 m
      else match help id with
        | .ok text => forward (id :: s.1) (m.addFooter (Level.help.message text))
        | .error c => ((id :: s.1, s.2), some c)

end ProposalCheck.Reporter
