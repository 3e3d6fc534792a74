import ProposalCheck.Report.Delivery

/-!
# A linter in use

A linter is set up and run, changed and run again. A `Session` is a linter together with what its
runs have left behind: what its reporter has taken note of, and the rules that stopped in the last
run. `Session.respond` says what comes of a request; one that is refused changes nothing.
-/

namespace ProposalCheck

/-- What can be asked of a linter in use. -/
inductive Request where
  /-- A rule under a slug, at a level of its own or else at the level of the document. -/
  | register (slug : String) (rule : Rule) (level : Option Level)
  /-- No rule under a slug from now on. -/
  | allow (slug : String)
  | clear
  | modify (m : Modifier)
  /-- Another reader. -/
  | readBy (reader : Reader)
  | add (s : Source)
  | run

/-- What comes of a request. -/
inductive Response (σ : Type) where
  | done
  | refused (e : RegistryError)
  | ran (d : Delivery σ)

/-- A linter in use. -/
structure Session (σ : Type) where
  linter : Linter
  /-- What the reporter has taken note of. -/
  reported : σ
  /-- The rules that stopped in the last run. -/
  failures : List RuleFailure := []

namespace Session

variable {σ : Type}

/-- A linter that has no rules yet and nothing to check. -/
def start (modifiers : List Modifier) (reader : Reader) (proposalFormat : String) (reported : σ) :
    Session σ :=
  { linter := { modifiers, reader, proposalFormat }, reported }

/-- A run of the linter, and the session after it, however the run ends. -/
def run (r : Reporter σ) (s : Session σ) : Delivery σ × Session σ :=
  let d := r.deliver s.reported s.linter.run
  (d, { s with reported := d.state, failures := d.failuresAfter s.failures })

/-- The session after its linter has been changed. -/
def change (s : Session σ) : Except RegistryError Linter → Response σ × Session σ
  | .ok l => (.done, { s with linter := l })
  | .error e => (.refused e, s)

/-- What comes of a request, and the session after it. -/
def respond (r : Reporter σ) (s : Session σ) : Request → Response σ × Session σ
  | .register slug rule level => s.change (s.linter.register slug rule level)
  | .allow slug => s.change (s.linter.allow slug)
  | .clear => s.change (.ok s.linter.clear)
  | .modify m => s.change (.ok (s.linter.modify m))
  | .readBy reader => s.change (.ok { s.linter with reader })
  | .add source => s.change (.ok (s.linter.add source))
  | .run =>
    let (d, s) := s.run r
    (.ran d, s)

/-- The session after some requests. -/
def after (r : Reporter σ) (s : Session σ) (history : List Request) : Session σ :=
  history.foldl (fun s q => (s.respond r q).2) s

end Session

end ProposalCheck
