import ProposalCheck.Pattern.Basic

/-!
# Widths

The least and the greatest number of characters that a node takes. A look-behind has to know how far
to look back, so its least and its greatest width have to agree.
-/

namespace ProposalCheck

namespace Pattern

/-- The number that stands for no limit. -/
def unlimited : Nat := 4294967295

/-- The least and the greatest number of characters of something. The least one is always finite. -/
structure Width where
  least : Nat
  most : Nat
deriving DecidableEq, Repr, Inhabited

namespace Width

/-- A width whose numbers are small enough to be told apart. -/
def capped (least most : Nat) : Width :=
  ⟨Nat.min least (unlimited - 1), Nat.min most unlimited⟩

/-- One after the other. -/
def add (a b : Width) : Width :=
  capped (a.least + b.least) (a.most + b.most)

/-- One or the other. -/
def either (a b : Width) : Width :=
  ⟨Nat.min a.least b.least, Nat.max a.most b.most⟩

end Width

/-- The width of a node, given those of the groups that it may refer to. -/
def Node.width (groups : List (Nat × Width)) : Node → Width
  | .empty => ⟨0, 0⟩
  | .any _ => ⟨1, 1⟩
  | .char _ _ _ => ⟨1, 1⟩
  | .set _ _ _ => ⟨1, 1⟩
  | .anchor _ => ⟨0, 0⟩
  | .cat a b => (a.width groups).add (b.width groups)
  | .alt a b => (a.width groups).either (b.width groups)
  | .repetition _ min max body =>
    let w := body.width groups
    .capped (w.least * min) (w.most * max.getD unlimited)
  | .group _ body => body.width groups
  | .look _ _ _ => ⟨0, 0⟩
  | .reference _ index => ((groups.find? (·.1 == index)).map (·.2)).getD ⟨0, 0⟩
  | .conditional _ yes no => (yes.width groups).either (no.width groups)
  | .atomic body => body.width groups

/-- What keeps a node from being matched, if anything: a look-behind of several widths, or a
repetition where the option `t` forbids them. The first such part counts. -/
def Node.fault? (groups : List (Nat × Width)) (plain : Bool) : Node → Option String
  | .cat a b => (a.fault? groups plain).or (b.fault? groups plain)
  | .alt a b => (a.fault? groups plain).or (b.fault? groups plain)
  | .repetition greed _ _ body =>
    if plain then
      some ("internal: unsupported template operator " ++ match greed with
        | .greedy => "MAX_REPEAT"
        | .lazy => "MIN_REPEAT"
        | .possessive => "POSSESSIVE_REPEAT")
    else body.fault? groups plain
  | .group _ body => body.fault? groups plain
  | .look behind _ body =>
    let w := body.width groups
    if behind.isSome && w.least != w.most then some "look-behind requires fixed-width pattern"
    else body.fault? groups plain
  | .conditional _ yes no => (yes.fault? groups plain).or (no.fault? groups plain)
  | .atomic body => body.fault? groups plain
  | _ => none

end Pattern

end ProposalCheck
