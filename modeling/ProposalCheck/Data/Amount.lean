import ProposalCheck.Data.Shortest

/-!
# Exact amounts

Whole numbers and binary fractions are compared by their exact amounts: no whole number is rounded
on the way. What is no number equals nothing and is less than nothing.
-/

namespace ProposalCheck.Data

/-- The amount of a number. -/
inductive Amount where
  | notANumber
  | infinite (negative : Bool)
  /-- The amount `numerator · 2 ^ exponent`. -/
  | finite (numerator : Int) (exponent : Int)
deriving DecidableEq, Repr, Inhabited

namespace Amount

/-- The amount of a whole number. -/
def ofInt (i : Int) : Amount :=
  finite i 0

/-- The amount of a floating-point number. -/
def ofReal (x : Float) : Amount :=
  match Parts.ofBits x.toBits with
  | .notANumber => notANumber
  | .infinite negative => infinite negative
  | .finite negative m q => finite (if negative then -m else m) q

/-- Numerators of two amounts over the same power of two. -/
def aligned (n : Int) (p : Int) (m : Int) (q : Int) : Int × Int :=
  (n * Nat.pow 2 (p - q).toNat, m * Nat.pow 2 (q - p).toNat)

/-- Whether two amounts are equal. -/
def same : Amount → Amount → Bool
  | infinite a, infinite b => a == b
  | finite n p, finite m q =>
    let (a, b) := aligned n p m q
    a == b
  | _, _ => false

/-- Whether one amount is less than another. -/
def less : Amount → Amount → Bool
  | infinite a, infinite b => a && !b
  | infinite a, finite _ _ => a
  | finite _ _, infinite b => !b
  | finite n p, finite m q =>
    let (a, b) := aligned n p m q
    a < b
  | _, _ => false

end Amount

end ProposalCheck.Data
