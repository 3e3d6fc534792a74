/-!
# Shortest decimal text of binary fractions

A finite floating-point number is `m · 2 ^ q`. All reals nearer to it than to its neighbours round
to it, and the two midpoints do as well when `m` is even. `Shortest.digits` finds the fewest decimal
digits that name a real of this interval, and of these the ones nearest to the number.
-/

namespace ProposalCheck.Data

/-- A floating-point number taken apart. -/
inductive Parts where
  | notANumber
  | infinite (negative : Bool)
  /-- The number `mantissa · 2 ^ exponent`. -/
  | finite (negative : Bool) (mantissa : Nat) (exponent : Int)
deriving DecidableEq, Repr, Inhabited

namespace Parts

/-- The parts of a number from its 64 bits. -/
def ofBits (bits : UInt64) : Parts :=
  let negative := bits >>> 63 == 1
  let field := ((bits >>> 52) &&& 0x7FF).toNat
  let fraction := (bits &&& 0xFFFFFFFFFFFFF).toNat
  if field == 0x7FF then if fraction == 0 then infinite negative else notANumber
  else if field == 0 then finite negative fraction (-1074)
  else finite negative (fraction + Nat.pow 2 52) (field - 1075)

end Parts

namespace Shortest

/-- The interval of reals that round to a number, as numerators over a common denominator. -/
structure Interval where
  low : Nat
  value : Nat
  high : Nat
  denominator : Nat
  /-- Whether the ends round to the number too. -/
  closed : Bool

/-- The interval of `m · 2 ^ q`. Below a power of two the neighbour is half as far away. -/
def interval (m : Nat) (q : Int) : Interval :=
  let (up, down) := if q ≥ 2 then (Nat.pow 2 (q - 2).toNat, 1) else (1, Nat.pow 2 (2 - q).toNat)
  let lowGap := if m == Nat.pow 2 52 && q > -1074 then 1 else 2
  { low := (4 * m - lowGap) * up, value := 4 * m * up, high := (4 * m + 2) * up,
    denominator := down, closed := m % 2 == 0 }

/-- Whether the real `n · 10 ^ e` lies in the interval. -/
def Interval.has (i : Interval) (n : Nat) (e : Int) : Bool :=
  let x := n * Nat.pow 10 e.toNat * i.denominator
  let scale := Nat.pow 10 (-e).toNat
  if i.closed then i.low * scale ≤ x && x ≤ i.high * scale
  else i.low * scale < x && x < i.high * scale

/-- The number's neighbours on the grid of the multiples of `10 ^ e` that lie in the interval, the
nearer one first. -/
def candidates (i : Interval) (e : Int) : List Nat :=
  let top := i.value * Nat.pow 10 (-e).toNat
  let bottom := i.denominator * Nat.pow 10 e.toNat
  let below := top / bottom
  let rest := top % bottom
  let nearest :=
    if 2 * rest < bottom || (2 * rest == bottom && below % 2 == 0) then [below, below + 1]
    else [below + 1, below]
  nearest.filter (i.has · e)

/-- The least `k` not below `start` with `value < 10 ^ k`, looked for in `fuel` steps. -/
def magnitude (i : Interval) : Nat → Int → Int
  | 0, k => k
  | fuel + 1, k =>
    if i.value * Nat.pow 10 (-k).toNat < i.denominator * Nat.pow 10 k.toNat then k
    else magnitude i fuel (k + 1)

/-- The first grid, from coarse to fine, with a neighbour in the interval. -/
def search (i : Interval) (k : Int) : Nat → Nat → Nat × Int
  | 0, n => (((candidates i (k - n)).head?).getD 0, k - n)
  | fuel + 1, n =>
    match candidates i (k - n) with
    | c :: _ => (c, k - n)
    | [] => search i k fuel (n + 1)

/-- Shortest digits `d` and exponent `e` such that `d · 10 ^ e` rounds to `m · 2 ^ q`. -/
def digits (m : Nat) (q : Int) : Nat × Int :=
  let i := interval m q
  search i (magnitude i 700 (-330)) 16 1

end Shortest

/-- How a floating-point number is written. -/
structure RealFormat where
  /-- Decimal exponents from here up to `positionalMax` are written without an exponent. -/
  positionalMin : Int
  positionalMax : Int
  /-- The least number of digits of a written exponent. -/
  exponentWidth : Nat
  infinity : String
  notANumber : String

namespace RealFormat

/-- The text of a decimal number `d · 10 ^ e` without sign. -/
def decimal (f : RealFormat) (d : Nat) (e : Int) : String :=
  let ds := (toString d).toList.reverse.dropWhile (· == '0') |>.reverse
  let ds := if ds.isEmpty then ['0'] else ds
  let leading : Int := if d == 0 then 0 else (toString d).length - 1 + e
  if f.positionalMin ≤ leading && leading < f.positionalMax then
    if leading < 0 then
      "0." ++ String.ofList (List.replicate (-leading - 1).toNat '0' ++ ds)
    else
      let whole := ds.take (leading.toNat + 1)
      let pad := List.replicate (leading.toNat + 1 - whole.length) '0'
      let part := ds.drop (leading.toNat + 1)
      String.ofList (whole ++ pad) ++ "." ++ (if part.isEmpty then "0" else String.ofList part)
  else
    let point := match ds with
      | [x] => String.ofList [x]
      | x :: xs => String.ofList (x :: '.' :: xs)
      | [] => ""
    let n := toString leading.natAbs
    let pad := String.ofList (List.replicate (f.exponentWidth - n.length) '0')
    point ++ "e" ++ (if leading < 0 then "-" else "+") ++ pad ++ n

/-- The text of a floating-point number. -/
def write (f : RealFormat) (x : Float) : String :=
  match Parts.ofBits x.toBits with
  | .notANumber => f.notANumber
  | .infinite negative => (if negative then "-" else "") ++ f.infinity
  | .finite negative m q =>
    let (d, e) := if m == 0 then (0, 0) else Shortest.digits m q
    (if negative then "-" else "") ++ f.decimal d e

end RealFormat

/-- Configuration values are written positionally from a ten-thousandth up to `10 ^ 16`, always with
a fractional part, and otherwise with an exponent of at least two digits. -/
def realFormat : RealFormat :=
  { positionalMin := -4, positionalMax := 16, exponentWidth := 2, infinity := "inf",
    notANumber := "nan" }

/-- The number nearest to `± m · 10 ^ e`. -/
def nearestReal (negative : Bool) (m : Nat) (e : Int) : Float :=
  let size : Int := (toString m).length + e
  let x :=
    if m == 0 || size < -400 then 0.0
    else if size > 400 then 1.0 / 0.0
    else Float.ofScientific m (e < 0) e.natAbs
  if negative then -x else x

end ProposalCheck.Data
