/-!
# Host names in ASCII

A label of a host name that holds characters outside ASCII is written by a generalized
variable-length number for every such character, after the ASCII characters of the label.
-/

namespace ProposalCheck.Markup.Punycode

/-- The threshold of the digit at a place. -/
def threshold (place bias : Nat) : Nat :=
  let t := 36 * (place + 1) - bias
  if 36 * (place + 1) < bias + 1 then 1 else if t > 26 then 26 else t

/-- Halves a delta until it is small, counting by 36. -/
def settle : Nat → Nat → Nat → Nat
  | 0, delta, divisions => divisions + 36 * delta / (delta + 38)
  | fuel + 1, delta, divisions =>
    if delta > 455 then settle fuel (delta / 35) (divisions + 36)
    else divisions + 36 * delta / (delta + 38)

/-- The bias after a delta. -/
def adapt (delta : Nat) (first : Bool) (count : Nat) : Nat :=
  let delta := if first then delta / 700 else delta / 2
  let delta := delta + delta / count
  settle 64 delta 0

/-! ## Writing -/

/-- The character of a digit. -/
def digit (d : Nat) : Char :=
  if d < 26 then Char.ofNat (d + 'a'.toNat) else Char.ofNat (d - 26 + '0'.toNat)

/-- The digits of a number from a place on. -/
def number (bias : Nat) : Nat → Nat → Nat → List Char
  | 0, _, n => [digit n]
  | fuel + 1, place, n =>
    let t := threshold place bias
    if n < t then [digit n]
    else digit (t + (n - t) % (36 - t)) :: number bias fuel (place + 1) ((n - t) / (36 - t))

/-- The deltas of the occurrences of one code point. `before` counts characters below it. -/
def deltasOf (code : Nat) : Nat → List Char → List Nat × Nat
  | delta, [] => ([], delta)
  | delta, c :: cs =>
    if c.toNat < code then deltasOf code (delta + 1) cs
    else if c.toNat == code then
      let (ds, rest) := deltasOf code 0 cs
      (delta :: ds, rest)
    else deltasOf code delta cs

/-- The deltas of all code points, in ascending order. -/
def deltas (cs : List Char) : List Nat → Nat → Nat → List Nat
  | [], _, _ => []
  | code :: codes, previous, delta =>
    let below := (cs.filter fun c => c.toNat < code).length
    let (ds, rest) := deltasOf code (delta + (below + 1) * (code - previous)) cs
    ds ++ deltas cs codes (code + 1) (rest + 1)

/-- The numbers of some deltas. -/
def numbers (first : Bool) (bias count : Nat) : List Nat → List Char
  | [] => []
  | d :: ds =>
    number bias 64 0 d ++ numbers false (adapt d first (count + 1)) (count + 1) ds

/-- The code points outside ASCII, ascending and without repetition. -/
def codes (cs : List Char) : List Nat :=
  ((cs.map Char.toNat).filter (· ≥ 0x80)).eraseDups.mergeSort

/-- A label in ASCII, without the mark in front. -/
def encode (cs : List Char) : List Char :=
  let basic := cs.filter fun c => c.toNat < 0x80
  let ds := deltas cs (codes cs) 0x80 0
  let extended := numbers true 72 basic.length ds
  if basic.isEmpty then extended else basic ++ '-' :: extended

/-! ## Reading -/

/-- The value of a digit. -/
def digitValue? (c : Char) : Option Nat :=
  if 'A' ≤ c && c ≤ 'Z' then some (c.toNat - 'A'.toNat)
  else if 'a' ≤ c && c ≤ 'z' then some (c.toNat - 'a'.toNat)
  else if c.isDigit then some (c.toNat - '0'.toNat + 26)
  else none

/-- The number at the start of some digits, and the rest. -/
def takeNumber (bias : Nat) : Nat → Nat → Nat → List Char → Option (Nat × List Char)
  | _, _, _, [] => none
  | place, weight, acc, c :: cs => do
    let d ← digitValue? c
    let t := threshold place bias
    let acc := acc + d * weight
    if d < t then return (acc, cs) else takeNumber bias (place + 1) (weight * (36 - t)) acc cs

/-- Inserts the characters that the digits describe. -/
def insertions : Nat → Bool → Nat → Nat → Nat → List Char → List Char → Option (List Char)
  | 0, _, _, _, _, base, _ => some base
  | fuel + 1, first, bias, code, next, base, digits =>
    if digits.isEmpty then some base
    else do
      let (delta, rest) ← takeNumber bias 0 1 0 digits
      let p := next + delta
      let code := code + p / (base.length + 1)
      let p := p % (base.length + 1)
      if code > 0x10FFFF || (0xD800 ≤ code && code ≤ 0xDFFF) then none
      else
        let base := base.take p ++ Char.ofNat code :: base.drop p
        insertions fuel false (adapt delta first base.length) code (p + 1) base rest

/-- The label that an ASCII label stands for, without the mark in front; `none` when it is no such
label. -/
def decode (cs : List Char) : Option (List Char) :=
  if cs.any fun c => c.toNat ≥ 0x80 then none
  else
    let tail := (cs.reverse.takeWhile (· != '-')).reverse
    let base := cs.take (cs.length - tail.length - 1)
    insertions (cs.length + 1) true 72 0x80 0 base tail

end ProposalCheck.Markup.Punycode
