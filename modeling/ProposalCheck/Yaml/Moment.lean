import ProposalCheck.Data.Value
import ProposalCheck.Yaml.Cursor
import ProposalCheck.Yaml.Error

/-!
# Days and moments

A day is written as `2001-12-14` and a moment as `2001-12-14 21:59:43.10 -05:00`, where the fraction
and the offset from universal time may be left out. `Moment.read?` reads the parts of such a text,
and `Moment.toTimestamp` tells whether there is such a moment in the calendar.
-/

namespace ProposalCheck.Yaml

open Data (TimeOfDay Timestamp)

/-- A time as it is written. The offset from universal time is given in seconds. -/
structure Clock where
  hour : Nat
  minute : Nat
  second : Nat
  microsecond : Nat := 0
  offset : Option Int := none
deriving DecidableEq, Repr, Inhabited

/-- A day or a moment as it is written. -/
structure Moment where
  year : Nat
  month : Nat
  day : Nat
  /-- Whether month and day both have two digits. -/
  padded : Bool
  clock : Option Clock := none
deriving DecidableEq, Repr, Inhabited

namespace Moment

/-- The number that digits denote. -/
def ofDigits (cs : List Char) : Nat :=
  cs.foldl (fun n c => 10 * n + (c.toNat - '0'.toNat)) 0

/-- A number of at least `least` and at most `most` digits, and the number of its digits. -/
def readNumber? (least most : Nat) (cs : List Char) : Option ((Nat × Nat) × List Char) :=
  let digits := (cs.take most).takeWhile Char.isDigit
  if digits.length < least then none
  else some ((ofDigits digits, digits.length), cs.drop digits.length)

/-- Past a character that has to come next. -/
def expect? (c : Char) : List Char → Option (List Char)
  | d :: r => if c == d then some r else none
  | [] => none

/-- The millionths of a second that the digits of a fraction denote. -/
def microseconds (digits : List Char) : Nat :=
  let kept := digits.take 6
  ofDigits kept * Nat.pow 10 (6 - kept.length)

/-- The offset from universal time with the blanks in front of it; there may be none. -/
def readOffset? (cs : List Char) : Option (Option Int) :=
  match cs.dropWhile isSpaceOrTab with
  | [] => if cs.isEmpty then some none else none
  | 'Z' :: r => if r.isEmpty then some (some 0) else none
  | sign :: r => do
    if sign != '-' && sign != '+' then failure
    let ((hours, _), r) ← readNumber? 1 2 r
    let (minutes, r) ← match r with
      | ':' :: r => do
        let ((m, _), r) ← readNumber? 2 2 r
        pure (m, r)
      | r => pure (0, r)
    unless r.isEmpty do failure
    let seconds : Int := hours * 3600 + minutes * 60
    return some (if sign == '-' then -seconds else seconds)

/-- A time with what comes after it. -/
def readClock? (cs : List Char) : Option Clock := do
  let ((hour, _), r) ← readNumber? 1 2 cs
  let r ← expect? ':' r
  let ((minute, _), r) ← readNumber? 2 2 r
  let r ← expect? ':' r
  let ((second, _), r) ← readNumber? 2 2 r
  let (fraction, r) := match r with
    | '.' :: r => (r.takeWhile Char.isDigit, r.dropWhile Char.isDigit)
    | r => ([], r)
  let offset ← readOffset? r
  return { hour, minute, second, microsecond := microseconds fraction, offset }

/-- The time after a day. A letter or blanks stand between the two. -/
def readRest? (cs : List Char) : Option (Option Clock) :=
  match cs with
  | [] => some none
  | c :: r =>
    if c == 'T' || c == 't' then some <$> readClock? r
    else if isSpaceOrTab c then some <$> readClock? (r.dropWhile isSpaceOrTab)
    else none

/-- The moment or the day that a text describes. -/
def read? (cs : List Char) : Option Moment := do
  let ((year, _), r) ← readNumber? 4 4 cs
  let r ← expect? '-' r
  let ((month, a), r) ← readNumber? 1 2 r
  let r ← expect? '-' r
  let ((day, b), r) ← readNumber? 1 2 r
  let clock ← readRest? r
  return { year, month, day, padded := a == 2 && b == 2, clock }

/-- Whether a text without a tag is a moment or a day; the parts of a day alone have all their
digits. -/
def isWritten (cs : List Char) : Bool :=
  match read? cs with
  | some m => m.padded || m.clock.isSome
  | none => false

/-! ## The calendar -/

/-- The offset from universal time of a time, which is less than a day. -/
def checkOffset (c : Clock) : Except DateError Unit := do
  if let some o := c.offset then
    unless o.natAbs < Timestamp.secondsPerDay do throw (.offset o)

/-- A time of a day, if there is such a time. -/
def timeOfDay (c : Clock) : Except DateError TimeOfDay := do
  unless c.hour < 24 do throw .hour
  unless c.minute < 60 do throw .minute
  unless c.second < 60 do throw .second
  return { hour := c.hour, minute := c.minute, second := c.second, microsecond := c.microsecond
           offset := c.offset }

/-- The timestamp of a moment, if the calendar has it. -/
def toTimestamp (m : Moment) : Except DateError Timestamp := do
  if let some c := m.clock then checkOffset c
  unless 1 ≤ m.year do throw (.year m.year)
  unless 1 ≤ m.month && m.month ≤ 12 do throw .month
  unless 1 ≤ m.day && m.day ≤ Timestamp.daysIn m.year m.month do throw .day
  let time ← match m.clock with
    | some c => some <$> timeOfDay c
    | none => pure none
  return { year := m.year, month := m.month, day := m.day, time }

end Moment

end ProposalCheck.Yaml
