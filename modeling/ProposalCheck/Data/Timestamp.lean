import ProposalCheck.Text.Lines
import ProposalCheck.Text.Numeral

/-!
# Days and moments of the calendar

A `Timestamp` is a day, perhaps with a moment of that day. A moment with an offset from universal
time is an instant: two such timestamps are the same if their instants are, however they are
written.
-/

namespace ProposalCheck.Data

/-- A moment of a day, with an offset in seconds from universal time if one is given. -/
structure TimeOfDay where
  hour : Nat
  minute : Nat
  second : Nat
  microsecond : Nat
  offset : Option Int
deriving DecidableEq, Repr, Inhabited

/-- A day of the calendar, perhaps with a moment of that day. -/
structure Timestamp where
  year : Nat
  month : Nat
  day : Nat
  time : Option TimeOfDay
deriving DecidableEq, Repr, Inhabited

namespace Timestamp

/-! ## The calendar -/

/-- Whether a year has a leap day. -/
def isLeap (year : Nat) : Bool :=
  year % 4 == 0 && (year % 100 != 0 || year % 400 == 0)

/-- The number of days of a month. -/
def daysIn (year month : Nat) : Nat :=
  if month == 2 then if isLeap year then 29 else 28
  else if [4, 6, 9, 11].contains month then 30
  else 31

/-- The seconds of a day. -/
def secondsPerDay : Nat := 86400

/-- The number of days before a day, counted from the first day of the year one. -/
def daysBefore (year month day : Nat) : Nat :=
  let years := year - 1
  365 * years + years / 4 - years / 100 + years / 400
    + ((List.range (month - 1)).map fun m => daysIn year (m + 1)).foldr (· + ·) 0 + (day - 1)

/-- The millionths of a second before an instant; `none` for a timestamp that is none. -/
def instant? (t : Timestamp) : Option Int :=
  t.time.bind fun c => c.offset.map fun offset =>
    let seconds : Int := daysBefore t.year t.month t.day * secondsPerDay + c.hour * 3600
      + c.minute * 60 + c.second
    (seconds - offset) * 1000000 + c.microsecond

/-- Whether two timestamps are the same: instants are compared as such. -/
def same (a b : Timestamp) : Bool :=
  match a.instant?, b.instant? with
  | some x, some y => x == y
  | _, _ => a == b

/-! ## Texts -/

/-- A number written with at least `width` digits. -/
private def padded (width n : Nat) : String :=
  let s := toString n
  Text.repeated (width - s.length) '0' ++ s

/-- An offset from universal time as hours and minutes. -/
private def offsetText (offset : Int) : String :=
  let n := offset.natAbs
  let seconds := n % 60
  (if offset < 0 then "-" else "+") ++ padded 2 (n / 3600) ++ ":" ++ padded 2 (n / 60 % 60)
    ++ (if seconds == 0 then "" else ":" ++ padded 2 seconds)

/-- The text of a timestamp on its own. -/
def plain (t : Timestamp) : String :=
  let day := padded 4 t.year ++ "-" ++ padded 2 t.month ++ "-" ++ padded 2 t.day
  match t.time with
  | none => day
  | some c =>
    day ++ " " ++ padded 2 c.hour ++ ":" ++ padded 2 c.minute ++ ":" ++ padded 2 c.second
      ++ (if c.microsecond == 0 then "" else "." ++ padded 6 c.microsecond)
      ++ (match c.offset with
        | some o => offsetText o
        | none => "")

/-- An offset from universal time inside another value. -/
private def offsetQuoted (offset : Int) : String :=
  if offset == 0 then "datetime.timezone.utc"
  else
    let days := offset.fdiv 86400
    let seconds := offset.fmod 86400
    let parts := (if days == 0 then [] else ["days=" ++ toString days])
      ++ (if seconds == 0 then [] else ["seconds=" ++ toString seconds])
    "datetime.timezone(datetime.timedelta(" ++ ", ".intercalate parts ++ "))"

/-- The text of a timestamp inside another value. -/
def quoted (t : Timestamp) : String :=
  let day := [toString t.year, toString t.month, toString t.day]
  match t.time with
  | none => "datetime.date(" ++ ", ".intercalate day ++ ")"
  | some c =>
    let clock := [toString c.hour, toString c.minute]
      ++ (if c.second == 0 && c.microsecond == 0 then [] else [toString c.second])
      ++ (if c.microsecond == 0 then [] else [toString c.microsecond])
      ++ (match c.offset with
        | some o => ["tzinfo=" ++ offsetQuoted o]
        | none => [])
    "datetime.datetime(" ++ ", ".intercalate (day ++ clock) ++ ")"

end Timestamp

end ProposalCheck.Data
