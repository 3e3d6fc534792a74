import ProposalCheck.Text.Numeral

/-!
# Why a text holds no data

Most texts that are refused break the rules of the format; they are all `malformed`. A few scalars
follow the rules but have a value that cannot be built, and each of these has a cause of its own.
-/

namespace ProposalCheck.Yaml

/-- A part of a date or a time that is out of its range. -/
inductive DateError where
  | year (n : Nat)
  | month
  | day
  | hour
  | minute
  | second
  /-- The offset from universal time, in seconds, is a day or more. -/
  | offset (seconds : Int)
deriving DecidableEq, Repr, Inhabited

namespace DateError

/-- A span of time as days and seconds. -/
def spanText (seconds : Int) : String :=
  let days := seconds.fdiv 86400
  let rest := seconds.fmod 86400
  let parts := (if days == 0 then [] else ["days=" ++ toString days])
    ++ (if rest == 0 then [] else ["seconds=" ++ toString rest])
  "datetime.timedelta(" ++ (if parts.isEmpty then "0" else ", ".intercalate parts) ++ ")"

/-- The wording of the error. -/
def message : DateError → String
  | year n => "year " ++ toString n ++ " is out of range"
  | month => "month must be in 1..12"
  | day => "day is out of range for month"
  | hour => "hour must be in 0..23"
  | minute => "minute must be in 0..59"
  | second => "second must be in 0..59"
  | offset seconds =>
    "offset must be a timedelta strictly between -timedelta(hours=24) and timedelta(hours=24), not "
      ++ spanText seconds ++ "."

end DateError

/-- Why a text holds no data. -/
inductive Error where
  /-- The text breaks the rules of the format. -/
  | malformed
  /-- A whole number cannot be read. -/
  | numeral (e : Text.NumeralError)
  /-- A text is tagged as a real number and is none. -/
  | notReal (text : String)
  /-- A text is tagged as a truth value and is none. -/
  | notBool (text : String)
  /-- A number has no digits at all. -/
  | emptyNumber
  /-- A text is tagged as a timestamp and is none. -/
  | notTimestamp
  | date (e : DateError)
  /-- A text that is the entry of a mapping is tagged as a timestamp. -/
  | notTimestampText
  /-- A number in base sixty has more places than real numbers can have. -/
  | tooManyPlaces
  /-- The text of a mapping is the mapping itself. -/
  | endless
  /-- An escape has a number that no character has. -/
  | noSuchCharacter
  /-- An escape has a number that is far above all characters. -/
  | hugeCharacter
deriving DecidableEq, Repr, Inhabited

namespace Error

/-- The wording of the error. -/
def message : Error → String
  | malformed => "malformed document"
  | numeral e => e.message
  | notReal text => "could not convert string to float: " ++ Text.quoted text
  | notBool text => Text.quoted text
  | emptyNumber => "string index out of range"
  | notTimestamp => "'NoneType' object has no attribute 'groupdict'"
  | notTimestampText => "expected string or bytes-like object, got 'list'"
  | tooManyPlaces => "int too large to convert to float"
  | endless => "maximum recursion depth exceeded"
  | date e => e.message
  | noSuchCharacter => "chr() arg not in range(0x110000)"
  | hugeCharacter => "Python int too large to convert to C int"

end Error

end ProposalCheck.Yaml
