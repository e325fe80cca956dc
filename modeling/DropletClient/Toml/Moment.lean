import DropletClient.Timestamp

namespace DropletClient.Toml.Moment

/-!
# Moments

A date, a time of day, or both, and with both an offset from universal time. The
numbers have a fixed count of digits and stand for a day that exists and a time
that exists.
-/

/-- A number of as many digits as asked for, and what follows it. -/
def number? (count : Nat) (text : List Char) : Option (Nat × List Char) :=
  let digits := text.take count
  if digits.length = count ∧ digits.all Text.Decimal.isDigit = true then
    some (Text.Decimal.valueFrom 0 digits, text.drop count)
  else
    none

/-- A mark and then a number of two digits that is not above a bound. -/
def field? (mark : Char) (bound : Nat) : List Char → Option (Nat × List Char)
  | [] => none
  | head :: rest => do
      if head ≠ mark then none
      let (value, rest) ← number? 2 rest
      if value ≤ bound then some (value, rest) else none

/-- What follows a date. -/
def skipDate? (text : List Char) : Option (List Char) := do
  let (year, rest) ← number? 4 text
  let (month, rest) ← field? '-' 12 rest
  let (day, rest) ← field? '-' (Timestamp.daysInMonth year month) rest
  if day = 0 then none else some rest

/-- What follows a fraction of a second, if there is one. -/
def skipSecondFraction : List Char → List Char
  | '.' :: digit :: rest =>
      if Text.Decimal.isDigit digit then rest.dropWhile Text.Decimal.isDigit
      else '.' :: digit :: rest
  | rest => rest

/-- What follows a time of day. -/
def skipTime? (text : List Char) : Option (List Char) := do
  let (hour, rest) ← number? 2 text
  if 23 < hour then none
  let (_, rest) ← field? ':' 59 rest
  let (_, rest) ← field? ':' 60 rest
  some (skipSecondFraction rest)

/-- What follows the hours and minutes of an offset. -/
def skipOffsetTime? (text : List Char) : Option (List Char) := do
  let (hour, rest) ← number? 2 text
  if 23 < hour then none
  let (_, rest) ← field? ':' 59 rest
  some rest

/-- What follows an offset, if there is one. -/
def skipOffset (text : List Char) : List Char :=
  match text with
  | 'Z' :: rest => rest
  | 'z' :: rest => rest
  | '+' :: rest => (skipOffsetTime? rest).getD text
  | '-' :: rest => (skipOffsetTime? rest).getD text
  | _ => text

/--
What follows a time of day and its offset behind a date, if there is a time.
-/
def skipTimeOfDate (text : List Char) : List Char :=
  match text with
  | [] => []
  | mark :: rest =>
      if mark == 'T' || mark == 't' || mark == ' ' then
        ((skipTime? rest).map skipOffset).getD text
      else
        text

/-- What follows a moment. -/
def skip? (text : List Char) : Option (List Char) :=
  ((skipDate? text).map skipTimeOfDate).or (skipTime? text)

end DropletClient.Toml.Moment
