import DropletClient.Text.Blank
import DropletClient.Text.Decimal

namespace DropletClient

/-!
# Timestamps

An instant is a number of seconds since the first moment of 1970 in universal
time, and a fraction of a second in nanoseconds; a leap second counts on in the
nanoseconds of the second before it. The text of an instant is a date, a time of
day and an offset, with white space allowed around the numbers.
-/

/-- An instant in universal time. -/
structure Timestamp where
  seconds : Int
  nanoseconds : Nat
  deriving Repr, DecidableEq

namespace Timestamp

/-- A year with a twenty-ninth of February. -/
def isLeapYear (year : Int) : Bool :=
  year % 4 == 0 && (year % 100 != 0 || year % 400 == 0)

/-- The number of days of a month; zero if there is no such month. -/
def daysInMonth (year : Int) (month : Nat) : Nat :=
  match month with
  | 1 | 3 | 5 | 7 | 8 | 10 | 12 => 31
  | 4 | 6 | 9 | 11 => 30
  | 2 => if isLeapYear year then 29 else 28
  | _ => 0

/--
The days from the first of January 1970 to a date. Years are counted from
March, so that the leap day is the last day of a year, and in cycles of four
hundred years.
-/
def daysSinceEpoch (year : Int) (month day : Nat) : Int :=
  let marchYear := if month ≤ 2 then year - 1 else year
  let cycle := marchYear / 400
  let yearOfCycle := marchYear - cycle * 400
  let monthFromMarch := (month + 9) % 12
  let dayOfYear : Int := ((153 * monthFromMarch + 2) / 5 + day - 1 : Nat)
  let dayOfCycle :=
    yearOfCycle * 365 + yearOfCycle / 4 - yearOfCycle / 100 + dayOfYear
  cycle * 146097 + dayOfCycle - 719468

/-- The first year of the calendar. -/
def firstYear : Int := -262143

/-- The last year of the calendar. -/
def lastYear : Int := 262142

/-- The first second of the calendar. -/
def firstSecond : Int :=
  daysSinceEpoch firstYear 1 1 * 86400

/-- The second after the last one of the calendar. -/
def endSecond : Int :=
  daysSinceEpoch (lastYear + 1) 1 1 * 86400

/--
Digits in front of a text, one at least and no more than a width, as a number.
-/
def number? (width : Nat) (text : List Char) : Option (Nat × List Char) :=
  let digits := (text.takeWhile Text.Decimal.isDigit).take width
  if digits.isEmpty then none
  else some (Text.Decimal.valueFrom 0 digits, text.drop digits.length)

/-- White space and then a number of one or two digits. -/
def shortNumber? (text : List Char) : Option (Nat × List Char) :=
  number? 2 (Text.trimStart text)

/--
White space and then a year: four digits at most, or any number of them
after a sign.
-/
def year? (text : List Char) : Option (Int × List Char) :=
  match Text.trimStart text with
  | '-' :: rest =>
      (number? rest.length rest).map fun (value, rest) => (-(value : Int), rest)
  | '+' :: rest =>
      (number? rest.length rest).map fun (value, rest) => ((value : Int), rest)
  | rest => (number? 4 rest).map fun (value, rest) => ((value : Int), rest)

/-- White space and then a mark, which is dropped. -/
def mark? (mark : Char) (text : List Char) : Option (List Char) :=
  match Text.trimStart text with
  | head :: rest => if head = mark then some rest else none
  | [] => none

/--
The nanoseconds of a fraction of a second; digits after the ninth are
passed over.
-/
def fraction? : List Char → Option (Nat × List Char)
  | '.' :: rest =>
      let digits := (rest.takeWhile Text.Decimal.isDigit).take 9
      if digits.isEmpty then none
      else
        some (Text.Decimal.valueFrom 0 digits * Nat.pow 10 (9 - digits.length),
          rest.dropWhile Text.Decimal.isDigit)
  | rest => some (0, rest)

/-- Two digits as a number. -/
def twoDigits? : List Char → Option (Nat × List Char)
  | first :: second :: rest =>
      if Text.Decimal.isDigit first && Text.Decimal.isDigit second then
        some (Text.Decimal.valueFrom 0 [first, second], rest)
      else
        none
  | _ => none

/-- What may stand between the hours and the minutes of an offset. -/
def isOffsetSeparator (character : Char) : Bool :=
  character == ':' || Text.isBlank character

/-- Hours and minutes of an offset, as seconds. -/
def signedOffset?
    (sign : Int)
    (text : List Char) :
    Option (Int × List Char) := do
  let (hours, rest) ← twoDigits? text
  let (minutes, rest) ← twoDigits? (rest.dropWhile isOffsetSeparator)
  if minutes < 60 then
    some (sign * (hours * 3600 + minutes * 60), rest)
  else
    none

/-- The seconds that local time is ahead of universal time. -/
def offset? (text : List Char) : Option (Int × List Char) :=
  if (text.take 3).map Char.toLower = ['u', 't', 'c'] then
    some (0, text.drop 3)
  else
    match text with
    | 'Z' :: rest => some (0, rest)
    | 'z' :: rest => some (0, rest)
    | '+' :: rest => signedOffset? 1 rest
    | '-' :: rest => signedOffset? (-1) rest
    | '\u2212' :: rest => signedOffset? (-1) rest
    | _ => none

/-- The days of a date, if the calendar has it. -/
def date? (year : Int) (month day : Nat) : Option Int :=
  if firstYear ≤ year ∧ year ≤ lastYear ∧ 1 ≤ day ∧
      day ≤ daysInMonth year month then
    some (daysSinceEpoch year month day)
  else
    none

/--
The seconds of a time of day; the sixtieth second of a minute is a leap second.
-/
def timeOfDay? (hour minute second : Nat) : Option Nat :=
  if hour < 24 ∧ minute < 60 ∧ second ≤ 60 then
    some (hour * 3600 + minute * 60 + min second 59)
  else
    none

/-- The instant of a local date and time with an offset of less than a day. -/
def ofLocal?
    (days : Int)
    (timeOfDay nanoseconds : Nat)
    (offset : Int) :
    Option Timestamp :=
  let seconds := days * 86400 + timeOfDay - offset
  if offset.natAbs < 86400 ∧ firstSecond ≤ seconds ∧ seconds < endSecond then
    some { seconds, nanoseconds }
  else
    none

/-- What may stand between the date and the time of day. -/
def timeMark? : List Char → Option (List Char)
  | 'T' :: rest => some rest
  | 't' :: rest => some rest
  | ' ' :: rest => some rest
  | _ => none

/-- The instant that a text denotes. -/
def ofText? (text : List Char) : Option Timestamp := do
  let (year, rest) ← year? text
  let rest ← mark? '-' rest
  let (month, rest) ← shortNumber? rest
  let rest ← mark? '-' rest
  let (day, rest) ← shortNumber? rest
  let rest ← timeMark? rest
  let (hour, rest) ← shortNumber? rest
  let rest ← mark? ':' rest
  let (minute, rest) ← shortNumber? rest
  let rest ← mark? ':' rest
  let (second, rest) ← shortNumber? rest
  let (fraction, rest) ← fraction? rest
  let (offset, rest) ← offset? (Text.trimStart rest)
  if Text.allBlank rest then
    let days ← date? year month day
    let timeOfDay ← timeOfDay? hour minute second
    ofLocal? days timeOfDay
      (if second = 60 then fraction + 1000000000 else fraction) offset
  else
    none

end Timestamp

end DropletClient
