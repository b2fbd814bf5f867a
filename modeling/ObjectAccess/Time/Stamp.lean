import ObjectAccess.Text.Blank
import ObjectAccess.Text.Decimal
import ObjectAccess.Time.Instant

/-!
# Instants in text

Signing times are written `YYYYMMDDTHHMMSSZ` and scope dates `YYYYMMDD`; keys and
listings use two further forms of the date.  A year from 0 to 9999 has four digits,
any other one a sign and at least four.  Fractions of a second are only written in
listings, where a leap second is the second 60 everywhere.

The reader of signing times takes more than the writer makes: every number may
have white space before it, a signed year may have any number of digits, and the
other numbers may be one digit short.  It reads back what was written, truncated
to the second, when the year has four digits.
-/

namespace ObjectAccess.Time

set_option autoImplicit false

open ObjectAccess.Text

/-! ## Writing -/

/-- A year in a stamp: four digits, or a sign and at least four. -/
def yearText (year : Int) : List Char :=
  if 0 ≤ year ∧ year ≤ 9999 then Decimal.padded 4 year.toNat
  else (if year < 0 then '-' else '+') :: Decimal.padded 4 year.natAbs

/-- A two-digit number. -/
def twoDigits (n : Nat) : List Char := Decimal.padded 2 n

namespace Instant

/-- The second of the minute, 60 in a leap second. -/
def writtenSecond (t : Instant) : Nat :=
  t.secondOfDay % 60 + if t.isLeap then 1 else 0

/-- The date as `YYYYMMDD`. -/
def dateStamp (t : Instant) : List Char :=
  yearText t.date.year ++ twoDigits t.date.month ++ twoDigits t.date.day

/-- The instant as `YYYYMMDDTHHMMSSZ`. -/
def stamp (t : Instant) : List Char :=
  t.dateStamp ++ 'T' :: (twoDigits (t.secondOfDay / 3600) ++ twoDigits (t.secondOfDay / 60 % 60)
    ++ twoDigits t.writtenSecond ++ ['Z'])

/-- The date as `YYYY/MM/DD`. -/
def datePath (t : Instant) : List Char :=
  yearText t.date.year ++ '/' :: (twoDigits t.date.month ++ '/' :: twoDigits t.date.day)

/-- The fraction of a second with a point: none, or three, six or nine digits. -/
def fractionText (t : Instant) : List Char :=
  let nanos := t.nanos % nanosPerSecond
  if nanos = 0 then []
  else if nanos % 1000000 = 0 then '.' :: Decimal.padded 3 (nanos / 1000000)
  else if nanos % 1000 = 0 then '.' :: Decimal.padded 6 (nanos / 1000)
  else '.' :: Decimal.padded 9 nanos

/-- The instant as listings show it, `YYYY-MM-DDTHH:MM:SS.fffZ`. -/
def listed (t : Instant) : List Char :=
  yearText t.date.year ++ '-' :: (twoDigits t.date.month ++ '-' :: (twoDigits t.date.day ++
    'T' :: (twoDigits (t.secondOfDay / 3600) ++ ':' :: (twoDigits (t.secondOfDay / 60 % 60) ++
    ':' :: (twoDigits t.writtenSecond ++ t.fractionText ++ ['Z'])))))

end Instant

/-! ## Reading -/

/-- Up to `width` digits, at least one, and the rest. -/
def takeNumber? (width : Nat) (text : List Char) : Option (Nat × List Char) :=
  let run := (text.take width).takeWhile Char.isDigit
  if run.isEmpty then none else some (Decimal.value run, text.drop run.length)

/-- A number of up to two digits after white space. -/
def takeField? (text : List Char) : Option (Nat × List Char) :=
  takeNumber? 2 (text.dropWhile isBlank)

/-- A year after white space: signed with any number of digits, or up to four digits. -/
def takeYear? (text : List Char) : Option (Int × List Char) :=
  match text.dropWhile isBlank with
  | '-' :: rest => (takeNumber? rest.length rest).map fun (n, rest) => (-(n : Int), rest)
  | '+' :: rest => (takeNumber? rest.length rest).map fun (n, rest) => ((n : Int), rest)
  | rest => (takeNumber? 4 rest).map fun (n, rest) => ((n : Int), rest)

/-- The rest after one given character. -/
def takeMark? (mark : Char) : List Char → Option (List Char)
  | c :: rest => if c = mark then some rest else none
  | [] => none

/-- The years of the calendar. -/
def yearInRange (year : Int) : Bool := -262143 ≤ year && year ≤ 262142

/-- The instant on a date at a time of day; the second 60 is a leap second. -/
def Instant.ofCivil? (d : Date) (hour minute second : Nat) : Option Instant :=
  if d.exists && yearInRange d.year && hour ≤ 23 && minute ≤ 59 && second ≤ 60 then
    let daySeconds := hour * 3600 + minute * 60 + min second 59
    Instant.ofUnix? (d.toDays * secondsPerDay + (daySeconds : Int))
      (if second = 60 then nanosPerSecond else 0)
  else none

/-- Reads `YYYYMMDDTHHMMSSZ`; nothing may remain. -/
def Instant.ofStamp? (text : List Char) : Option Instant := do
  let (year, text) ← takeYear? text
  let (month, text) ← takeField? text
  let (day, text) ← takeField? text
  let text ← takeMark? 'T' text
  let (hour, text) ← takeField? text
  let (minute, text) ← takeField? text
  let (second, text) ← takeField? text
  let text ← takeMark? 'Z' text
  if text.isEmpty then Instant.ofCivil? ⟨year, month, day⟩ hour minute second else none

end ObjectAccess.Time
