import HttpJournal.Number.Decimal

namespace HttpJournal

structure Date where
  year : Int
  month : Nat
  day : Nat
  deriving DecidableEq

/-- A wall-clock reading. The second is 60 or more only within a leap second. -/
structure DateTime where
  date : Date
  hour : Nat
  minute : Nat
  second : Nat
  deriving DecidableEq

/-- Seconds since the start of 1970 and nanoseconds; a leap second has a thousand million of these
or more. -/
structure Instant where
  seconds : Int
  nanos : Nat
  deriving DecidableEq

namespace Date

/-- The number of a day, from 1 January 1970. Years are counted from March. -/
def toDays (d : Date) : Int :=
  let y : Int := if d.month ≤ 2 then d.year - 1 else d.year
  let yearOfEra := y % 400
  let dayOfYear : Int := (153 * ((d.month + 9) % 12) + 2) / 5 + d.day - 1
  y / 400 * 146097 + yearOfEra * 365 + yearOfEra / 4 - yearOfEra / 100 + dayOfYear - 719468

def ofDays (n : Int) : Date :=
  let z := n + 719468
  let day := z % 146097
  let yearOfEra := (day - day / 1460 + day / 36524 - day / 146096) / 365
  let dayOfYear := day - (365 * yearOfEra + yearOfEra / 4 - yearOfEra / 100)
  let m := (5 * dayOfYear + 2) / 153
  let month := if m < 10 then m + 3 else m - 9
  let year := yearOfEra + z / 146097 * 400
  { year := if month ≤ 2 then year + 1 else year
    month := month.toNat
    day := (dayOfYear - (153 * m + 2) / 5 + 1).toNat }

def isLeap (year : Int) : Bool := year % 4 == 0 && (year % 100 != 0 || year % 400 == 0)

def daysInMonth (year : Int) (month : Nat) : Nat :=
  if month = 2 then (if isLeap year then 29 else 28)
  else if month = 4 ∨ month = 6 ∨ month = 9 ∨ month = 11 then 30
  else 31

def minYear : Int := -262143

def maxYear : Int := 262142

def isValid (d : Date) : Bool :=
  minYear ≤ d.year && d.year ≤ maxYear && 1 ≤ d.month && d.month ≤ 12 && 1 ≤ d.day &&
    d.day ≤ daysInMonth d.year d.month

/-- Sunday is 0. -/
def weekday (days : Int) : Nat := ((days + 4) % 7).toNat

/-- Four digits, with a sign outside 0 to 9999. -/
def yearText (year : Int) : Text :=
  if 0 ≤ year ∧ year ≤ 9999 then Decimal.padded 4 year.toNat
  else (if year < 0 then '-' else '+') :: Decimal.padded 4 year.natAbs

def text (d : Date) : Text :=
  yearText d.year ++ '-' :: Decimal.padded 2 d.month ++ '-' :: Decimal.padded 2 d.day

def monthName (month : Nat) : String :=
  ["Jan", "Feb", "Mar", "Apr", "May", "Jun", "Jul", "Aug", "Sep", "Oct", "Nov", "Dec"].getD
    (month - 1) ""

end Date

example : Date.ofDays 0 = ⟨1970, 1, 1⟩ ∧ (Date.mk 2000 3 1).toDays = 11017 := by decide

example : (Date.mk (-1) 12 31).text = "-0001-12-31".toList := by decide

namespace DateTime

def hasValidClock (t : DateTime) : Bool := t.hour ≤ 23 && t.minute ≤ 59 && t.second ≤ 60

def clock (t : DateTime) : Text :=
  Decimal.padded 2 t.hour ++ ':' :: Decimal.padded 2 t.minute ++ ':' :: Decimal.padded 2 t.second

def text (t : DateTime) : Text := t.date.text ++ ' ' :: t.clock

/-- Day, month by name and year, and the time of day, with the offset in whole minutes. -/
def commonLog (t : DateTime) (offset : Int) : Text :=
  let minutes := (offset.natAbs + 30) / 60
  Decimal.padded 2 t.date.day ++ '/' :: (Date.monthName t.date.month).toList ++
    '/' :: Date.yearText t.date.year ++ ':' :: t.clock ++
    ' ' :: (if offset < 0 then '-' else '+') :: Decimal.padded 2 (minutes / 60) ++
    Decimal.padded 2 (minutes % 60)

end DateTime

example : (DateTime.mk ⟨2024, 5, 6⟩ 7 8 9).commonLog (-16229) =
    "06/May/2024:07:08:09 -0430".toList := by decide

namespace Instant

def second : Nat := 1000000000

/-- The reading of a clock that is `offset` seconds ahead of Greenwich. -/
def toLocal (i : Instant) (offset : Int) : DateTime :=
  let s := i.seconds + offset
  let ofDay := (s % 86400).toNat
  { date := Date.ofDays (s / 86400)
    hour := ofDay / 3600
    minute := ofDay / 60 % 60
    second := ofDay % 60 + i.nanos / second }

/-- The instant of a reading; its sixtieth second is the one before, prolonged. -/
def ofLocal (t : DateTime) (nanos : Nat) (offset : Int) : Instant :=
  let leap := 60 ≤ t.second
  { seconds := t.date.toDays * 86400 + t.hour * 3600 + t.minute * 60 +
      (if leap then 59 else t.second : Nat) - offset
    nanos := if leap then nanos + second else nanos }

end Instant

end HttpJournal
