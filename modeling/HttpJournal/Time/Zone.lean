import HttpJournal.Time.Civil

namespace HttpJournal

/-- An offset from Greenwich that changes at given instants. By summer time it goes on changing up
to the end of 2099, and after that the last offset stays. -/
structure Zone where
  name : String
  initial : Int
  /-- The second from which an offset holds, in increasing order. -/
  changes : List (Int × Int)
  deriving DecidableEq

namespace Zone

def offsetFrom (current : Int) (second : Int) : List (Int × Int) → Int
  | [] => current
  | (start, offset) :: rest => if second < start then current else offsetFrom offset second rest

/-- The offset that holds at an instant, in seconds east of Greenwich. -/
def offsetAt (z : Zone) (second : Int) : Int := offsetFrom z.initial second z.changes

def toLocal (z : Zone) (i : Instant) : DateTime := i.toLocal (z.offsetAt i.seconds)

def greenwich (name : String) : Zone := ⟨name, 0, []⟩

end Zone

/-- A change on the first such weekday from a day of a month on; `second` is counted in UTC from
the start of that day. -/
structure YearlyChange where
  month : Nat
  weekday : Nat
  fromDay : Nat
  second : Int
  offset : Int

def YearlyChange.inYear (c : YearlyChange) (year : Int) : Int × Int :=
  let first := Date.toDays ⟨year, c.month, c.fromDay⟩
  let wait := (c.weekday + 7 - Date.weekday first) % 7
  ((first + wait) * 86400 + c.second, c.offset)

/-- Two changes a year, from a given year on. -/
structure SummerTime where
  since : Nat
  spring : YearlyChange
  autumn : YearlyChange

def lastChangingYear : Nat := 2099

def SummerTime.changes (s : SummerTime) : List (Int × Int) :=
  (List.range' s.since (lastChangingYear + 1 - s.since)).flatMap fun (year : Nat) =>
    [s.spring.inYear year, s.autumn.inYear year]

end HttpJournal
