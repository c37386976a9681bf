import HttpJournal.Time.Zone

namespace HttpJournal

/-- The first offset is the initial one. In `changes` each change is a capital letter, the place of
its offset among `offsets`, and the seconds since the change before in base 36; the first change is
counted from the start of 1800. -/
structure ZoneRow where
  name : String
  offsets : List Int
  changes : String
  summer : Option SummerTime

namespace ZoneRow

def start : Int := -5364662400

def base36 (c : Char) : Nat := if c.isDigit then c.toNat - 48 else c.toNat - 87

/-- Reads changes when `place` and `elapsed` are those of the change being read. -/
def readChanges (offsets : List Int) (since : Int) (place : Nat) (elapsed : Nat) :
    Text → List (Int × Int)
  | [] => [(since + elapsed, offsets.getD place 0)]
  | c :: rest =>
    if c.isUpper then
      (since + elapsed, offsets.getD place 0) ::
        readChanges offsets (since + elapsed) (c.toNat - 65) 0 rest
    else readChanges offsets since place (elapsed * 36 + base36 c) rest

def listed (row : ZoneRow) : List (Int × Int) :=
  match row.changes.toList with
  | [] => []
  | c :: rest => readChanges row.offsets start (c.toNat - 65) 0 rest

def toZone (row : ZoneRow) (name : String) : Zone where
  name := name
  initial := row.offsets.headD 0
  changes := row.listed ++ (row.summer.map SummerTime.changes).getD []

end ZoneRow

/-- Summer time by the European rule: one hour, from 01:00 UTC on the last Sunday of March to
01:00 UTC on the last Sunday of October. -/
def european (since : Nat) (standard : Int) : SummerTime :=
  ⟨since, ⟨3, 0, 25, 3600, standard + 3600⟩, ⟨10, 0, 25, 3600, standard⟩⟩

/-- Summer time by the North American rule: one hour, from the second Sunday of March to the first
of November, at two o'clock on the wall. -/
def northAmerican (since : Nat) (standard : Int) : SummerTime :=
  ⟨since, ⟨3, 0, 8, 7200 - standard, standard + 3600⟩, ⟨11, 0, 1, 3600 - standard, standard⟩⟩

/-- Summer time by the Australian rule: one hour, from the first Sunday of October to the first of
April, at two o'clock standard time. -/
def australian (since : Nat) (standard : Int) : SummerTime :=
  ⟨since, ⟨4, 0, 1, 7200 - standard, standard⟩, ⟨10, 0, 1, 7200 - standard, standard + 3600⟩⟩

end HttpJournal
