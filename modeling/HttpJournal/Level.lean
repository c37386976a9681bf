import HttpJournal.Text.Blank
import HttpJournal.Json.Value

namespace HttpJournal

inductive Level where
  | emergency
  | alert
  | critical
  | error
  | warning
  | notice
  | info
  | debug
  deriving DecidableEq, Inhabited

structure UnknownLevel where
  name : String
  deriving DecidableEq

def UnknownLevel.message (e : UnknownLevel) : String := "unknown log level: " ++ e.name

namespace Level

/-- Most severe first. -/
def all : List Level := [emergency, alert, critical, error, warning, notice, info, debug]

def name : Level → String
  | emergency => "emergency"
  | alert => "alert"
  | critical => "critical"
  | error => "error"
  | warning => "warning"
  | notice => "notice"
  | info => "info"
  | debug => "debug"

def label (l : Level) : String := .ofList (l.name.toList.map Char.toUpper)

def moreSevere (l : Level) : List Level := all.takeWhile (· ≠ l)

/-- The level of a name in any case. -/
def ofName (s : String) : Except UnknownLevel Level :=
  match all.find? fun l => sameIgnoringCase l.name.toList s.toList with
  | some l => .ok l
  | none => .error ⟨s⟩

def ofExactName? (s : String) : Option Level := all.find? fun l => l.name == s

/-- A document names a level by its exact name, alone or as the one member of an object, with the
value `null`. -/
def ofJson? : Json.Value → Option Level
  | .string s => ofExactName? s
  | .object [(s, .null)] => ofExactName? s
  | _ => none

end Level

end HttpJournal
