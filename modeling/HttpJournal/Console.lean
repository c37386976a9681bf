import HttpJournal.Logger
import HttpJournal.Text.Quoted
import HttpJournal.Time.Stamp
import HttpJournal.Time.Zone

namespace HttpJournal

inductive Verbosity where
  | error
  | warn
  | info
  | debug
  | trace
  deriving DecidableEq

namespace Verbosity

def rank : Verbosity → Nat
  | error => 1
  | warn => 2
  | info => 3
  | debug => 4
  | trace => 5

def name : Verbosity → String
  | error => "error"
  | warn => "warn"
  | info => "info"
  | debug => "debug"
  | trace => "trace"

def label (v : Verbosity) : String := .ofList (v.name.toList.map Char.toUpper)

def all : List Verbosity := [error, warn, info, debug, trace]

/-- A limit by name in any case or by number; `off` shows nothing. -/
def limit? (setting : String) : Option (Option Verbosity) :=
  let t := setting.toList
  let number := if t ≠ [] ∧ t.all Char.isDigit then some (Decimal.value t) else none
  if sameIgnoringCase t "off".toList ∨ number = some 0 then some none
  else
    (all.find? fun v => sameIgnoringCase t v.name.toList || number == some v.rank).map some

end Verbosity

/-- The value of a field of a notice, shown as it is or in quotes. -/
inductive Shown where
  | text (s : String)
  | quoted (s : String)
  deriving DecidableEq

def Shown.string : Shown → String
  | .text s => s
  | .quoted s => inQuotes s

structure Notice where
  verbosity : Verbosity
  fields : List (String × Shown)
  deriving DecidableEq

namespace Notice

def plain (v : Verbosity) (message : String) : Notice := ⟨v, [("message", .text message)]⟩

def field? (n : Notice) (name : String) : Option String :=
  (n.fields.reverse.lookup name).map Shown.string

def severity (n : Notice) : String := (n.field? "severity").getD n.verbosity.label

def message (n : Notice) : String := (n.field? "message").getD ""

/-- The only fields that show are the message and a severity. -/
def text (stamp : Text) (n : Notice) : Text :=
  '[' :: stamp ++ ']' :: ' ' :: n.severity.toList ++ ':' :: ' ' :: n.message.toList

/-- The lines on the console; a line break in a message makes further ones. -/
def lines (stamp : Text) (n : Notice) : List Text := Text.splitOnChar '\n' (n.text stamp)

end Notice

def Level.verbosity : Level → Verbosity
  | .emergency | .alert | .critical | .error => .error
  | .warning => .warn
  | .notice | .info => .info
  | .debug => .debug

def Entry.notice (e : Entry) : Notice :=
  ⟨e.level.verbosity,
    [("channel", .text e.channel), ("severity", .text e.level.label), ("message", .text e.message)]⟩

/-- Date and time of day in a zone with six digits of the second. -/
def Zone.stamp (z : Zone) (i : Instant) : Text :=
  (z.toLocal i).text ++ '.' :: Decimal.padded 6 (i.nanos % Instant.second / 1000)

/-- What a console shows at most; nothing at all without a limit. -/
structure Console where
  limit : Option Verbosity
  deriving DecidableEq

namespace Console

/-- Without a setting, or with one that makes no sense, informative notices are shown; an empty
setting shows nothing. -/
def ofSetting : Option String → Console
  | none => ⟨some .info⟩
  | some s => if s = "" then ⟨none⟩ else ⟨(Verbosity.limit? s).getD (some .info)⟩

def shows (c : Console) (n : Notice) : Bool :=
  match c.limit with
  | some v => n.verbosity.rank ≤ v.rank
  | none => false

def lines (c : Console) (stamp : Text) (notices : List Notice) : List Text :=
  (notices.filter c.shows).flatMap fun n => n.lines stamp

/-- Notices that are told in turn, each under the stamp of its own moment. -/
def transcript (c : Console) (stamp : Nat → Text) (notices : List Notice) : List Text :=
  (notices.mapIdx fun i n => c.lines (stamp i) [n]).flatten

/-- A console is installed once; a second one is refused. -/
def install (installed : Option Console) (c : Console) : Option Console × Bool :=
  match installed with
  | none => (some c, true)
  | some d => (some d, false)

end Console

end HttpJournal
