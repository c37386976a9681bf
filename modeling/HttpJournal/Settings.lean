import HttpJournal.Json.Value
import HttpJournal.Logger
import HttpJournal.Text.Blank
import HttpJournal.Time.ZoneTable

namespace HttpJournal

structure Settings where
  zone : Zone
  deriving DecidableEq

structure UnknownZone where
  name : String
  deriving DecidableEq

def UnknownZone.message (e : UnknownZone) : String := "unknown time zone: " ++ e.name

namespace Settings

def standard : Settings := ⟨.greenwich "UTC"⟩

/-- White space around the name of a zone does not matter. -/
def ofZoneName (name : String) : Except UnknownZone Settings :=
  match Zone.find? (.ofList (Text.trim name.toList)) with
  | some z => .ok ⟨z⟩
  | none => .error ⟨name⟩

/-- From the value of an environment variable; one that is absent or not text does not count. -/
def ofEnvironment : Option Bytes → Except UnknownZone Settings
  | none => .ok standard
  | some bs =>
    let t := Utf8.decode bs
    if Utf8.encode t = bs then ofZoneName (.ofList t) else .ok standard

end Settings

namespace Json

/-- The members of a document that gives settings by name, or in the order of `names` and without
the last ones. -/
def Value.settings? (names : List String) : Value → Option (List (String × Value))
  | .object members => some members
  | .array items => if items.length ≤ names.length then some (names.zip items) else none
  | _ => none

def setting? {α : Type} (members : List (String × Value)) (name : String) (default : α)
    (read? : Value → Option α) : Option α :=
  match members.lookup name with
  | some v => read? v
  | none => some default

def Value.bool? : Value → Option Bool
  | .bool b => some b
  | _ => none

def Value.string? : Value → Option String
  | .string s => some s
  | _ => none

/-- A natural number, or `null` for none. -/
def Value.limit? : Value → Option (Option Nat)
  | .null => some none
  | .number (.natural n) => some (some n)
  | _ => none

end Json

open Json (setting?)

def Settings.ofJson? (v : Json.Value) : Option Settings := do
  let members ← v.settings? ["timezone"]
  let zone ← setting? members "timezone" standard.zone fun v => v.string?.bind Zone.find?
  return ⟨zone⟩

/-- Which bodies are kept, up to which size, and the channel for exchanges. -/
structure CaptureSettings where
  requestBody : Bool
  responseBody : Bool
  maxOctets : Option Nat
  channel : String
  deriving DecidableEq

namespace CaptureSettings

def standard : CaptureSettings := ⟨true, true, none, mainChannel⟩

def names : List String :=
  ["capture_request_body", "capture_response_body", "max_body_bytes", "channel"]

def ofJson? (v : Json.Value) : Option CaptureSettings := do
  let members ← v.settings? names
  return {
    requestBody := ← setting? members "capture_request_body" standard.requestBody (·.bool?)
    responseBody := ← setting? members "capture_response_body" standard.responseBody (·.bool?)
    maxOctets := ← setting? members "max_body_bytes" standard.maxOctets (·.limit?)
    channel := ← setting? members "channel" standard.channel (·.string?) }

end CaptureSettings

end HttpJournal
