import HttpJournal.Charset.Label
import HttpJournal.Http.ContentType
import HttpJournal.Json.Readable
import HttpJournal.Json.Writer
import HttpJournal.Record
import HttpJournal.Text.Quoted
import HttpJournal.Time.Stamp
import HttpJournal.Time.Zone

namespace HttpJournal

abbrev Line := List (String × String)

inductive LineError where
  | timestamp (value : Text) (cause : Stamp.Error)
  | unsupportedCharset (label : Text)
  deriving DecidableEq

def LineError.message : LineError → String
  | .timestamp value cause =>
    "cannot parse timestamp " ++ inQuotes (.ofList value) ++ ": " ++ cause.message
  | .unsupportedCharset label => "unsupported response charset: " ++ .ofList label

/-- A timestamp with an offset is moved into the zone; one without is taken to be in it already. -/
def Zone.localize (z : Zone) (t : Text) : Except LineError Text :=
  let t := Text.trim t
  match Stamp.rfc3339 t with
  | .ok i => .ok (z.toLocal i).text
  | .error cause =>
    match Stamp.plain? t with
    | some reading => .ok reading.text
    | none => .error (.timestamp t cause)

def defaultCharset : Text := "UTF-8".toList

/-- The charset in which a label has a body read. -/
def Charset.forBody? (label : Text) : Option Charset :=
  (ofLabel? (.ofList label)).filter (· ≠ replacement)

/-- A body in the charset that its headers name. -/
def Headers.decodeBody (h : Headers) (bs : Bytes) : Except LineError Text :=
  let label := h.charset?.getD defaultCharset
  match Charset.forBody? label with
  | some charset => .ok (charset.decode bs)
  | none => .error (.unsupportedCharset label)

namespace Line

/-- The text of a field. A response's headers say how its body is read; without a response the
field for its body is like any other. -/
def fieldText (z : Zone) (headers : Option Headers) (name : String) (bs : Bytes) :
    Except LineError Text :=
  match name, headers with
  | "time", _ => z.localize (Utf8.decode bs)
  | "req_body", _ => .ok (Json.readable (Utf8.decode bs))
  | "res_body", some h => do return Json.readable (← h.decodeBody bs)
  | _, _ => .ok (Utf8.decode bs)

def ofRecord (z : Zone) (headers : Option Headers) (r : Record) : Except LineError Line :=
  r.mapM fun (name, bs) => do return (name, .ofList (← fieldText z headers name bs))

def names (l : Line) : List String := l.map Prod.fst

def get? (l : Line) (name : String) : Option String := l.lookup name

def json (l : Line) : String :=
  .ofList (Json.Value.object (l.map fun (name, text) => (name, .string text))).text

end Line

end HttpJournal
