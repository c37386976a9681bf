import HttpJournal.Http.Message
import HttpJournal.Time.Stamp
import HttpJournal.Time.Zone

namespace HttpJournal

structure Exchange where
  request : Request
  response : Option Response
  error : Option String
  deriving DecidableEq

/-- When the response was ready, or else when the request came in. -/
def Exchange.ended (e : Exchange) : Instant :=
  match e.response with
  | some r => r.time
  | none => e.request.time

/-- An exchange with the instant, the zone and the host at which it is looked at. -/
structure Context where
  exchange : Exchange
  now : Instant
  zone : Zone
  hostName : String

namespace Context

def absent : Bytes := Utf8.bytes "NULL"

def notLoggeable : Bytes := Utf8.bytes "RESPONSE_NOT_LOGGEABLE"

def ofRequest (f : Request → Bytes) (c : Context) : Bytes := f c.exchange.request

/-- What needs a response is `NULL` without one. -/
def ofResponse (f : Response → Bytes) (c : Context) : Bytes :=
  match c.exchange.response with
  | some r => f r
  | none => absent

def responseMessage (c : Context) : Bytes :=
  match c.exchange.response with
  | some r => r.message
  | none => []

def error (c : Context) : Bytes :=
  match c.exchange.error with
  | some message => Utf8.bytes message
  | none => absent

def utcTime (c : Context) : Bytes := Utf8.encode (Stamp.utcText c.now)

def commonLogTime (c : Context) : Bytes :=
  Utf8.encode ((c.zone.toLocal c.now).commonLog (c.zone.offsetAt c.now.seconds))

def method : Context → Bytes := ofRequest fun r => Utf8.bytes r.method.name

def uri : Context → Bytes := ofRequest fun r => Utf8.encode r.uri.text

def requestVersion : Context → Bytes := ofRequest fun r => Utf8.bytes r.version.text

def status : Context → Bytes := ofResponse fun r => Utf8.encode (Decimal.ofNat r.status.code)

def responseBody : Context → Bytes := ofResponse fun r => r.body.octets?.getD notLoggeable

def placeholders : List (String × (Context → Bytes)) := [
  ("request", ofRequest Request.message),
  ("response", responseMessage),
  ("req_headers", ofRequest fun r => r.toRequestHead.text),
  ("res_headers", ofResponse fun r => r.toResponseHead.text),
  ("req_body", ofRequest fun r => r.body.octets),
  ("res_body", responseBody),
  ("ts", utcTime),
  ("date_iso_8601", utcTime),
  ("date_common_log", commonLogTime),
  ("method", method),
  ("version", requestVersion),
  ("req_version", requestVersion),
  ("uri", uri),
  ("url", uri),
  ("target", ofRequest fun r => Utf8.encode r.uri.target),
  ("res_version", ofResponse fun r => Utf8.bytes r.version.text),
  ("host", ofRequest fun r => r.host),
  ("hostname", fun c => Utf8.bytes c.hostName),
  ("code", status),
  ("phrase", ofResponse fun r => Utf8.bytes r.status.phrase),
  ("error", error)]

/-- All values of a header; empty for what is no header name. -/
def headerLine (h : Headers) (name : Text) : Bytes :=
  match HeaderName.ofName? (.ofList name) with
  | some n => h.folded n
  | none => []

def rest? (start : String) (t : Text) : Option Text :=
  if start.toList.isPrefixOf t then some (t.drop start.length) else none

def header? (c : Context) (name : Text) : Option Bytes :=
  match rest? "req_header_" name, rest? "res_header_" name with
  | some n, _ => some (headerLine c.exchange.request.headers n)
  | none, some n => some (ofResponse (fun r => headerLine r.headers n) c)
  | none, none => none

/-- The value of a placeholder; none for a name without a meaning. -/
def resolve? (c : Context) (name : String) : Option Bytes :=
  match placeholders.lookup name with
  | some f => some (f c)
  | none => c.header? name.toList

end Context

end HttpJournal
