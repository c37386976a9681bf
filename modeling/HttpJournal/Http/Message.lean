import HttpJournal.Http.Header
import HttpJournal.Http.Status
import HttpJournal.Http.Uri
import HttpJournal.Time.Civil

namespace HttpJournal

inductive Body where
  | kept (octets : Bytes)
  | notKept
  deriving DecidableEq

def Body.octets? : Body → Option Bytes
  | .kept bs => some bs
  | .notKept => none

/-- The octets of a body that was kept, and none otherwise. -/
def Body.octets (b : Body) : Bytes := b.octets?.getD []

structure RequestHead where
  method : Method
  uri : Uri
  version : Version
  headers : Headers
  deriving DecidableEq

structure ResponseHead where
  status : Status
  version : Version
  headers : Headers
  deriving DecidableEq

structure Request extends RequestHead where
  id : UInt64
  /-- When it came in. -/
  time : Instant
  body : Body
  deriving DecidableEq

structure Response extends ResponseHead where
  /-- That of the request. -/
  id : UInt64
  /-- When its head was ready. -/
  time : Instant
  body : Body
  deriving DecidableEq

def crlf : Bytes := [0x0D, 0x0A]

def colonSpace : Bytes := Utf8.bytes ": "

namespace Headers

def line (h : Headers) (name : HeaderName) : Bytes := name.octets ++ colonSpace ++ h.folded name

def block (h : Headers) : Bytes := List.intercalate crlf (h.names.map h.line)

/-- The lines of a name in a message. Values of `set-cookie` cannot share a line. -/
def wireLines (h : Headers) (name : HeaderName) : List Bytes :=
  if name = .setCookie then (h.values name).map fun v => name.octets ++ colonSpace ++ v.octets
  else [h.line name]

/-- All lines of a message, each after a line break. -/
def wire (h : Headers) : Bytes := (h.names.flatMap h.wireLines).flatMap (crlf ++ ·)

end Headers

namespace RequestHead

def startLine (r : RequestHead) : Bytes :=
  Utf8.encode (r.method.name.toList ++ ' ' :: r.uri.target) ++
    Utf8.bytes (" HTTP/" ++ r.version.text)

def text (r : RequestHead) : Bytes := r.startLine ++ crlf ++ r.headers.block

/-- The values of the `host` header, or else what the URI says. -/
def host (r : RequestHead) : Bytes :=
  if r.headers.has .host then r.headers.folded .host else Utf8.encode r.uri.hostAndPort

/-- A request without a `host` header is written with one. -/
def hostLine (r : RequestHead) : Bytes :=
  if r.headers.has .host then []
  else crlf ++ HeaderName.host.octets ++ colonSpace ++ Utf8.encode r.uri.hostAndPort

end RequestHead

def Request.message (r : Request) : Bytes :=
  r.startLine ++ r.hostLine ++ r.headers.wire ++ crlf ++ crlf ++ r.body.octets

namespace ResponseHead

def startLine (r : ResponseHead) : Bytes :=
  Utf8.bytes ("HTTP/" ++ r.version.text ++ " ") ++ Utf8.encode (Decimal.ofNat r.status.code) ++
    Utf8.bytes (" " ++ r.status.phrase)

def text (r : ResponseHead) : Bytes := r.startLine ++ crlf ++ r.headers.block

end ResponseHead

def Response.message (r : Response) : Bytes :=
  r.startLine ++ r.headers.wire ++ crlf ++ crlf ++ r.body.octets

end HttpJournal
