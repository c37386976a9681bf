import HttpJournal.Http.Token

namespace HttpJournal

def maxHeaderName : Nat := 65535

def isHeaderName (t : Text) : Bool :=
  isToken t && t.all (fun c => !c.isUpper) && t.length ≤ maxHeaderName

/-- A name in lower case. -/
structure HeaderName where
  name : String
  valid : isHeaderName name.toList
  deriving DecidableEq

namespace HeaderName

def ofName? (name : String) : Option HeaderName :=
  let low := String.ofList (name.toList.map Char.toLower)
  if h : isHeaderName low.toList then some ⟨low, h⟩ else none

def octets (n : HeaderName) : Bytes := Utf8.bytes n.name

def host : HeaderName := ⟨"host", by decide⟩

def setCookie : HeaderName := ⟨"set-cookie", by decide⟩

def contentType : HeaderName := ⟨"content-type", by decide⟩

end HeaderName

/-- All octets but controls other than the tab. -/
def isFieldOctet (b : UInt8) : Bool := b = 0x09 || (0x20 ≤ b && b ≠ 0x7F)

structure HeaderValue where
  octets : Bytes
  valid : octets.all isFieldOctet
  deriving DecidableEq

def HeaderValue.ofBytes? (bs : Bytes) : Option HeaderValue :=
  if h : bs.all isFieldOctet then some ⟨bs, h⟩ else none

abbrev Headers := List (HeaderName × HeaderValue)

namespace Headers

def append (h : Headers) (name : HeaderName) (value : HeaderValue) : Headers := h ++ [(name, value)]

def names (h : Headers) : List HeaderName := (h.map Prod.fst).eraseDups

def values (h : Headers) (name : HeaderName) : List HeaderValue :=
  (h.filter fun e => e.1 = name).map Prod.snd

def has (h : Headers) (name : HeaderName) : Bool := h.any fun e => e.1 = name

/-- All entries, those of a name together. -/
def grouped (h : Headers) : List (HeaderName × HeaderValue) :=
  h.names.flatMap fun n => (h.values n).map fun v => (n, v)

/-- All values of a name with `, ` between them. -/
def folded (h : Headers) (name : HeaderName) : Bytes :=
  List.intercalate (Utf8.bytes ", ") ((h.values name).map HeaderValue.octets)

end Headers

end HttpJournal
