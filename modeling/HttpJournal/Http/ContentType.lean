import HttpJournal.Http.Header
import HttpJournal.Text.Blank

namespace HttpJournal

namespace ContentType

def isQuoteOrBlank (c : Char) : Bool := c = '"' || c = '\'' || isBlank c

/-- The value of a parameter `charset`, without quotes and white space around it. -/
def charsetParameter? (param : Text) : Option Text := do
  let (name, value) ← Text.cutAt '=' param
  guard (sameIgnoringCase (Text.trim name) "charset".toList)
  return Text.strip isQuoteOrBlank value

/-- The first parameter `charset` of the first of the media types in a value, unless it is empty. -/
def charset? (value : Text) : Option Text :=
  let mediaType := value.takeWhile (· ≠ ',')
  (((Text.splitOnChar ';' mediaType).drop 1).findSome? charsetParameter?).filter (· ≠ [])

example : charset? "text/html; Charset=\"Big5\"".toList = some "Big5".toList := by decide

end ContentType

def Headers.charset? (h : Headers) : Option Text := do
  let value ← (h.values .contentType).head?
  ContentType.charset? (Utf8.decode value.octets)

end HttpJournal
