import HttpJournal.Text.Utf8

namespace HttpJournal

def isTokenChar (c : Char) : Bool := c.isAlphanum || "!#$%&'*+-.^_`|~".toList.contains c

def isToken (t : Text) : Bool := !t.isEmpty && t.all isTokenChar

/-- A method; case matters. -/
structure Method where
  name : String
  valid : isToken name.toList
  deriving DecidableEq

def Method.ofName? (name : String) : Option Method :=
  if h : isToken name.toList then some ⟨name, h⟩ else none

end HttpJournal
