import HttpJournal.Number.Decimal

namespace HttpJournal

inductive UriForm where
  | asterisk
  /-- A path, which begins with a slash, and its query. -/
  | origin (target : Text)
  | authority (authority : Text)
  /-- The path may be empty, and then a query may follow at once. -/
  | absolute (scheme authority target : Text)
  deriving DecidableEq

namespace UriForm

def within (low high : Nat) (c : Char) : Bool := low ≤ c.toNat && c.toNat ≤ high

def isSchemeChar (c : Char) : Bool := c.isAlphanum || ['+', '-', '.', '~'].contains c

def isAuthorityChar (c : Char) : Bool := c.isAlphanum || "!$&'()*+,-.:;=@[]_~%".toList.contains c

/-- Besides what the grammar of paths has, some characters that clients send in practice. -/
def isPathChar (c : Char) : Bool :=
  c = '!' || within 0x24 0x3B c || c = '=' || within 0x40 0x5F c || within 0x61 0x7E c ||
    c = '"' || 0x80 ≤ c.toNat

def isQueryChar (c : Char) : Bool :=
  c = '!' || within 0x24 0x3B c || c = '=' || within 0x3F 0x7E c || 0x80 ≤ c.toNat

/-- What an authority has shown since the last `@`, or since the closing bracket. -/
structure Scan where
  colons : Nat
  opened : Bool
  closed : Bool
  percent : Bool

def maxColons : Nat := 8

def Scan.step (s : Scan) (c : Char) : Option Scan :=
  if !isAuthorityChar c then none
  else if c = ':' then if s.colons < maxColons then some { s with colons := s.colons + 1 } else none
  else if c = '[' then if s.percent || s.opened then none else some { s with opened := true }
  else if c = ']' then
    if s.opened && !s.closed then some { s with colons := 0, closed := true, percent := false }
    else none
  else if c = '@' then some { s with colons := 0, percent := false }
  else if c = '%' then some { s with percent := true }
  else some s

/-- User information before an `@`, a host, which may be in brackets, and a port after a colon.
Percent signs stand only in user information and in brackets. -/
def isAuthority (t : Text) : Bool :=
  match t.foldlM Scan.step ⟨0, false, false, false⟩ with
  | none => false
  | some s => s.opened == s.closed && s.colons ≤ 1 && !s.percent && t.getLast? ≠ some '@'

def endsAuthority (c : Char) : Bool := c = '/' || c = '?' || c = '#'

def dropFragment (t : Text) : Text := t.takeWhile (· ≠ '#')

/-- A path with its query, either of which may be empty. -/
def isTarget (t : Text) : Bool :=
  (t.takeWhile (· ≠ '?')).all isPathChar && ((t.dropWhile (· ≠ '?')).drop 1).all isQueryChar

def maxScheme : Nat := 64

def isScheme (t : Text) : Bool := t.all isSchemeChar && t.length ≤ maxScheme

def followsAuthority (t : Text) : Bool := t = [] || t.head? = some '/' || t.head? = some '?'

def isValid : UriForm → Bool
  | asterisk => true
  | origin t => t.head? = some '/' && isTarget t
  | authority a => !a.isEmpty && isAuthority a
  | absolute s a t =>
    isScheme s && !a.isEmpty && isAuthority a && followsAuthority t && isTarget t

/-- The scheme and what follows its `://`. -/
def cutScheme (t : Text) : Option (Text × Text) :=
  match t.dropWhile isSchemeChar with
  | ':' :: '/' :: '/' :: rest => some (t.takeWhile isSchemeChar, rest)
  | _ => none

def lowerKnown (scheme : Text) : Text :=
  let low := scheme.map Char.toLower
  if low = "http".toList ∨ low = "https".toList then low else scheme

def ofText (t : Text) : UriForm :=
  if t = ['*'] then asterisk
  else if t.head? = some '/' then origin (dropFragment t)
  else match cutScheme t with
    | none => authority t
    | some (scheme, rest) =>
      absolute (lowerKnown scheme) (rest.takeWhile fun c => !endsAuthority c)
        (dropFragment (rest.dropWhile fun c => !endsAuthority c))

/-- Path and query as they stand in a request line; a slash where there are none. -/
def target : UriForm → Text
  | asterisk => ['*']
  | origin t => t
  | authority _ => ['/']
  | absolute _ _ t => if t.isEmpty then ['/'] else t

/-- An absolute URI without a path is written with a slash for it. -/
def text : UriForm → Text
  | asterisk => ['*']
  | origin t => t
  | authority a => a
  | absolute scheme a t =>
    scheme ++ ':' :: '/' :: '/' :: a ++ (if t.head? = some '/' then t else '/' :: t)

def authority? : UriForm → Option Text
  | authority a | absolute _ a _ => some a
  | _ => none

/-- What follows the last occurrence of a character; the whole text where there is none. -/
def afterLast (c : Char) (t : Text) : Text := (t.reverse.takeWhile (· ≠ c)).reverse

/-- The host of an authority, with the brackets if it has them. -/
def hostOf (authority : Text) : Text :=
  let t := afterLast '@' authority
  if t.head? = some '[' then t.takeWhile (· ≠ ']') ++ [']'] else t.takeWhile (· ≠ ':')

/-- The number after the last colon, if it is one of 16 bits; a plus sign may stand before it. -/
def portOf (authority : Text) : Option Nat :=
  if !authority.contains ':' then none
  else
    let t := afterLast ':' authority
    let digits := if t.head? = some '+' then t.drop 1 else t
    if digits ≠ [] ∧ digits.all Char.isDigit ∧ Decimal.value digits < 65536 then
      some (Decimal.value digits)
    else none

/-- Host and port, as a `host` header names them; empty without an authority. -/
def hostAndPort (u : UriForm) : Text :=
  match u.authority? with
  | none => []
  | some a => hostOf a ++ match portOf a with
    | some port => ':' :: Decimal.ofNat port
    | none => []

end UriForm

example : (UriForm.ofText "HTTP://a?b#c".toList).text = "http://a/?b".toList := by decide

example : (UriForm.ofText "http://u@[::1]:080/".toList).hostAndPort = "[::1]:80".toList := by decide

/-- A fragment is dropped; nothing is decoded or normalised but the case of the schemes `http` and
`https`. -/
structure Uri where
  form : UriForm
  valid : form.isValid
  deriving DecidableEq

namespace Uri

def maxLength : Nat := 65534

def ofText? (t : Text) : Option Uri :=
  if maxLength < (Utf8.encode t).length then none
  else if h : (UriForm.ofText t).isValid then some ⟨UriForm.ofText t, h⟩
  else none

def target (u : Uri) : Text := u.form.target

def text (u : Uri) : Text := u.form.text

def hostAndPort (u : Uri) : Text := u.form.hostAndPort

end Uri

end HttpJournal
