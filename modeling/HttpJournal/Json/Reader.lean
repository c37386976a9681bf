import HttpJournal.Assoc
import HttpJournal.Json.Value

namespace HttpJournal.Json

def isSpace (c : Char) : Bool := c = ' ' || c = '\n' || c = '\t' || c = '\r'

def skip (t : Text) : Text := t.dropWhile isSpace

def hexDigit? (c : Char) : Option Nat :=
  if '0' ≤ c ∧ c ≤ '9' then some (c.toNat - 48)
  else if 'a' ≤ c ∧ c ≤ 'f' then some (c.toNat - 87)
  else if 'A' ≤ c ∧ c ≤ 'F' then some (c.toNat - 55)
  else none

def codeUnit? (a b c d : Char) : Option Nat := do
  let a ← hexDigit? a
  let b ← hexDigit? b
  let c ← hexDigit? c
  let d ← hexDigit? d
  return ((a * 16 + b) * 16 + c) * 16 + d

def isHighSurrogate (n : Nat) : Bool := 0xD800 ≤ n && n ≤ 0xDBFF

def isLowSurrogate (n : Nat) : Bool := 0xDC00 ≤ n && n ≤ 0xDFFF

def joinSurrogates (high low : Nat) : Char :=
  Char.ofNat (0x10000 + (high - 0xD800) * 0x400 + (low - 0xDC00))

def simpleEscape? : Char → Option Char
  | '"' => some '"'
  | '\\' => some '\\'
  | '/' => some '/'
  | 'b' => some '\x08'
  | 'f' => some '\x0c'
  | 'n' => some '\n'
  | 'r' => some '\r'
  | 't' => some '\t'
  | _ => none

def consTo (c : Char) : Option (Text × Text) → Option (Text × Text)
  | some (t, rest) => some (c :: t, rest)
  | none => none

/-- The characters of a string up to its closing quote, and what follows. -/
def stringBody : Text → Option (Text × Text)
  | [] => none
  | '"' :: rest => some ([], rest)
  | '\\' :: 'u' :: a :: b :: c :: d :: rest =>
    match codeUnit? a b c d with
    | none => none
    | some n =>
      if isLowSurrogate n then none
      else if isHighSurrogate n then
        match rest with
        | '\\' :: 'u' :: a :: b :: c :: d :: rest =>
          match codeUnit? a b c d with
          | some m =>
            if isLowSurrogate m then consTo (joinSurrogates n m) (stringBody rest) else none
          | none => none
        | _ => none
      else consTo (Char.ofNat n) (stringBody rest)
  | '\\' :: c :: rest =>
    match simpleEscape? c with
    | some e => consTo e (stringBody rest)
    | none => none
  | c :: rest => if c.toNat < 0x20 then none else consTo c (stringBody rest)

/-- Appends digits to a significand as long as 64 bits hold it: the significand, how many digits
were taken, and the rest. -/
def takeDigits (s taken : Nat) : Text → Nat × Nat × Text
  | [] => (s, taken, [])
  | c :: rest =>
    if c.isDigit ∧ 10 * s + Decimal.digit c < wordLimit then
      takeDigits (10 * s + Decimal.digit c) (taken + 1) rest
    else (s, taken, c :: rest)

/-- Divides by powers of ten that floating point holds, until the number has vanished. -/
def shrink (x : Binary64) (k : Nat) : Binary64 :=
  if k ≤ 308 then x.div (.ofPowerOfTen k)
  else if x.isZero then x
  else shrink (x.div (.ofPowerOfTen 308)) (k - 308)
  termination_by k

/-- `s * 10 ^ e`, first the significand rounded and then the product; nothing when it is too
large. -/
def real? (negative : Bool) (s : Nat) (e : Int) : Option Number :=
  let sign (x : Binary64) := Number.real (if negative then x.negate else x)
  let x := Binary64.ofNat s
  if e < 0 then some (sign (shrink x e.natAbs))
  else if 308 < e then (if x.isZero then some (sign x) else none)
  else match x.mul (.ofPowerOfTen e.toNat) with
    | .infinite _ => none
    | y => some (sign y)

def beginsWithDigit : Text → Bool
  | c :: _ => c.isDigit
  | [] => false

def exponentOf (negative : Bool) (s : Nat) (e : Int) (t : Text) : Option (Number × Text) :=
  let (down, t) := match t with
    | '+' :: r => (false, r)
    | '-' :: r => (true, r)
    | r => (false, r)
  if beginsWithDigit t then
    let (ds, rest) := Decimal.span t
    let k : Int := Decimal.value ds
    (real? negative s (if down then e - k else e + k)).map (·, rest)
  else none

/-- A number from its fraction on. Digits past the 64 bits of the significand are dropped. -/
def fractionOf (negative : Bool) (s : Nat) (e : Int) (t : Text) : Option (Number × Text) :=
  if beginsWithDigit t then
    let (s, taken, t) := takeDigits s 0 t
    let e := e - taken
    match (Decimal.span t).2 with
    | 'e' :: r | 'E' :: r => exponentOf negative s e r
    | r => (real? negative s e).map (·, r)
  else none

/-- An integer held exactly; minus zero and what exceeds 63 bits below zero are floating point. -/
def integer (negative : Bool) (n : Nat) : Number :=
  if negative then
    if 0 < n ∧ n ≤ signedLimit then .negative n else .real (Binary64.ofNat n).negate
  else .natural n

/-- A number without its sign. Whole digits past the 64 bits of the significand only raise the
exponent. -/
def number (negative : Bool) (t : Text) : Option (Number × Text) :=
  let leadingZero : Bool := match t with
    | '0' :: r => beginsWithDigit r
    | _ => false
  if !beginsWithDigit t || leadingZero then none
  else
    let (s, _, t) := takeDigits 0 0 t
    let (extra, t) := Decimal.span t
    match t with
    | '.' :: r => fractionOf negative s extra.length r
    | 'e' :: r | 'E' :: r => exponentOf negative s extra.length r
    | r =>
      if extra.isEmpty then some (integer negative s, r)
      else (real? negative s extra.length).map (·, r)

def scalar : Text → Option (Value × Text)
  | 'n' :: 'u' :: 'l' :: 'l' :: rest => some (.null, rest)
  | 't' :: 'r' :: 'u' :: 'e' :: rest => some (.bool true, rest)
  | 'f' :: 'a' :: 'l' :: 's' :: 'e' :: rest => some (.bool false, rest)
  | '"' :: rest => (stringBody rest).map fun (t, rest) => (.string (.ofList t), rest)
  | '-' :: rest => (number true rest).map fun (n, rest) => (.number n, rest)
  | t => (number false t).map fun (n, rest) => (.number n, rest)

/-- One or more items between commas, up to the closing bracket. -/
def itemsTo {α : Type} (close : Char) (item : Text → Option (α × Text)) :
    Nat → Text → Option (List α × Text)
  | 0, _ => none
  | fuel + 1, t =>
    match item t with
    | none => none
    | some (x, t) =>
      match skip t with
      | [] => none
      | c :: rest =>
        if c = close then some ([x], rest)
        else if c = ',' then (itemsTo close item fuel rest).map fun (xs, rest) => (x :: xs, rest)
        else none

def bracketed {α : Type} (close : Char) (item : Text → Option (α × Text)) (t : Text) :
    Option (List α × Text) :=
  match skip t with
  | [] => none
  | c :: rest => if c = close then some ([], rest) else itemsTo close item t.length t

def member (value : Text → Option (Value × Text)) (t : Text) :
    Option ((String × Value) × Text) :=
  match skip t with
  | '"' :: rest =>
    match stringBody rest with
    | none => none
    | some (name, rest) =>
      match skip rest with
      | ':' :: rest => (value rest).map fun (v, rest) => ((.ofList name, v), rest)
      | _ => none
  | _ => none

/-- A value in which arrays and objects nest at most `depth` deep. -/
def value : Nat → Text → Option (Value × Text)
  | 0, t => scalar (skip t)
  | depth + 1, t =>
    match skip t with
    | '[' :: rest => (bracketed ']' (value depth) rest).map fun (xs, rest) => (.array xs, rest)
    | '{' :: rest =>
      (bracketed '}' (member (value depth)) rest).map fun (ms, rest) =>
        (.object (Assoc.ofList ms), rest)
    | t => scalar t

def maxDepth : Nat := 127

/-- One value with white space around it. A repeated key keeps its first place and takes the last
value. -/
def read? (t : Text) : Option Value :=
  match value maxDepth t with
  | some (v, rest) => if (skip rest).isEmpty then some v else none
  | none => none

end HttpJournal.Json
