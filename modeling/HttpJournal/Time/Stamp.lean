import HttpJournal.Number.Word
import HttpJournal.Text.Blank
import HttpJournal.Time.Civil

namespace HttpJournal.Stamp

inductive Error where
  | outOfRange
  | invalid
  | tooShort
  | tooLong
  deriving DecidableEq

def Error.message : Error → String
  | .outOfRange => "input is out of range"
  | .invalid => "input contains invalid characters"
  | .tooShort => "premature end of input"
  | .tooLong => "trailing input"

abbrev Read (α : Type) := Text → Except Error (α × Text)

def one (c : Char) : Read Unit
  | [] => .error .tooShort
  | d :: rest => if d = c then .ok ((), rest) else .error .invalid

/-- Exactly `n` more digits after a number. -/
def digits : Nat → Nat → Read Nat
  | 0, acc, t => .ok (acc, t)
  | _ + 1, _, [] => .error .tooShort
  | n + 1, acc, c :: rest =>
    if c.isDigit then digits n (10 * acc + Decimal.digit c) rest else .error .invalid

def check (ok : Bool) : Except Error Unit := if ok then .ok () else .error .outOfRange

def date : Read Date := fun t => do
  let (year, t) ← digits 4 0 t
  let ((), t) ← one '-' t
  let (month, t) ← digits 2 0 t
  let ((), t) ← one '-' t
  let (day, t) ← digits 2 0 t
  let d : Date := ⟨year, month, day⟩
  check d.isValid
  return (d, t)

/-- Two digits each for hour, minute and second, in range or not. -/
def clock (d : Date) : Read DateTime := fun t => do
  let (hour, t) ← digits 2 0 t
  let ((), t) ← one ':' t
  let (minute, t) ← digits 2 0 t
  let ((), t) ← one ':' t
  let (second, t) ← digits 2 0 t
  return (⟨d, hour, minute, second⟩, t)

/-- Nanoseconds of a fraction: nine digits count, further ones are passed over. -/
def fraction : Read Nat
  | '.' :: t =>
    let ds := t.takeWhile Char.isDigit
    if ds.isEmpty then .error (if t.isEmpty then .tooShort else .invalid)
    else
      let used := ds.take 9
      .ok (Decimal.value used * tenTo (9 - used.length), t.dropWhile Char.isDigit)
  | t => .ok (0, t)

/-- Two digits; a text of one octet is too short whatever it is. -/
def twoDigits : Read Nat
  | a :: b :: rest =>
    if a.isDigit && b.isDigit then .ok (Decimal.value [a, b], rest) else .error .invalid
  | [a] => .error (if a.toNat < 0x80 then .tooShort else .invalid)
  | [] => .error .tooShort

def maxOffset : Nat := (23 * 60 + 59) * 60

/-- `Z`, or a sign, hours, a colon and minutes; the sign may be U+2212. -/
def offset : Read Int
  | [] => .error .tooShort
  | c :: t =>
    if c = 'Z' ∨ c = 'z' then .ok (0, t)
    else if c = '+' ∨ c = '-' ∨ c = '\u2212' then do
      let (hours, t) ← twoDigits t
      let ((), t) ← one ':' t
      let (minutes, t) ← twoDigits t
      check (minutes ≤ 59)
      let seconds : Int := hours * 3600 + minutes * 60
      return (if c = '+' then seconds else -seconds, t)
    else .error .invalid

def separator : Read Unit
  | [] => .error .tooShort
  | c :: t => if c = 'T' ∨ c = 't' ∨ c = ' ' then .ok ((), t) else .error .invalid

/-- What is shorter than a date and a time is refused before it is looked at. The time of day is
checked after its fraction is read, and the size of the offset when nothing is left. -/
def rfc3339 (t : Text) : Except Error Instant := do
  if (Utf8.encode t).length < 19 then throw .tooShort
  let (d, t) ← date t
  let ((), t) ← separator t
  let (time, t) ← clock d t
  let (nanos, t) ← fraction t
  check time.hasValidClock
  let (off, t) ← offset t
  if !t.isEmpty then throw .tooLong
  check (off.natAbs ≤ maxOffset)
  return Instant.ofLocal time nanos off

def utcText (i : Instant) : Text :=
  let t := i.toLocal 0
  t.date.text ++ 'T' :: t.clock ++ ['+', '0', '0', ':', '0', '0']

/-- After white space, one to `width` digits. -/
def lenient (width : Nat) (t : Text) : Option (Nat × Text) :=
  let t := t.dropWhile isBlank
  let ds := (t.take width).takeWhile Char.isDigit
  if ds.isEmpty then none else some (Decimal.value ds, t.drop ds.length)

/-- A year: at most four digits, or any number of them after a sign. -/
def lenientYear (t : Text) : Option (Int × Text) :=
  match t.dropWhile isBlank with
  | [] => none
  | c :: rest =>
    if c = '-' ∨ c = '+' then
      let ds := rest.takeWhile Char.isDigit
      let n : Int := Decimal.value ds
      if ds.isEmpty then none
      else some (if c = '-' then -n else n, rest.dropWhile Char.isDigit)
    else (lenient 4 (c :: rest)).map fun (n, t) => (n, t)

def after (c : Char) : Text → Option Text
  | d :: rest => if d = c then some rest else none
  | [] => none

/-- A reading without an offset. White space may stand before each number, and between date and
time there may be any amount of it or none. -/
def plain? (t : Text) : Option DateTime := do
  let (year, t) ← lenientYear t
  let (month, t) ← lenient 2 (← after '-' t)
  let (day, t) ← lenient 2 (← after '-' t)
  let (hour, t) ← lenient 2 t
  let (minute, t) ← lenient 2 (← after ':' t)
  let (second, t) ← lenient 2 (← after ':' t)
  let reading : DateTime := ⟨⟨year, month, day⟩, hour, minute, second⟩
  if reading.date.isValid && reading.hasValidClock && t.isEmpty then some reading else none

end HttpJournal.Stamp
