import HttpJournal.Json.Writer
import HttpJournal.Text.Blank

namespace HttpJournal.Printf

open Json (Value Number)

inductive Error where
  /-- The position asked for, from 1, or 0 for one that names nothing; and how many there are. -/
  | missingArgument (position count : Nat)
  | unknownConversion (c : Char)
  | truncated
  deriving DecidableEq

def Error.message : Error → String
  | .missingArgument position count =>
    "format string references argument " ++ .ofList (Decimal.ofNat position) ++ " but only " ++
      .ofList (Decimal.ofNat count) ++ " were given"
  | .unknownConversion c => "unknown conversion specifier '%" ++ c.toString ++ "'"
  | .truncated => "missing conversion specifier at end of format string"

def asText : Value → Text
  | .null => []
  | .bool b => if b then ['1'] else []
  | .string s => s.toList
  | .number n => n.text
  | v => v.text

/-- The value of digits with an optional sign, zero when there is none or 64 bits do not hold it. -/
def signedInteger (t : Text) : Int :=
  let (negative, digits) := match t with
    | '-' :: r => (true, r)
    | '+' :: r => (false, r)
    | r => (false, r)
  let n : Int := Decimal.value digits
  let i := if negative then -n else n
  if -(signedLimit : Int) ≤ i ∧ i < signedLimit then i else 0

/-- The integer that a text begins with, after white space. -/
def leadingInteger (t : Text) : Int :=
  match t.dropWhile isBlank with
  | [] => 0
  | c :: rest =>
    if c = '-' ∨ c = '+' ∨ c.isDigit then signedInteger (c :: rest.takeWhile Char.isDigit) else 0

def asInteger : Value → Int
  | .number (.natural n) => if n < signedLimit then n else (Binary64.ofNat n).toInt64
  | .number (.negative n) => -(n : Int)
  | .number (.real x) => x.toInt64
  | .string s => leadingInteger s.toList
  | .bool b => if b then 1 else 0
  | _ => 0

def asReal : Value → Binary64
  | .number n => n.toBinary64
  | .string s => (Binary64.ofText? (Text.trim s.toList)).getD (.zero false)
  | .bool b => .ofNat (if b then 1 else 0)
  | _ => .zero false

def convert (args : List Value) (place : Nat) (conversion : Char) : Except Error Text :=
  match args[place]? with
  | none => .error (.missingArgument (place + 1) args.length)
  | some arg =>
    if conversion = 's' then .ok (asText arg)
    else if conversion = 'd' then .ok (Decimal.ofInt (asInteger arg))
    else if conversion = 'f' then .ok ((asReal arg).fixed 6)
    else .error (.unknownConversion conversion)

/-- A position is counted from 1; zero and what 64 bits do not hold name nothing. -/
def convertAt (args : List Value) (digits : Text) (conversion : Char) : Except Error Text :=
  let position := Decimal.value digits
  if position = 0 ∨ wordLimit ≤ position then .error (.missingArgument 0 args.length)
  else convert args (position - 1) conversion

def before (t : Text) : Except Error Text → Except Error Text
  | .ok rest => .ok (t ++ rest)
  | .error e => .error e

/-- One directive after its percent sign: what it writes, the count of sequential directives after
it, and the rest of the format. -/
def directive (args : List Value) (next : Nat) (t : Text) : Except Error (Text × Nat × Text) :=
  let digits := t.takeWhile Char.isDigit
  match t.dropWhile Char.isDigit with
  | [] => if digits.isEmpty then .error .truncated else .ok ('%' :: digits, next, [])
  | c :: rest =>
    if digits.isEmpty then
      if c = '%' then .ok (['%'], next, rest)
      else match convert args next c with
        | .ok s => .ok (s, next + 1, rest)
        | .error e => .error e
    else if c ≠ '$' then .ok ('%' :: digits, next, c :: rest)
    else match rest with
      | [] => .error .truncated
      | c :: rest =>
        if c = '%' then .ok (['%'], next, rest)
        else match convertAt args digits c with
          | .ok s => .ok (s, next, rest)
          | .error e => .error e

theorem length_of_directive {args : List Value} {next after : Nat} {t s rest : Text}
    (h : directive args next t = .ok (s, after, rest)) : rest.length ≤ t.length := by
  have hle := (List.dropWhile_sublist (p := Char.isDigit) (l := t)).length_le
  grind [directive]

/-- Writes a format from where `next` sequential directives have been passed. -/
def formatFrom (args : List Value) (next : Nat) (t : Text) : Except Error Text :=
  match t with
  | [] => .ok []
  | c :: t =>
    if c ≠ '%' then before [c] (formatFrom args next t)
    else match h : directive args next t with
      | .error e => .error e
      | .ok (s, next, rest) =>
        have : rest.length ≤ t.length := length_of_directive h
        before s (formatFrom args next rest)
  termination_by t.length

theorem formatFrom_directive {args : List Value} {next after : Nat} {t s rest : Text}
    (h : directive args next t = .ok (s, after, rest)) :
    formatFrom args next ('%' :: t) = before s (formatFrom args after rest) := by
  rw [formatFrom, if_neg (by decide)]
  split <;> simp_all

end HttpJournal.Printf

namespace HttpJournal

/-- `%s` writes an argument as text, `%d` as an integer, `%f` with six decimals and `%%` a percent
sign; `%2$s` names its argument by position and leaves the sequence of the others alone. -/
def sprintf (format : String) (args : List Json.Value) : Except Printf.Error String :=
  (Printf.formatFrom args 0 format.toList).map String.ofList

end HttpJournal
