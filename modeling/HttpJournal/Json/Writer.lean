import HttpJournal.Number.Shortest
import HttpJournal.Json.Value

namespace HttpJournal.Json

def lowerHex (n : Nat) : Char := "0123456789abcdef".toList.getD (n % 16) '0'

def escape (c : Char) : Text :=
  match c with
  | '"' => ['\\', '"']
  | '\\' => ['\\', '\\']
  | '\n' => ['\\', 'n']
  | '\r' => ['\\', 'r']
  | '\t' => ['\\', 't']
  | '\x08' => ['\\', 'b']
  | '\x0c' => ['\\', 'f']
  | c =>
    if c.toNat < 0x20 then ['\\', 'u', '0', '0', lowerHex (c.toNat / 16), lowerHex c.toNat]
    else [c]

def escaped (t : Text) : Text := t.flatMap escape

def quoted (t : Text) : Text := '"' :: escaped t ++ ['"']

/-- The digits of a positive number with a point or an exponent. -/
def realDigits (digits : Text) (power : Int) : Text :=
  let e := power + digits.length - 1
  if 0 ≤ e ∧ e < 16 then
    let whole := e.toNat + 1
    let fraction := digits.drop whole
    digits.take whole ++ List.replicate (whole - digits.length) '0' ++
      '.' :: (if fraction.isEmpty then ['0'] else fraction)
  else if -5 ≤ e ∧ e < 0 then
    '0' :: '.' :: List.replicate (-e - 1).toNat '0' ++ digits
  else
    let mantissa := match digits with
      | d :: rest => d :: (if rest.isEmpty then [] else '.' :: rest)
      | [] => []
    mantissa ++ 'e' :: (if e < 0 then '-' else '+') :: Decimal.ofNat e.natAbs

def realText : Binary64 → Text
  | .finite negative m e =>
    Binary64.signed negative <|
      if m = 0 then ['0', '.', '0']
      else let (d, k) := Shortest.decimal m e; realDigits (Decimal.ofNat d) k
  | _ => ['n', 'u', 'l', 'l']

def Number.text : Number → Text
  | .natural n => Decimal.ofNat n
  | .negative n => '-' :: Decimal.ofNat n
  | .real x => realText x

def commaSeparated : List Text → Text
  | [] => []
  | [t] => t
  | t :: rest => t ++ ',' :: commaSeparated rest

mutual

/-- No white space, and an escape only where a character needs one. -/
def Value.text : Value → Text
  | .null => ['n', 'u', 'l', 'l']
  | .bool true => ['t', 'r', 'u', 'e']
  | .bool false => ['f', 'a', 'l', 's', 'e']
  | .number n => n.text
  | .string s => quoted s.toList
  | .array items => '[' :: commaSeparated (itemTexts items) ++ [']']
  | .object members => '{' :: commaSeparated (memberTexts members) ++ ['}']

def itemTexts : List Value → List Text
  | [] => []
  | v :: rest => v.text :: itemTexts rest

def memberTexts : List (String × Value) → List Text
  | [] => []
  | (name, v) :: rest => (quoted name.toList ++ ':' :: v.text) :: memberTexts rest

end

example : realText (.ofNat 1) = "1.0".toList := by decide +kernel

example : realText (.ofPowerOfTen 16) = "1e+16".toList := by decide +kernel

example : realText (.finite false 1 (-1074)) = "5e-324".toList := by decide +kernel

end HttpJournal.Json
