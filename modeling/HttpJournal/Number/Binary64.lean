import HttpJournal.Number.Decimal
import HttpJournal.Number.Word

namespace HttpJournal

/-- Binary floating point of 64 bits: a sign, a significand below 2^53 and a power of two.
Operations round the exact result to the nearest number, a tie to the even significand. -/
inductive Binary64 where
  | finite (negative : Bool) (significand : Nat) (exponent : Int)
  | infinite (negative : Bool)
  | nan
  deriving DecidableEq, Inhabited

namespace Binary64

def roundHalfEven (num den : Nat) : Nat :=
  let q := num / den
  let r := num % den
  if 2 * r < den then q else if den < 2 * r then q + 1 else q + q % 2

def zero (negative : Bool) : Binary64 := .finite negative 0 (-1074)

/-- The fraction `num / den * 2 ^ k`. -/
def scaled (num den : Nat) (k : Int) : Nat × Nat :=
  if 0 ≤ k then (num * twoTo k.toNat, den) else (num, den * twoTo (-k).toNat)

/-- The exponent at which the magnitude `num / den * 2 ^ shift` has a significand of 53 bits, or
the least exponent when that is greater. -/
def exponentFor (num den : Nat) (shift : Int) : Int :=
  let e := (Nat.log2 num : Int) - Nat.log2 den + shift - 53
  let (a, b) := scaled num den (shift - e)
  max (if twoTo 53 * b ≤ a then e + 1 else e) (-1074)

/-- The number nearest to `± num / den * 2 ^ shift`. -/
def nearest (negative : Bool) (num den : Nat) (shift : Int) : Binary64 :=
  if num = 0 then zero negative
  else
    let e := exponentFor num den shift
    let (a, b) := scaled num den (shift - e)
    let m := roundHalfEven a b
    let (m, e) := if m = twoTo 53 then (twoTo 52, e + 1) else (m, e)
    if 971 < e then .infinite negative else .finite negative m e

def ofNat (n : Nat) : Binary64 := nearest false n 1 0

def ofPowerOfTen (k : Nat) : Binary64 := ofNat (tenTo k)

def negate : Binary64 → Binary64
  | .finite s m e => .finite (!s) m e
  | .infinite s => .infinite (!s)
  | .nan => .nan

def isZero : Binary64 → Bool
  | .finite _ m _ => m == 0
  | _ => false

def isNegative : Binary64 → Bool
  | .finite s _ _ | .infinite s => s
  | .nan => false

def mul : Binary64 → Binary64 → Binary64
  | .finite s m e, .finite t n f => nearest (s != t) (m * n) 1 (e + f)
  | .nan, _ | _, .nan => .nan
  | x, y => if x.isZero || y.isZero then .nan else .infinite (x.isNegative != y.isNegative)

def div : Binary64 → Binary64 → Binary64
  | .finite s m e, .finite t n f =>
    if n = 0 then (if m = 0 then .nan else .infinite (s != t)) else nearest (s != t) m n (e - f)
  | .infinite s, .finite t _ _ => .infinite (s != t)
  | .finite s _ _, .infinite t => zero (s != t)
  | _, _ => .nan

/-- The number nearest to `± coefficient * 10 ^ exponent`; exponents out of every range are
settled without the power. -/
def ofDecimal (negative : Bool) (coefficient : Nat) (exponent : Int) : Binary64 :=
  if coefficient = 0 then zero negative
  else
    let digits : Int := (Decimal.ofNat coefficient).length
    if 310 < digits + exponent then .infinite negative
    else if digits + exponent < -330 then zero negative
    else if 0 ≤ exponent then nearest negative (coefficient * tenTo exponent.toNat) 1 0
    else nearest negative coefficient (tenTo (-exponent).toNat) 0

/-- The integer next to the number on the side of zero, held inside the range of 64-bit signed
integers; not-a-number gives zero. -/
def toInt64 : Binary64 → Int
  | .finite s m e =>
    let magnitude := if 0 ≤ e then m * twoTo e.toNat else m / twoTo (-e).toNat
    if s then -(min magnitude signedLimit : Nat) else (min magnitude (signedLimit - 1) : Nat)
  | .infinite s => if s then -signedLimit else (signedLimit - 1 : Nat)
  | .nan => 0

def signed (negative : Bool) (t : Text) : Text := if negative then '-' :: t else t

/-- The number with a fixed count of decimal places; a half goes to the even neighbour. -/
def fixed (places : Nat) : Binary64 → Text
  | .finite s m e =>
    let (a, b) := scaled (m * tenTo places) 1 e
    let n := roundHalfEven a b
    signed s (Decimal.ofNat (n / tenTo places) ++
      (if places = 0 then [] else '.' :: Decimal.padded places (n % tenTo places)))
  | .infinite s => signed s ['i', 'n', 'f']
  | .nan => ['N', 'a', 'N']

def ofWord (t : Text) : Option Binary64 :=
  match t.map Char.toLower with
  | ['i', 'n', 'f'] | ['i', 'n', 'f', 'i', 'n', 'i', 't', 'y'] => some (.infinite false)
  | ['n', 'a', 'n'] => some .nan
  | _ => none

/-- The value of an exponent part, or nothing when it has no digit or does not end the text. -/
def exponentPart : Text → Option Int
  | [] => some 0
  | c :: rest =>
    if c = 'e' ∨ c = 'E' then
      let (negative, rest) := match rest with
        | '-' :: r => (true, r)
        | '+' :: r => (false, r)
        | r => (false, r)
      let (ds, rest) := Decimal.span rest
      if ds.isEmpty || !rest.isEmpty then none
      else some (if negative then -(Decimal.value ds : Int) else Decimal.value ds)
    else none

/-- An unsigned numeral: digits with at most one point among or beside them, and an exponent. -/
def ofNumeral (negative : Bool) (t : Text) : Option Binary64 :=
  let (whole, rest) := Decimal.span t
  let (fraction, rest) := match rest with
    | '.' :: r => Decimal.span r
    | r => ([], r)
  if whole.isEmpty && fraction.isEmpty then none
  else (exponentPart rest).map fun e =>
    ofDecimal negative (Decimal.value (whole ++ fraction)) (e - fraction.length)

def ofUnsigned (negative : Bool) (t : Text) : Option Binary64 :=
  match ofWord t with
  | some x => some (if negative then x.negate else x)
  | none => ofNumeral negative t

/-- Reads a decimal numeral, `inf`, `infinity` or `nan`, with an optional sign. -/
def ofText? : Text → Option Binary64
  | '-' :: t => ofUnsigned true t
  | '+' :: t => ofUnsigned false t
  | t => ofUnsigned false t

end Binary64

end HttpJournal
