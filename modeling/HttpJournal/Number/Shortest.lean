import HttpJournal.Number.Binary64

namespace HttpJournal.Shortest

/-- Where a positive number stands between its neighbours, in quarters of its last place: the
reals that round to it reach from `low` to `high`, ends included when `closed`. -/
structure Interval where
  low : Nat
  mid : Nat
  high : Nat
  exponent : Int
  closed : Bool

/-- Below a power of two the neighbours are twice as dense. -/
def interval (m : Nat) (e : Int) : Interval where
  low := if m = twoTo 52 ∧ -1074 < e then 4 * m - 1 else 4 * m - 2
  mid := 4 * m
  high := 4 * m + 2
  exponent := e - 2
  closed := m % 2 == 0

/-- Factors that compare `d * 10 ^ k` with `u * 2 ^ e` as `d * p` with `u * q`. -/
def factors (k e : Int) : Nat × Nat :=
  (tenTo k.toNat * twoTo (-e).toNat, twoTo e.toNat * tenTo (-k).toNat)

/-- The point nearest to the middle among the multiples of `10 ^ k` inside the interval. -/
def hit (i : Interval) (k : Int) : Option Nat :=
  let (p, q) := factors k i.exponent
  let d := i.mid * q / p
  let above := if i.closed then d * p ≥ i.low * q else d * p > i.low * q
  let below := if i.closed then (d + 1) * p ≤ i.high * q else (d + 1) * p < i.high * q
  if above ∧ below then
    let down := i.mid * q - d * p
    let up := (d + 1) * p - i.mid * q
    some (if down < up ∨ (down = up ∧ d % 2 = 0) then d else d + 1)
  else if above then some d
  else if below then some (d + 1)
  else none

def search (i : Interval) : Nat → Int → Nat × Int
  | 0, k => (0, k)
  | fuel + 1, k =>
    match hit i k with
    | some d => (d, k)
    | none => search i fuel (k - 1)

/-- Coefficient and power of ten: of the decimals that round to a number those with the largest
power, and of these the nearest. The search begins above the number, and seventeen digits are always
enough. -/
def decimal (m : Nat) (e : Int) : Nat × Int :=
  search (interval m e) 24 ((Nat.log2 m + e + 1) * 30103 / 100000 + 2)

end HttpJournal.Shortest
