import HttpJournal.Number.Binary64

namespace HttpJournal.Json

/-- An integer wherever one is written that 64 bits hold. -/
inductive Number where
  | natural (n : Nat)
  /-- Minus the given positive number. -/
  | negative (n : Nat)
  | real (x : Binary64)
  deriving DecidableEq, Inhabited

inductive Value where
  | null
  | bool (b : Bool)
  | number (n : Number)
  | string (s : String)
  | array (items : List Value)
  | object (members : List (String × Value))
  deriving Inhabited

def Number.toBinary64 : Number → Binary64
  | .natural n => .ofNat n
  | .negative n => (Binary64.ofNat n).negate
  | .real x => x

/-- False are `null`, `false`, zero, the strings `""` and `"0"` and the empty array. -/
def Value.isTruthy : Value → Bool
  | .null => false
  | .bool b => b
  | .number n => !n.toBinary64.isZero
  | .string s => s != "" && s != "0"
  | .array items => !items.isEmpty
  | .object _ => true

def Value.member? (name : String) : Value → Option Value
  | .object members => members.lookup name
  | _ => none

end HttpJournal.Json
