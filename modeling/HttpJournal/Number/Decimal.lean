import HttpJournal.Text.Utf8

namespace HttpJournal.Decimal

def ofNat (n : Nat) : Text := Nat.toDigits 10 n

def ofInt : Int → Text
  | .ofNat n => ofNat n
  | .negSucc n => '-' :: ofNat (n + 1)

def digit (c : Char) : Nat := c.toNat - '0'.toNat

def value (t : Text) : Nat := t.foldl (fun n c => 10 * n + digit c) 0

/-- At least `width` digits, with zeros in front. -/
def padded (width n : Nat) : Text :=
  let t := ofNat n
  List.replicate (width - t.length) '0' ++ t

/-- A leading run of digits and what follows it. -/
def span (t : Text) : Text × Text := (t.takeWhile Char.isDigit, t.dropWhile Char.isDigit)

end HttpJournal.Decimal
