import HttpJournal.Text.Utf8

namespace HttpJournal.Decode

/-- What a decoder puts where octets make no character. An ASCII octet that cannot be a trail octet
is read again on its own. -/
def gap : Char := '\uFFFD'

/-- The character at a place of a table of rows, unless it is a gap. -/
def cell? (rows : List String) (row column : Nat) : Option Char :=
  ((rows[row]?).bind fun r => r.toList[column]?).filter (· ≠ gap)

def within (low high n : Nat) : Bool := low ≤ n && n ≤ high

def isAscii (b : UInt8) : Bool := b.toNat < 0x80

def ascii (b : UInt8) : Char := Char.ofNat b.toNat

def singleOctet (upper : String) (bs : Bytes) : Text :=
  let table := upper.toList
  bs.map fun b => if isAscii b then ascii b else table.getD (b.toNat - 0x80) gap

/-- Octets above ASCII stand for a run of characters for private use. -/
def userDefined (bs : Bytes) : Text :=
  bs.map fun b => if isAscii b then ascii b else Char.ofNat (0xF780 + (b.toNat - 0x80))

end HttpJournal.Decode
