import HttpJournal.Charset.Basic
import HttpJournal.Charset.Table.Ksx1001

namespace HttpJournal.Decode

def isHangul (c : Char) : Bool := within 0xAC00 0xD7A3 c.toNat

/-- The syllables that KS X 1001 has, in its order, which is also theirs. -/
def listedHangul : List Char :=
  CharsetTable.ksx1001.flatMap fun row => row.toList.filter isHangul

/-- The code points from `n` on, `count` of them, less those of an increasing list. -/
def without : Nat → Nat → List Char → List Char
  | 0, _, _ => []
  | count + 1, n, c :: listed =>
    if c.toNat = n then without count (n + 1) listed
    else Char.ofNat n :: without count (n + 1) (c :: listed)
  | count + 1, n, [] => Char.ofNat n :: without count (n + 1) []

def furtherHangul : Array Char := (without 11172 0xAC00 listedHangul).toArray

def hangulColumn? (trail : Nat) : Option Nat :=
  if within 0x41 0x5A trail then some (trail - 0x41)
  else if within 0x61 0x7A trail then some (trail - 0x61 + 26)
  else if within 0x81 0xFE trail then some (trail - 0x81 + 52)
  else none

/-- The rows of KS X 1001 are where both octets are 0xA1 or more; elsewhere come the Hangul
syllables that KS X 1001 leaves out, in their order. -/
def eucKrPair? (lead trail : UInt8) : Option Char :=
  if 0xA1 ≤ lead ∧ 0xA1 ≤ trail then
    cell? CharsetTable.ksx1001 (lead.toNat - 0xA1) (trail.toNat - 0xA1)
  else do
    let column ← hangulColumn? trail.toNat
    if lead < 0xA1 then furtherHangul[(lead.toNat - 0x81) * 178 + column]?
    else furtherHangul[32 * 178 + (lead.toNat - 0xA1) * 84 + column]?

def eucKr : Bytes → Text
  | [] => []
  | b :: rest =>
    if isAscii b then ascii b :: eucKr rest
    else if !within 0x81 0xFE b.toNat then gap :: eucKr rest
    else match rest with
      | [] => [gap]
      | t :: rest' =>
        match eucKrPair? b t with
        | some c => c :: eucKr rest'
        | none => gap :: if isAscii t then eucKr (t :: rest') else eucKr rest'

end HttpJournal.Decode
