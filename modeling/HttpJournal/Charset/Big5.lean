import HttpJournal.Charset.Basic
import HttpJournal.Charset.Table.Big5

namespace HttpJournal.Decode

def big5Column? (trail : Nat) : Option Nat :=
  if within 0x40 0x7E trail then some (trail - 0x40)
  else if within 0xA1 0xFE trail then some (trail - 0x62)
  else none

/-- Four pairs stand for a letter with a combining mark after it. -/
def big5Pair? (lead trail : UInt8) : Option Text :=
  if lead = 0x88 ∧ trail = 0x62 then some ['\u00CA', '\u0304']
  else if lead = 0x88 ∧ trail = 0x64 then some ['\u00CA', '\u030C']
  else if lead = 0x88 ∧ trail = 0xA3 then some ['\u00EA', '\u0304']
  else if lead = 0x88 ∧ trail = 0xA5 then some ['\u00EA', '\u030C']
  else if lead < 0x87 then none
  else do
    let column ← big5Column? trail.toNat
    return [← cell? CharsetTable.big5 (lead.toNat - 0x87) column]

def big5 : Bytes → Text
  | [] => []
  | b :: rest =>
    if isAscii b then ascii b :: big5 rest
    else if !within 0x81 0xFE b.toNat then gap :: big5 rest
    else match rest with
      | [] => [gap]
      | t :: rest' =>
        match big5Pair? b t with
        | some cs => cs ++ big5 rest'
        | none => gap :: if isAscii t then big5 (t :: rest') else big5 rest'

end HttpJournal.Decode
