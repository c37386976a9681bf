import HttpJournal.Charset.Basic
import HttpJournal.Charset.Table.Gb18030

namespace HttpJournal.Decode

def gbColumn? (trail : Nat) : Option Nat :=
  if within 0x40 0x7E trail then some (trail - 0x40)
  else if within 0x80 0xFE trail then some (trail - 0x41)
  else none

def gbPrivate? (lead trail : Nat) : Option Char :=
  if within 0xAA 0xAF lead && within 0xA1 0xFE trail then
    some (Char.ofNat (0xE000 + (lead - 0xAA) * 94 + (trail - 0xA1)))
  else if within 0xF8 0xFE lead && within 0xA1 0xFE trail then
    some (Char.ofNat (0xE234 + (lead - 0xF8) * 94 + (trail - 0xA1)))
  else if within 0xA1 0xA7 lead && trail ≤ 0xA0 then
    (gbColumn? trail).map fun column => Char.ofNat (0xE4C6 + (lead - 0xA1) * 96 + column)
  else none

def gbPair? (lead trail : UInt8) : Option Char := do
  let column ← gbColumn? trail.toNat
  cell? CharsetTable.gbk (lead.toNat - 0x81) column <|> gbPrivate? lead.toNat trail.toNat

/-- The code point in the last run that begins at or before a number. -/
def inRuns (n : Nat) : Nat → List (Nat × Nat) → Nat
  | found, [] => found
  | found, (start, code) :: rest =>
    if n < start then found else inRuns n (code + (n - start)) rest

/-- The character of a number of four octets: the rest of the basic plane, then the others. -/
def gbNumbered? (n : Nat) : Option Char :=
  if n = 7457 then some '\uE7C7'
  else if n < 39420 then some (Char.ofNat (inRuns n 0 CharsetTable.fourOctetRuns))
  else if within 189000 1237575 n then some (Char.ofNat (0x10000 + (n - 189000)))
  else none

def gbNumber (a b c d : UInt8) : Nat :=
  (((a.toNat - 0x81) * 10 + (b.toNat - 0x30)) * 126 + (c.toNat - 0x81)) * 10 + (d.toNat - 0x30)

def isDigit (b : UInt8) : Bool := within 0x30 0x39 b.toNat

def isLead (b : UInt8) : Bool := within 0x81 0xFE b.toNat

/-- Pairs of octets, and characters of four octets whose second and fourth are digits. -/
def gb18030 : Bytes → Text
  | [] => []
  | a :: rest =>
    if isAscii a then ascii a :: gb18030 rest
    else if a = 0x80 then '\u20AC' :: gb18030 rest
    else if a = 0xFF then gap :: gb18030 rest
    else match rest with
      | [] => [gap]
      | b :: rest₁ =>
        if isDigit b then
          match rest₁ with
          | [] => [gap]
          | c :: rest₂ =>
            if isLead c then
              match rest₂ with
              | [] => [gap]
              | d :: rest₃ =>
                if isDigit d then (gbNumbered? (gbNumber a b c d)).getD gap :: gb18030 rest₃
                else gap :: gb18030 (b :: c :: d :: rest₃)
            else gap :: gb18030 (b :: c :: rest₂)
        else match gbPair? a b with
          | some ch => ch :: gb18030 rest₁
          | none => gap :: if isAscii b then gb18030 (b :: rest₁) else gb18030 rest₁

end HttpJournal.Decode
