namespace HttpJournal

abbrev Text := List Char

abbrev Bytes := List UInt8

namespace Utf8

def encode (t : Text) : Bytes := t.flatMap String.utf8EncodeChar

/-- A character under way: the octets still owed, the bits so far, the bounds of the next octet. -/
structure Pending where
  owed : Nat
  bits : Nat
  low : Nat
  high : Nat

def isTail (p : Pending) (b : UInt8) : Bool := p.low ≤ b.toNat && b.toNat ≤ p.high

/-- Overlong forms, surrogates and numbers above U+10FFFF are refused at the second octet. -/
def lead (b : Nat) : Option Pending :=
  if 0xC2 ≤ b ∧ b ≤ 0xDF then some ⟨1, b - 0xC0, 0x80, 0xBF⟩
  else if b = 0xE0 then some ⟨2, 0, 0xA0, 0xBF⟩
  else if b = 0xED then some ⟨2, 0xD, 0x80, 0x9F⟩
  else if 0xE1 ≤ b ∧ b ≤ 0xEF then some ⟨2, b - 0xE0, 0x80, 0xBF⟩
  else if b = 0xF0 then some ⟨3, 0, 0x90, 0xBF⟩
  else if 0xF1 ≤ b ∧ b ≤ 0xF3 then some ⟨3, b - 0xF0, 0x80, 0xBF⟩
  else if b = 0xF4 then some ⟨3, 4, 0x80, 0x8F⟩
  else none

/-- The characters that one octet completes between characters, and what it leaves under way. -/
def start (b : UInt8) : Text × Option Pending :=
  if b.toNat < 0x80 then ([Char.ofNat b.toNat], none)
  else match lead b.toNat with
    | some p => ([], some p)
    | none => (['\uFFFD'], none)

def step : Option Pending → UInt8 → Text × Option Pending
  | none, b => start b
  | some p, b =>
    if isTail p b then
      let bits := p.bits * 64 + (b.toNat - 0x80)
      if p.owed ≤ 1 then ([Char.ofNat bits], none) else ([], some ⟨p.owed - 1, bits, 0x80, 0xBF⟩)
    else ('\uFFFD' :: (start b).1, (start b).2)

def decodeFrom : Option Pending → Bytes → Text
  | none, [] => []
  | some _, [] => ['\uFFFD']
  | s, b :: rest => (step s b).1 ++ decodeFrom (step s b).2 rest

/-- U+FFFD stands for each longest run that begins like a character and cannot be finished. -/
def decode (bs : Bytes) : Text := decodeFrom none bs

example : decode [0xE4, 0xB8, 0x41] = ['\uFFFD', 'A'] := by decide

def bytes (s : String) : Bytes := encode s.toList

def text (bs : Bytes) : String := .ofList (decode bs)

end Utf8

end HttpJournal
