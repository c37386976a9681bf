import HttpJournal.Charset.Basic
import HttpJournal.Charset.Table.Jis

namespace HttpJournal.Decode

def jisCell? (n : Nat) : Option Char := cell? CharsetTable.jis0208 (n / 94) (n % 94)

def halfwidth (n : Nat) : Char := Char.ofNat (0xFF61 + n)

def isEuc (b : UInt8) : Bool := within 0xA1 0xFE b.toNat

def eucCell? (rows : List String) (a b : UInt8) : Option Char :=
  if isEuc a && isEuc b then cell? rows (a.toNat - 0xA1) (b.toNat - 0xA1) else none

def eucPair? (a b : UInt8) : Option Char :=
  if a = 0x8E then
    if within 0xA1 0xDF b.toNat then some (halfwidth (b.toNat - 0xA1)) else none
  else eucCell? CharsetTable.jis0208 a b

def eucJp : Bytes → Text
  | [] => []
  | a :: rest =>
    if isAscii a then ascii a :: eucJp rest
    else if !(a = 0x8E || a = 0x8F || isEuc a) then gap :: eucJp rest
    else match rest with
      | [] => [gap]
      | b :: rest₁ =>
        if a = 0x8F && isEuc b then
          match rest₁ with
          | [] => [gap]
          | c :: rest₂ =>
            match eucCell? CharsetTable.jis0212 b c with
            | some ch => ch :: eucJp rest₂
            | none => gap :: if isAscii c then eucJp (c :: rest₂) else eucJp rest₂
        else match eucPair? a b with
          | some ch => ch :: eucJp rest₁
          | none => gap :: if isAscii b then eucJp (b :: rest₁) else eucJp rest₁

/-- The number of a pair: each lead octet has two rows of 94. From 8836 to 10715 the characters are
for private use. -/
def shiftJisPair? (lead trail : UInt8) : Option Char := do
  let row := lead.toNat - (if lead < 0xA0 then 0x81 else 0xC1)
  let column ←
    if within 0x40 0x7E trail.toNat then some (trail.toNat - 0x40)
    else if within 0x80 0xFC trail.toNat then some (trail.toNat - 0x41)
    else none
  let n := row * 188 + column
  if within 8836 10715 n then some (Char.ofNat (0xE000 + (n - 8836))) else jisCell? n

def shiftJis : Bytes → Text
  | [] => []
  | a :: rest =>
    if a.toNat ≤ 0x80 then ascii a :: shiftJis rest
    else if within 0xA1 0xDF a.toNat then halfwidth (a.toNat - 0xA1) :: shiftJis rest
    else if a = 0xA0 ∨ 0xFD ≤ a then gap :: shiftJis rest
    else match rest with
      | [] => [gap]
      | b :: rest₁ =>
        match shiftJisPair? a b with
        | some ch => ch :: shiftJis rest₁
        | none => gap :: if isAscii b then shiftJis (b :: rest₁) else shiftJis rest₁

/-- The set that an escape sequence has called in. -/
inductive JisSet where
  | ascii
  | roman
  | katakana
  | kanji
  deriving DecidableEq

def JisSet.ofEscape? (a b : UInt8) : Option JisSet :=
  if a = 0x28 ∧ b = 0x42 then some .ascii
  else if a = 0x28 ∧ b = 0x4A then some .roman
  else if a = 0x28 ∧ b = 0x49 then some .katakana
  else if a = 0x24 ∧ (b = 0x40 ∨ b = 0x42) then some .kanji
  else none

def escapeOctet : UInt8 := 0x1B

def JisSet.single (s : JisSet) (b : UInt8) : Char :=
  match s with
  | .katakana => if within 0x21 0x5F b.toNat then halfwidth (b.toNat - 0x21) else gap
  | _ =>
    if s = .roman ∧ b = 0x5C then '\u00A5'
    else if s = .roman ∧ b = 0x7E then '\u203E'
    else if isAscii b && b ≠ 0x0E && b ≠ 0x0F then Decode.ascii b
    else gap

def isKanjiOctet (b : UInt8) : Bool := within 0x21 0x7E b.toNat

/-- Reads on in a set; `idle` says that nothing was written since the last escape sequence, after
which another one is an error. -/
def iso2022JpIn (s : JisSet) (idle : Bool) : Bytes → Text
  | [] => []
  | a :: rest =>
    if a = escapeOctet then
      match rest with
      | b :: c :: rest₂ =>
        match JisSet.ofEscape? b c with
        | some s => (if idle then [gap] else []) ++ iso2022JpIn s true rest₂
        | none => gap :: iso2022JpIn s false (b :: c :: rest₂)
      | rest => gap :: iso2022JpIn s false rest
    else if s ≠ .kanji then s.single a :: iso2022JpIn s false rest
    else if !isKanjiOctet a then gap :: iso2022JpIn s false rest
    else match rest with
      | [] => [gap]
      | b :: rest₁ =>
        if b = escapeOctet then gap :: iso2022JpIn s false (b :: rest₁)
        else if isKanjiOctet b then
          (jisCell? ((a.toNat - 0x21) * 94 + (b.toNat - 0x21))).getD gap ::
            iso2022JpIn s false rest₁
        else gap :: iso2022JpIn s false rest₁

def iso2022Jp (bs : Bytes) : Text := iso2022JpIn .ascii false bs

end HttpJournal.Decode
