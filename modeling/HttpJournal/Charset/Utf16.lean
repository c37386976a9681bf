import HttpJournal.Charset.Basic

namespace HttpJournal.Decode

def codeUnit (bigEndian : Bool) (a b : UInt8) : Nat :=
  if bigEndian then a.toNat * 256 + b.toNat else b.toNat * 256 + a.toNat

/-- A surrogate without its partner becomes U+FFFD, and so does what is left over at the end. -/
def utf16 (bigEndian : Bool) : Bytes → Text
  | [] => []
  | [_] => [gap]
  | a :: b :: rest =>
    let n := codeUnit bigEndian a b
    if within 0xDC00 0xDFFF n then gap :: utf16 bigEndian rest
    else if within 0xD800 0xDBFF n then
      match rest with
      | c :: d :: rest' =>
        let m := codeUnit bigEndian c d
        if within 0xDC00 0xDFFF m then
          Char.ofNat (0x10000 + (n - 0xD800) * 0x400 + (m - 0xDC00)) :: utf16 bigEndian rest'
        else gap :: utf16 bigEndian (c :: d :: rest')
      | _ => [gap]
    else Char.ofNat n :: utf16 bigEndian rest

end HttpJournal.Decode
