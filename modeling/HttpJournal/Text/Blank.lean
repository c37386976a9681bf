import HttpJournal.Text.Utf8

namespace HttpJournal

def isBlank (c : Char) : Bool :=
  let n := c.toNat
  (9 ≤ n && n ≤ 13) || n == 0x20 || n == 0x85 || n == 0xA0 || n == 0x1680 ||
    (0x2000 ≤ n && n ≤ 0x200A) || n == 0x2028 || n == 0x2029 || n == 0x202F || n == 0x205F ||
    n == 0x3000

namespace Text

def dropTrailing (p : Char → Bool) (t : Text) : Text := (t.reverse.dropWhile p).reverse

def strip (p : Char → Bool) (t : Text) : Text := dropTrailing p (t.dropWhile p)

def trim (t : Text) : Text := strip isBlank t

def splitOnChar (sep : Char) : Text → List Text
  | [] => [[]]
  | c :: rest =>
    if c = sep then [] :: splitOnChar sep rest
    else match splitOnChar sep rest with
      | part :: parts => (c :: part) :: parts
      | [] => [[c]]

/-- The text before and after the first occurrence of a character. -/
def cutAt (sep : Char) (t : Text) : Option (Text × Text) :=
  match t.dropWhile (· ≠ sep) with
  | [] => none
  | _ :: rest => some (t.takeWhile (· ≠ sep), rest)

end Text

def sameIgnoringCase (a b : Text) : Bool := a.map Char.toLower == b.map Char.toLower

example : ∀ c : Fin 128, (Char.ofNat c).isWhitespace → isBlank (Char.ofNat c) := by decide

end HttpJournal
