import HttpJournal.Text.Printable
import HttpJournal.Text.Utf8

namespace HttpJournal

def hexadecimal (n : Nat) : Text := Nat.toDigits 16 n

def quoteEscape (c : Char) : Text :=
  match c with
  | '"' => ['\\', '"']
  | '\\' => ['\\', '\\']
  | '\n' => ['\\', 'n']
  | '\r' => ['\\', 'r']
  | '\t' => ['\\', 't']
  | '\x00' => ['\\', '0']
  | c =>
    if isPrintable c then [c] else ['\\', 'u', '\x7b'] ++ hexadecimal c.toNat ++ ['\x7d']

def inQuotes (s : String) : String :=
  .ofList ('"' :: s.toList.flatMap quoteEscape ++ ['"'])

end HttpJournal
