import HttpJournal.Json.Reader
import HttpJournal.Json.Writer

namespace HttpJournal.Json

/-- Makes text safe between the quotes of a JSON string. Valid escapes stay; a quote, a backslash
that begins no escape and a control character are escaped. -/
def guarded : Text → Text
  | [] => []
  | '\\' :: 'u' :: a :: b :: c :: d :: rest =>
    if (codeUnit? a b c d).isSome then '\\' :: 'u' :: a :: b :: c :: d :: guarded rest
    else '\\' :: '\\' :: guarded ('u' :: a :: b :: c :: d :: rest)
  | '\\' :: c :: rest =>
    if (simpleEscape? c).isSome then '\\' :: c :: guarded rest
    else '\\' :: '\\' :: guarded (c :: rest)
  | '\\' :: [] => ['\\', '\\']
  | '"' :: rest => '\\' :: '"' :: guarded rest
  | c :: rest =>
    if c.toNat < 0x20 then
      ['\\', 'u', '0', '0', lowerHex (c.toNat / 16), lowerHex c.toNat] ++ guarded rest
    else c :: guarded rest

/-- The inside of a string, its escapes undone; nothing when a surrogate has no partner. -/
def unescaped? (t : Text) : Option Text :=
  match stringBody (guarded t ++ ['"']) with
  | some (d, []) => some d
  | _ => none

/-- The truthy document that a text holds. -/
def truthy? (t : Text) : Option Value := (read? t).filter Value.isTruthy

/-- A truthy document is written anew and compactly. Any other text is the inside of a string, whose
escapes are undone, with one escape for each character that needs it. -/
def readable (t : Text) : Text :=
  match truthy? t with
  | some v => v.text
  | none =>
    match unescaped? t with
    | some d => escaped d
    | none => t

end HttpJournal.Json
