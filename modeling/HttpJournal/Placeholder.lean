import HttpJournal.Text.Blank

namespace HttpJournal

inductive Piece where
  | literal (c : Char)
  | placeholder (name : String)
  deriving DecidableEq

namespace Piece

def isNameChar (c : Char) : Bool := c.isAlphanum || c == '_' || c == '-' || c == '.'

/-- After an opening brace: the name and what follows the closing brace. -/
def name? (t : Text) : Option (Text × Text) :=
  let inner := t.dropWhile isBlank
  match (inner.dropWhile isNameChar).dropWhile isBlank with
  | '}' :: rest =>
    let name := inner.takeWhile isNameChar
    if name.isEmpty then none else some (name, rest)
  | _ => none

/-- The pieces of a text after the next `skip` characters, which belong to the last placeholder. -/
def scanFrom : Nat → Text → List Piece
  | _, [] => []
  | skip + 1, _ :: t => scanFrom skip t
  | 0, c :: t =>
    match if c = '{' then name? t else none with
    | some (name, rest) => .placeholder (.ofList name) :: scanFrom (t.length - rest.length) t
    | none => .literal c :: scanFrom 0 t

def scan (t : Text) : List Piece := scanFrom 0 t

end Piece

example : Piece.scan "\x7b a \x7d\x7ba b".toList =
    [.placeholder "a", .literal '{', .literal 'a', .literal ' ', .literal 'b'] := by decide

abbrev Resolver (σ : Type) := String → StateM σ (Option Bytes)

structure Expansion where
  text : Bytes
  /-- Names without an answer, in the order of first occurrence. -/
  unknown : List String
  deriving DecidableEq

namespace Expansion

def prepend (bs : Bytes) (e : Expansion) : Expansion := { e with text := bs ++ e.text }

/-- Expands pieces when `known` holds the answers so far. -/
def ofPieces {σ : Type} (resolve : Resolver σ) :
    List (String × Bytes) → List Piece → StateM σ Expansion
  | _, [] => pure ⟨[], []⟩
  | known, .literal c :: rest => do
    return (← ofPieces resolve known rest).prepend (String.utf8EncodeChar c)
  | known, .placeholder name :: rest => do
    match known.lookup name with
    | some value => return (← ofPieces resolve known rest).prepend value
    | none =>
      match ← resolve name with
      | some value =>
        return (← ofPieces resolve ((name, value) :: known) rest).prepend value
      | none =>
        let e ← ofPieces resolve ((name, []) :: known) rest
        return { e with unknown := name :: e.unknown }

end Expansion

/-- Each name is asked for once, where it first occurs, and the answer is never scanned again. -/
def expandM {σ : Type} (resolve : Resolver σ) (template : String) : StateM σ Expansion :=
  Expansion.ofPieces resolve [] (Piece.scan template.toList)

def expand (resolve : String → Option Bytes) (template : String) : Expansion :=
  ((expandM (fun name => pure (resolve name)) template : StateM Unit Expansion) ()).1

end HttpJournal
