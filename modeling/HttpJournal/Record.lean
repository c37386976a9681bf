import HttpJournal.Assoc
import HttpJournal.Text.Utf8

namespace HttpJournal

abbrev Record := List (String × Bytes)

namespace Record

def empty : Record := []

def insert (r : Record) (name : String) (value : Bytes) : Record := Assoc.put name value r

def get? (r : Record) (name : String) : Option Bytes := Assoc.get? name r

def names (r : Record) : List String := r.map Prod.fst

def ofList (fields : List (String × Bytes)) : Record := Assoc.ofList fields

end Record

def consPart (b : UInt8) : List Bytes → List Bytes
  | [] => [[b]]
  | part :: parts => (b :: part) :: parts

/-- The parts between the occurrences of `sep`, after the next `skip` octets are passed over. -/
def splitFrom (sep : Bytes) : Nat → Bytes → List Bytes
  | _, [] => [[]]
  | skip + 1, _ :: rest => splitFrom sep skip rest
  | 0, b :: rest =>
    if sep.isPrefixOf (b :: rest) then [] :: splitFrom sep (sep.length - 1) rest
    else consPart b (splitFrom sep 0 rest)

/-- The parts between the occurrences of `sep`, found from the left and without overlap. -/
def splitOn (sep bs : Bytes) : List Bytes :=
  if sep.isEmpty then [bs] else splitFrom sep 0 bs

example : splitOn [1, 1] [1, 1, 1] = [[], [1]] := by decide

def comma : UInt8 := 0x2C

/-- A chunk is cut at its first comma; one without a comma is a name with an empty value. -/
def cutChunk (chunk : Bytes) : String × Bytes :=
  (Utf8.text (chunk.takeWhile (· ≠ comma)), (chunk.dropWhile (· ≠ comma)).drop 1)

def Record.ofFlat (sep bs : Bytes) : Record := Record.ofList ((splitOn sep bs).map cutChunk)

end HttpJournal
