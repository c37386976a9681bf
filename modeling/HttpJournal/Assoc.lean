namespace HttpJournal.Assoc

variable {κ α : Type} [DecidableEq κ]

/-- An entry of the name is changed in its place; a new one comes last. -/
def put (name : κ) (value : α) : List (κ × α) → List (κ × α)
  | [] => [(name, value)]
  | e :: rest => if e.1 = name then (e.1, value) :: rest else e :: put name value rest

def get? (name : κ) (entries : List (κ × α)) : Option α := entries.lookup name

def ofList (writes : List (κ × α)) : List (κ × α) :=
  writes.foldl (fun entries w => put w.1 w.2 entries) []

end HttpJournal.Assoc
