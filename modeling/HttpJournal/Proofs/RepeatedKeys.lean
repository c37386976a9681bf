import HttpJournal.Json.Reader
import HttpJournal.Proofs.Assoc

namespace HttpJournal.Json

mutual

/-- A value whose objects keep each key once, at its first place and with its last value. -/
def Value.merged : Value → Value
  | .null => .null
  | .bool b => .bool b
  | .number n => .number n
  | .string s => .string s
  | .array items => .array (mergedItems items)
  | .object members => .object (Assoc.firstLast (mergedMembers members))

def mergedItems : List Value → List Value
  | [] => []
  | v :: rest => v.merged :: mergedItems rest

def mergedMembers : List (String × Value) → List (String × Value)
  | [] => []
  | (name, v) :: rest => (name, v.merged) :: mergedMembers rest

end

def wholeValue : Nat → Text → Option (Value × Text)
  | 0, t => scalar (skip t)
  | depth + 1, t =>
    match skip t with
    | '[' :: rest =>
      (bracketed ']' (wholeValue depth) rest).map fun (xs, rest) => (.array xs, rest)
    | '{' :: rest =>
      (bracketed '}' (member (wholeValue depth)) rest).map fun (ms, rest) => (.object ms, rest)
    | t => scalar t

def readWhole? (t : Text) : Option Value :=
  match wholeValue maxDepth t with
  | some (v, rest) => if (skip rest).isEmpty then some v else none
  | none => none

theorem mergedItems_eq_map (items : List Value) : mergedItems items = items.map Value.merged := by
  induction items with
  | nil => rw [mergedItems, List.map_nil]
  | cons v items ih => rw [mergedItems, ih, List.map_cons]

theorem mergedMembers_eq_map (members : List (String × Value)) :
    mergedMembers members = members.map (Prod.map id Value.merged) := by
  induction members with
  | nil => rw [mergedMembers, List.map_nil]
  | cons m members ih => rw [mergedMembers, ih, List.map_cons]; rfl

section Map

variable {α β : Type} (f : α → β)

theorem itemsTo_map (close : Char) (item : Text → Option (α × Text)) (fuel : Nat) (t : Text) :
    itemsTo close (fun t => (item t).map (Prod.map f id)) fuel t =
      (itemsTo close item fuel t).map (Prod.map (List.map f) id) := by
  induction fuel generalizing t with
  | zero => rfl
  | succ fuel ih =>
    rw [itemsTo, itemsTo]
    cases item t with
    | none => rfl
    | some p =>
      simp only [Option.map_some, Prod.map, id]
      cases skip p.2 with
      | nil => rfl
      | cons c rest =>
        simp only [ih]
        split_ifs
        · rfl
        · cases itemsTo close item fuel rest <;> rfl
        · rfl

theorem bracketed_map (close : Char) (item : Text → Option (α × Text)) (t : Text) :
    bracketed close (fun t => (item t).map (Prod.map f id)) t =
      (bracketed close item t).map (Prod.map (List.map f) id) := by
  rw [bracketed, bracketed]
  cases skip t with
  | nil => rfl
  | cons c rest =>
    simp only [itemsTo_map]
    split_ifs <;> rfl

theorem member_map (f : Value → Value) (value : Text → Option (Value × Text)) (t : Text) :
    member (fun t => (value t).map (Prod.map f id)) t =
      (member value t).map (Prod.map (Prod.map id f) id) := by
  unfold member
  split
  case h_2 => rfl
  split
  · rfl
  split
  case h_2 => rfl
  rename_i rest _
  dsimp only
  cases value rest <;> rfl

end Map

theorem merged_of_scalar {t rest : Text} {v : Value} (h : scalar t = some (v, rest)) :
    v.merged = v := by
  unfold scalar at h
  split at h
  case h_1 | h_2 | h_3 =>
    obtain ⟨rfl, -⟩ := Prod.mk.inj (Option.some.inj h)
    rfl
  all_goals
    obtain ⟨p, -, hv⟩ := Option.map_eq_some_iff.mp h
    obtain ⟨rfl, -⟩ := Prod.mk.inj hv
    rfl

theorem map_merged_scalar (t : Text) : (scalar t).map (Prod.map Value.merged id) = scalar t := by
  cases h : scalar t with
  | none => rfl
  | some p => rw [Option.map_some, Prod.map, merged_of_scalar h]; rfl

theorem map_merged_array (o : Option (List Value × Text)) :
    ((o.map (Prod.map (List.map Value.merged) id)).map fun (xs, rest) => (Value.array xs, rest)) =
      (o.map fun (xs, rest) => (Value.array xs, rest)).map (Prod.map Value.merged id) := by
  cases o with
  | none => rfl
  | some p => simp [Value.merged, mergedItems_eq_map]

theorem map_merged_object (o : Option (List (String × Value) × Text)) :
    ((o.map (Prod.map (List.map (Prod.map id Value.merged)) id)).map fun (ms, rest) =>
        (Value.object (Assoc.ofList ms), rest)) =
      (o.map fun (ms, rest) => (Value.object ms, rest)).map (Prod.map Value.merged id) := by
  cases o with
  | none => rfl
  | some p => simp [Value.merged, mergedMembers_eq_map, Assoc.ofList_eq_firstLast]

/-- Reading keeps of each key the first place and the last value. -/
theorem value_eq_merged (depth : Nat) :
    value depth = fun t => (wholeValue depth t).map (Prod.map Value.merged id) := by
  induction depth with
  | zero =>
    funext t
    rw [value, wholeValue, map_merged_scalar]
  | succ depth ih =>
    have hmember : member (value depth) =
        fun t => (member (wholeValue depth) t).map (Prod.map (Prod.map id Value.merged) id) := by
      funext t
      rw [ih, member_map]
    funext t
    rw [value, wholeValue, hmember, ih]
    generalize skip t = u
    split
    case h_1 rest =>
      rw [bracketed_map]
      exact map_merged_array (bracketed ']' (wholeValue depth) rest)
    case h_2 rest =>
      rw [bracketed_map]
      exact map_merged_object (bracketed '}' (member (wholeValue depth)) rest)
    case h_3 => simp [map_merged_scalar]

theorem read?_eq_merged (t : Text) : read? t = (readWhole? t).map Value.merged := by
  rw [read?, readWhole?, value_eq_merged]
  dsimp only
  cases wholeValue maxDepth t with
  | none => rfl
  | some p =>
    simp only [Option.map_some, Prod.map, id]
    split_ifs <;> rfl

end HttpJournal.Json
