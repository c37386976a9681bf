import HttpJournal.Proofs.Assoc
import HttpJournal.Record
import Mathlib.Data.Finset.Card

namespace HttpJournal

namespace Assoc

variable {κ α : Type} [DecidableEq κ]

/-- The names stand in the order in which they were first written. -/
def Ordered (names written : List κ) : Prop :=
  names.Pairwise fun a b => written.idxOf a < written.idxOf b

theorem Ordered.append {names written : List κ} (h : Ordered names written)
    (hmem : ∀ n ∈ names, n ∈ written) (more : List κ) : Ordered names (written ++ more) := by
  apply h.imp_of_mem
  intro a b ha hb hab
  rwa [List.idxOf_append_of_mem (hmem a ha), List.idxOf_append_of_mem (hmem b hb)]

/-- A name that is new comes after all others. -/
theorem Ordered.concat {names written : List κ} (h : Ordered names written)
    (hmem : ∀ n ∈ names, n ∈ written) {name : κ} (hname : name ∉ written) :
    Ordered (names ++ [name]) (written ++ [name]) := by
  rw [Ordered, List.pairwise_append]
  refine ⟨h.append hmem [name], List.pairwise_singleton _ _, ?_⟩
  intro a ha b hb
  rw [List.mem_singleton.mp hb, List.idxOf_append_of_mem (hmem a ha),
    List.idxOf_append_of_notMem hname]
  exact Nat.lt_add_right _ (List.idxOf_lt_length_of_mem (hmem a ha))

theorem ordered_put {name : κ} {entries : List (κ × α)} {written : List κ}
    (h : Ordered (entries.map Prod.fst) written)
    (hmem : ∀ n, n ∈ entries.map Prod.fst ↔ n ∈ written) (value : α) :
    Ordered ((put name value entries).map Prod.fst) (written ++ [name]) := by
  have hwritten : ∀ n ∈ entries.map Prod.fst, n ∈ written := fun n => (hmem n).mp
  by_cases hname : name ∈ entries.map Prod.fst
  · rw [names_put_of_mem hname]
    exact h.append hwritten [name]
  · rw [put_of_not_mem hname, List.map_append]
    exact h.concat hwritten (mt (hmem name).mpr hname)

theorem ordered_ofList (writes : List (κ × α)) :
    Ordered ((ofList writes).map Prod.fst) (writes.map Prod.fst) := by
  induction writes using List.reverseRecOn with
  | nil => exact List.Pairwise.nil
  | append_singleton ws w ih =>
    rw [ofList_concat, List.map_append]
    exact ordered_put ih (mem_names_ofList ws) w.2

theorem lookup_of_not_mem {entries : List (κ × α)} {name : κ}
    (h : name ∉ entries.map Prod.fst) : entries.lookup name = none := by
  rw [List.lookup_eq_none_iff]
  intro e he
  rw [bne_iff_ne]
  rintro rfl
  exact h (List.mem_map_of_mem he)

theorem lookup_ofList_of_last {before after : List (κ × α)} {name : κ} {value : α}
    (h : name ∉ after.map Prod.fst) :
    (ofList (before ++ (name, value) :: after)).lookup name = some value := by
  have hafter : after.reverse.lookup name = none := by
    apply lookup_of_not_mem
    rwa [List.map_reverse, List.mem_reverse]
  rw [lookup_ofList, List.reverse_append, List.reverse_cons, List.append_assoc,
    List.lookup_append, hafter, Option.none_or, List.singleton_append, List.lookup_cons_self]

theorem length_ofList (writes : List (κ × α)) :
    (ofList writes).length = (writes.map Prod.fst).toFinset.card := by
  have hnames : ((ofList writes).map Prod.fst).toFinset = (writes.map Prod.fst).toFinset := by
    ext n
    rw [List.mem_toFinset, List.mem_toFinset, mem_names_ofList]
  rw [← hnames, List.toFinset_card_of_nodup (nodup_ofList writes), List.length_map]

end Assoc

namespace Record

/-- What a sequence of insertions leaves: the names are distinct, are those that were inserted and
keep the order of their first insertions, and each has the value of its last one. -/
structure Keeps (r : Record) (inserted : List (String × Bytes)) : Prop where
  nodup : r.names.Nodup
  mem_names : ∀ name, name ∈ r.names ↔ name ∈ inserted.map Prod.fst
  ordered : Assoc.Ordered r.names (inserted.map Prod.fst)
  last : ∀ before name value after, inserted = before ++ (name, value) :: after →
    name ∉ after.map Prod.fst → r.get? name = some value
  absent : ∀ name, name ∉ inserted.map Prod.fst → r.get? name = none
  length : r.length = (inserted.map Prod.fst).toFinset.card
  entries : r = r.names.filterMap fun name => (r.get? name).map (name, ·)

theorem keeps_ofList (inserted : List (String × Bytes)) : (ofList inserted).Keeps inserted where
  nodup := Assoc.nodup_ofList inserted
  mem_names := Assoc.mem_names_ofList inserted
  ordered := Assoc.ordered_ofList inserted
  last before name value after hinserted hname := by
    rw [hinserted]
    exact Assoc.lookup_ofList_of_last hname
  absent name hname :=
    Assoc.lookup_of_not_mem (mt (Assoc.mem_names_ofList inserted name).mp hname)
  length := Assoc.length_ofList inserted
  entries := (Assoc.filterMap_lookup (Assoc.nodup_ofList inserted)).symm

/-- A record is a map in the order of insertion, whatever the sequence of insertions, and so is the
record that is cut from a flat text, whatever its octets. -/
theorem keeps_insertions :
    (∀ inserted : List (String × Bytes),
        (inserted.foldl (fun r f => r.insert f.1 f.2) empty).Keeps inserted) ∧
      ∀ sep bs : Bytes, (ofFlat sep bs).Keeps ((splitOn sep bs).map cutChunk) :=
  ⟨keeps_ofList, fun sep bs => keeps_ofList ((splitOn sep bs).map cutChunk)⟩

example : ofList [("b", [1]), ("a", [2]), ("b", [3])] = [("b", [3]), ("a", [2])] := by decide

end Record

end HttpJournal
