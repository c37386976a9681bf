import HttpJournal.Assoc
import Mathlib.Data.List.Count
import Mathlib.Data.List.Induction
import Mathlib.Data.List.Nodup

namespace HttpJournal.Assoc

variable {κ α : Type} [DecidableEq κ]

theorem put_of_not_mem {name : κ} {entries : List (κ × α)} (h : name ∉ entries.map Prod.fst)
    (value : α) : put name value entries = entries ++ [(name, value)] := by
  induction entries with
  | nil => rfl
  | cons e rest ih =>
    rw [List.map_cons, List.mem_cons, not_or] at h
    rw [put, if_neg (Ne.symm h.1), ih h.2]
    rfl

theorem names_put_of_mem {name : κ} {entries : List (κ × α)} (h : name ∈ entries.map Prod.fst)
    (value : α) : (put name value entries).map Prod.fst = entries.map Prod.fst := by
  induction entries with
  | nil => cases h
  | cons e rest ih =>
    rw [put]
    split_ifs with he
    · rfl
    · rw [List.map_cons, List.mem_cons] at h
      have hmem : name ∈ rest.map Prod.fst := h.resolve_left (Ne.symm he)
      rw [List.map_cons, List.map_cons, ih hmem]

theorem length_put_of_mem {name : κ} {entries : List (κ × α)} (h : name ∈ entries.map Prod.fst)
    (value : α) : (put name value entries).length = entries.length := by
  simpa only [List.length_map] using congrArg List.length (names_put_of_mem h value)

theorem nodup_put {name : κ} {entries : List (κ × α)} (h : (entries.map Prod.fst).Nodup)
    (value : α) : ((put name value entries).map Prod.fst).Nodup := by
  by_cases hmem : name ∈ entries.map Prod.fst
  · rwa [names_put_of_mem hmem]
  · rw [put_of_not_mem hmem, List.map_append]
    exact List.nodup_append'.mpr ⟨h, List.nodup_singleton _, by simpa using hmem⟩

theorem mem_names_put (name : κ) (value : α) (entries : List (κ × α)) (n : κ) :
    n ∈ (put name value entries).map Prod.fst ↔ n = name ∨ n ∈ entries.map Prod.fst := by
  by_cases hmem : name ∈ entries.map Prod.fst
  · rw [names_put_of_mem hmem]
    constructor
    · exact Or.inr
    · rintro (rfl | h)
      · exact hmem
      · exact h
  · rw [put_of_not_mem hmem, List.map_append, List.mem_append, or_comm]
    simp

def writeAll (entries writes : List (κ × α)) : List (κ × α) :=
  writes.foldl (fun entries w => put w.1 w.2 entries) entries

theorem nodup_writeAll {entries : List (κ × α)} (h : (entries.map Prod.fst).Nodup)
    (writes : List (κ × α)) : ((writeAll entries writes).map Prod.fst).Nodup := by
  induction writes generalizing entries with
  | nil => exact h
  | cons w ws ih => exact ih (nodup_put h w.2)

theorem mem_names_writeAll (entries writes : List (κ × α)) (n : κ) :
    n ∈ (writeAll entries writes).map Prod.fst ↔
      n ∈ entries.map Prod.fst ∨ n ∈ writes.map Prod.fst := by
  induction writes generalizing entries with
  | nil => simp [writeAll]
  | cons w ws ih =>
    have h := ih (put w.1 w.2 entries)
    rw [mem_names_put] at h
    rw [List.map_cons, List.mem_cons]
    exact h.trans (by tauto)

theorem writeAll_of_nodup {entries writes : List (κ × α)}
    (h : ((entries ++ writes).map Prod.fst).Nodup) :
    writeAll entries writes = entries ++ writes := by
  induction writes generalizing entries with
  | nil => simp [writeAll]
  | cons w ws ih =>
    have hmem : w.1 ∉ entries.map Prod.fst := by
      rw [List.map_append, List.map_cons] at h
      exact fun hm => List.disjoint_of_nodup_append h hm List.mem_cons_self
    rw [List.append_cons] at h
    have hput := put_of_not_mem hmem w.2
    calc writeAll entries (w :: ws) = writeAll (put w.1 w.2 entries) ws := rfl
      _ = writeAll (entries ++ [w]) ws := by rw [hput]
      _ = entries ++ w :: ws := by rw [ih h, ← List.append_cons]

theorem length_put_le (name : κ) (value : α) (entries : List (κ × α)) :
    (put name value entries).length ≤ entries.length + 1 := by
  by_cases hmem : name ∈ entries.map Prod.fst
  · rw [length_put_of_mem hmem]
    exact Nat.le_succ _
  · rw [put_of_not_mem hmem, List.length_append]
    exact Nat.le_refl _

theorem length_writeAll_le (entries writes : List (κ × α)) :
    (writeAll entries writes).length ≤ entries.length + writes.length := by
  induction writes generalizing entries with
  | nil => exact Nat.le_refl _
  | cons w ws ih =>
    have h := ih (put w.1 w.2 entries)
    have hput := length_put_le w.1 w.2 entries
    rw [List.length_cons]
    change (writeAll (put w.1 w.2 entries) ws).length ≤ _
    omega

theorem writeAll_of_length {entries writes : List (κ × α)}
    (h : entries.length + writes.length ≤ (writeAll entries writes).length) :
    writeAll entries writes = entries ++ writes := by
  induction writes generalizing entries with
  | nil => simp [writeAll]
  | cons w ws ih =>
    change entries.length + (ws.length + 1) ≤ (writeAll (put w.1 w.2 entries) ws).length at h
    have hle := length_writeAll_le (put w.1 w.2 entries) ws
    -- a name written again would leave one entry too few
    have hmem : w.1 ∉ entries.map Prod.fst := by
      intro hm
      rw [length_put_of_mem hm] at hle
      omega
    have hput := put_of_not_mem hmem w.2
    have hws : writeAll (put w.1 w.2 entries) ws = put w.1 w.2 entries ++ ws := by
      apply ih
      rw [hput] at h ⊢
      rw [List.length_append, List.length_singleton]
      omega
    calc writeAll entries (w :: ws) = writeAll (put w.1 w.2 entries) ws := rfl
      _ = put w.1 w.2 entries ++ ws := hws
      _ = entries ++ w :: ws := by rw [hput, ← List.append_cons]

section Count

variable {β : Type} [DecidableEq β] (x : β) (written : κ × α → List β)

theorem count_put_le (name : κ) (value : α) (entries : List (κ × α)) :
    ((put name value entries).flatMap written).count x ≤
      (entries.flatMap written).count x + (written (name, value)).count x := by
  induction entries with
  | nil => simp [put]
  | cons e rest ih =>
    rw [put]
    split_ifs with he
    · simp only [List.flatMap_cons, List.count_append, he]
      omega
    · simp only [List.flatMap_cons, List.count_append]
      omega

/-- However entries are written out, writing one in place only takes from what was there. -/
theorem count_writeAll_le (entries writes : List (κ × α)) :
    ((writeAll entries writes).flatMap written).count x ≤
      (entries.flatMap written).count x + (writes.flatMap written).count x := by
  induction writes generalizing entries with
  | nil => simp [writeAll]
  | cons w ws ih =>
    have h := ih (put w.1 w.2 entries)
    have hw : _ ≤ _ + (written w).count x := count_put_le x written w.1 w.2 entries
    rw [List.flatMap_cons, List.count_append]
    change ((writeAll (put w.1 w.2 entries) ws).flatMap written).count x ≤ _
    omega

end Count

theorem mem_put {name : κ} {value : α} {entries : List (κ × α)} {e : κ × α}
    (h : e ∈ put name value entries) : e = (name, value) ∨ e ∈ entries := by
  induction entries with
  | nil => exact Or.inl (List.mem_singleton.mp h)
  | cons d rest ih =>
    rw [put] at h
    split_ifs at h with hd
    · rcases List.mem_cons.mp h with rfl | h
      · exact Or.inl (by rw [hd])
      · exact Or.inr (List.mem_cons_of_mem d h)
    · rcases List.mem_cons.mp h with rfl | h
      · exact Or.inr List.mem_cons_self
      · exact (ih h).imp_right (List.mem_cons_of_mem d)

theorem mem_writeAll {entries writes : List (κ × α)} {e : κ × α} (h : e ∈ writeAll entries writes) :
    e ∈ entries ∨ e ∈ writes := by
  induction writes generalizing entries with
  | nil => exact Or.inl h
  | cons w ws ih =>
    rcases ih h with hput | hws
    · rcases mem_put hput with rfl | he
      · exact Or.inr List.mem_cons_self
      · exact Or.inl he
    · exact Or.inr (List.mem_cons_of_mem w hws)

theorem ofList_eq_writeAll (writes : List (κ × α)) : ofList writes = writeAll [] writes := rfl

theorem nodup_ofList (writes : List (κ × α)) : ((ofList writes).map Prod.fst).Nodup := by
  rw [ofList_eq_writeAll]
  apply nodup_writeAll
  exact List.nodup_nil

theorem mem_names_ofList (writes : List (κ × α)) (n : κ) :
    n ∈ (ofList writes).map Prod.fst ↔ n ∈ writes.map Prod.fst := by
  rw [ofList_eq_writeAll, mem_names_writeAll]
  simp

theorem mem_ofList {writes : List (κ × α)} {e : κ × α} (h : e ∈ ofList writes) : e ∈ writes := by
  rw [ofList_eq_writeAll] at h
  exact (mem_writeAll h).resolve_left List.not_mem_nil

theorem ofList_of_nodup {writes : List (κ × α)} (h : (writes.map Prod.fst).Nodup) :
    ofList writes = writes :=
  writeAll_of_nodup h

theorem ofList_of_length {writes : List (κ × α)} (h : writes.length ≤ (ofList writes).length) :
    ofList writes = writes := by
  rw [ofList_eq_writeAll] at h ⊢
  exact writeAll_of_length (by simpa using h)

theorem count_ofList_le {β : Type} [DecidableEq β] (x : β) (written : κ × α → List β)
    (writes : List (κ × α)) :
    ((ofList writes).flatMap written).count x ≤ (writes.flatMap written).count x := by
  rw [ofList_eq_writeAll]
  simpa using count_writeAll_le x written [] writes

/-- Each name at its first place, with its last value. -/
def firstLast (writes : List (κ × α)) : List (κ × α) :=
  (writes.map Prod.fst).eraseDups.filterMap fun name =>
    (writes.reverse.lookup name).map (name, ·)

theorem ofList_concat (writes : List (κ × α)) (w : κ × α) :
    ofList (writes ++ [w]) = put w.1 w.2 (ofList writes) := by
  rw [ofList, List.foldl_append]
  rfl

theorem names_ofList (writes : List (κ × α)) :
    (ofList writes).map Prod.fst = (writes.map Prod.fst).eraseDups := by
  induction writes using List.reverseRecOn with
  | nil => rfl
  | append_singleton ws w ih =>
    have hone : [w.1].eraseDups = [w.1] := by simp [List.eraseDups_cons]
    rw [ofList_concat, List.map_append, List.eraseDups_append, ← ih]
    by_cases hw : w.1 ∈ ws.map Prod.fst
    · have hput := (mem_names_ofList ws w.1).mpr hw
      rw [names_put_of_mem hput]
      simp [List.removeAll, hw]
    · have hput := mt (mem_names_ofList ws w.1).mp hw
      rw [put_of_not_mem hput, List.map_append]
      simp [List.removeAll, hw, hone]

theorem lookup_cons_eq_ite (e : κ × α) (entries : List (κ × α)) (n : κ) :
    (e :: entries).lookup n = if n = e.1 then some e.2 else entries.lookup n := by
  by_cases h : n = e.1
  · rw [List.lookup_cons, beq_iff_eq.mpr h, if_pos h]
  · rw [List.lookup_cons, beq_eq_false_iff_ne.mpr h, if_neg h]

theorem lookup_put (name : κ) (value : α) (entries : List (κ × α)) (n : κ) :
    (put name value entries).lookup n = if n = name then some value else entries.lookup n := by
  induction entries with
  | nil => exact lookup_cons_eq_ite (name, value) [] n
  | cons e rest ih =>
    rw [put]
    split_ifs with he hn hn
    · rw [lookup_cons_eq_ite, if_pos (hn.trans he.symm)]
    · have hne : n ≠ e.1 := fun h => hn (h.trans he)
      rw [lookup_cons_eq_ite, lookup_cons_eq_ite, if_neg hne, if_neg hne]
    · have hne : n ≠ e.1 := fun h => he (h.symm.trans hn)
      rw [lookup_cons_eq_ite, if_neg hne, ih, if_pos hn]
    · rw [lookup_cons_eq_ite, lookup_cons_eq_ite, ih, if_neg hn]

theorem lookup_ofList (writes : List (κ × α)) (n : κ) :
    (ofList writes).lookup n = writes.reverse.lookup n := by
  induction writes using List.reverseRecOn with
  | nil => rfl
  | append_singleton ws w ih =>
    rw [ofList_concat, lookup_put, ih, List.reverse_concat, lookup_cons_eq_ite]

/-- Entries with distinct names are known by their names and what stands under each. -/
theorem filterMap_lookup {entries : List (κ × α)} (h : (entries.map Prod.fst).Nodup) :
    ((entries.map Prod.fst).filterMap fun n => (entries.lookup n).map (n, ·)) = entries := by
  induction entries with
  | nil => rfl
  | cons e rest ih =>
    rw [List.map_cons, List.nodup_cons] at h
    have hrest : ∀ n ∈ rest.map Prod.fst,
        ((e :: rest).lookup n).map (n, ·) = (rest.lookup n).map (n, ·) := by
      intro n hn
      have hne : n ≠ e.1 := fun he => h.1 (he ▸ hn)
      rw [lookup_cons_eq_ite, if_neg hne]
    rw [List.map_cons, List.filterMap_cons, lookup_cons_eq_ite, if_pos rfl,
      List.filterMap_congr hrest, ih h.2]
    rfl

theorem ofList_eq_firstLast (writes : List (κ × α)) : ofList writes = firstLast writes := by
  rw [firstLast, ← names_ofList]
  simp only [← lookup_ofList]
  exact (filterMap_lookup (nodup_ofList writes)).symm

end HttpJournal.Assoc
