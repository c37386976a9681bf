import Mathlib.Algebra.GroupWithZero.Nat
import Mathlib.Data.List.Count
import Mathlib.Data.List.Infix
import Mathlib.Data.List.TakeWhile

namespace HttpJournal

section Run

variable {α : Type} {p : α → Bool} {u v : List α} {x : α}

theorem takeWhile_stop (hu : ∀ y ∈ u, p y) (hx : p x = false) : (u ++ x :: v).takeWhile p = u := by
  rw [List.takeWhile_append_of_pos hu, List.takeWhile_cons_of_neg (by simp [hx]), List.append_nil]

theorem dropWhile_stop (hu : ∀ y ∈ u, p y) (hx : p x = false) :
    (u ++ x :: v).dropWhile p = x :: v := by
  rw [List.dropWhile_append_of_pos hu, List.dropWhile_cons_of_neg (by simp [hx])]

theorem takeWhile_append_of_head (hu : ∀ y ∈ u, p y) (hv : ∀ y ∈ v.head?, p y = false) :
    (u ++ v).takeWhile p = u := by
  cases v with
  | nil => rw [List.append_nil, List.takeWhile_eq_self_iff.mpr hu]
  | cons y v => exact takeWhile_stop hu (hv y rfl)

theorem dropWhile_append_of_head (hu : ∀ y ∈ u, p y) (hv : ∀ y ∈ v.head?, p y = false) :
    (u ++ v).dropWhile p = v := by
  cases v with
  | nil => rw [List.append_nil, List.dropWhile_eq_nil_iff.mpr hu]
  | cons y v => exact dropWhile_stop hu (hv y rfl)

theorem head_dropWhile_ne [DecidableEq α] {b : α} (h : u.dropWhile (· ≠ x) = b :: v) : b = x := by
  have hhead := List.head?_dropWhile_not (· ≠ x) u
  rw [h] at hhead
  simpa using hhead

end Run

theorem infix_append_cons_iff {α : Type} {sep u v : List α} {x : α} (hx : x ∉ sep) :
    sep <:+: u ++ x :: v ↔ sep <:+: u ∨ sep <:+: v := by
  constructor
  · rintro ⟨a, b, hab⟩
    rcases List.append_eq_append_iff.mp hab with ⟨w, rfl, -⟩ | ⟨w, hw, hv⟩
    · exact Or.inl ⟨a, w, rfl⟩
    cases w with
    | nil =>
      rw [List.append_nil] at hw
      exact Or.inl ⟨a, [], by rw [List.append_nil, hw]⟩
    | cons y w =>
      obtain ⟨rfl, hvw⟩ := List.cons.inj hv
      rcases List.append_eq_append_iff.mp hw with ⟨z, -, hz⟩ | ⟨z, -, hz⟩
      · exact absurd (hz ▸ List.mem_append_right z List.mem_cons_self) hx
      · cases z with
        | nil =>
          have hmem : x ∈ x :: w := List.mem_cons_self
          rw [hz] at hmem
          exact absurd hmem hx
        | cons _ z =>
          have hzw : w = z ++ sep := (List.cons.inj hz).2
          exact Or.inr ⟨z, b, by rw [hvw, hzw]; rfl⟩
  · rintro (h | h)
    · exact h.trans ⟨[], x :: v, rfl⟩
    · exact h.trans ⟨u ++ [x], [], by simp⟩

theorem suffix_append_cons_iff {α : Type} {tail u v : List α} {x : α} (hx : x ∉ tail) :
    tail <:+ u ++ x :: v ↔ tail <:+ v := by
  constructor
  · rintro ⟨a, ha⟩
    rcases List.append_eq_append_iff.mp ha with ⟨z, -, hz⟩ | ⟨z, -, hz⟩
    · exact absurd (hz ▸ List.mem_append_right z List.mem_cons_self) hx
    · cases z with
      | nil => exact absurd List.mem_cons_self (by rw [hz]; exact hx)
      | cons _ z => exact ⟨z, (List.cons.inj hz).2.symm⟩
  · intro h
    exact h.trans ⟨u ++ [x], by simp⟩

section Modify

variable {α β : Type} {f : α → α} {f' : β → β} {g : α → β}

theorem map_modify (h : ∀ a, g (f a) = f' (g a)) (l : List α) (i : Nat) :
    (l.modify i f).map g = (l.map g).modify i f' := by
  apply List.ext_getElem?
  intro j
  simp only [List.getElem?_map, List.getElem?_modify]
  cases l[j]? with
  | none => rfl
  | some a => by_cases hij : i = j <;> simp [hij, h]

theorem modify_last (l : List α) (a : α) (f : α → α) :
    (l ++ [a]).modify l.length f = l ++ [f a] := by
  induction l with
  | nil => rfl
  | cons b l ih => exact congrArg (b :: ·) ih

theorem forall_mem_modify {p : α → Prop} (hf : ∀ a, p a → p (f a)) {l : List α}
    (h : ∀ a ∈ l, p a) (i : Nat) : ∀ a ∈ l.modify i f, p a := by
  induction l generalizing i with
  | nil => simp
  | cons b l ih =>
    rw [List.forall_mem_cons] at h
    cases i with
    | zero => exact List.forall_mem_cons.mpr ⟨hf b h.1, h.2⟩
    | succ i => exact List.forall_mem_cons.mpr ⟨h.1, ih h.2 i⟩

theorem modify_eq_self_iff {l : List α} {i : Nat} :
    l.modify i f = l ↔ ∀ a, l[i]? = some a → f a = a := by
  induction l generalizing i with
  | nil => simp
  | cons b l ih =>
    cases i with
    | zero => simp [List.modify_zero_cons]
    | succ i => simp [List.modify_succ_cons, ih]

theorem sum_map_modify (g : α → Nat) (f : α → α) {l : List α} {i : Nat} {a : α}
    (h : l[i]? = some a) : ((l.modify i f).map g).sum + g a = (l.map g).sum + g (f a) := by
  induction l generalizing i with
  | nil => cases h
  | cons b l ih =>
    cases i with
    | zero =>
      obtain rfl := Option.some.inj h
      simp only [List.modify_zero_cons, List.map_cons, List.sum_cons]
      omega
    | succ i =>
      have hsum := ih h
      simp only [List.modify_succ_cons, List.map_cons, List.sum_cons]
      omega

end Modify

theorem getElem?_concat_iff {α : Type} {l : List α} {a b : α} {i : Nat} :
    (l ++ [a])[i]? = some b ↔ l[i]? = some b ∨ i = l.length ∧ a = b := by
  rcases Nat.lt_trichotomy i l.length with hi | rfl | hi
  · rw [List.getElem?_append_left hi]
    simp [Nat.ne_of_lt hi]
  · simp
  · have hnone : l[i]? = none := List.getElem?_eq_none (Nat.le_of_lt hi)
    have hnone' : (l ++ [a])[i]? = none := List.getElem?_eq_none (by simp; omega)
    simp [hnone, hnone', Nat.ne_of_gt hi]

theorem count_intercalate {α : Type} [BEq α] (x : α) (sep : List α) {parts : List (List α)}
    (hne : parts ≠ []) :
    (sep.intercalate parts).count x + sep.count x =
      parts.flatten.count x + sep.count x * parts.length := by
  induction parts with
  | nil => exact absurd rfl hne
  | cons p ps ih =>
    cases ps with
    | nil => simp
    | cons q qs =>
      have h := ih (List.cons_ne_nil q qs)
      simp only [List.intercalate_cons_cons, List.flatten_cons, List.count_append,
        List.length_cons, Nat.mul_add, Nat.mul_one] at h ⊢
      omega

/-- A list without repetitions meets an element at most once. -/
theorem flatMap_ite_of_nodup {α β : Type} [DecidableEq α] {l : List α} (h : l.Nodup) (a : α)
    (bs : List β) : (l.flatMap fun x => if x = a then bs else []) = if a ∈ l then bs else [] := by
  induction l with
  | nil => rfl
  | cons x l ih =>
    rw [List.nodup_cons] at h
    rw [List.flatMap_cons, ih h.2]
    by_cases hx : x = a
    · rw [hx] at h
      simp [hx, h.1]
    · simp [hx, Ne.symm hx]

end HttpJournal
