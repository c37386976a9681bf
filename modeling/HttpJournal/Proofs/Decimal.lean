import HttpJournal.Number.Decimal
import HttpJournal.Number.Word
import HttpJournal.Proofs.List
import Mathlib.Data.List.Induction
import Mathlib.Tactic.SplitIfs

namespace HttpJournal.Decimal

theorem bounds_of_isDigit {c : Char} (h : c.isDigit) : 0x30 ≤ c.toNat ∧ c.toNat ≤ 0x39 := by
  simp only [Char.isDigit, Bool.and_eq_true, decide_eq_true_eq, ge_iff_le,
    UInt32.le_iff_toNat_le] at h
  exact h

theorem digit_digitChar : ∀ d < 10, digit (Nat.digitChar d) = d := by decide

theorem value_concat (t : Text) (c : Char) : value (t ++ [c]) = 10 * value t + digit c := by
  simp [value, List.foldl_append]

theorem isDigit_of_mem_ofNat {n : Nat} {c : Char} (h : c ∈ ofNat n) : c.isDigit :=
  Nat.isDigit_of_mem_toDigits (by decide) (by decide) h

theorem ofNat_ne_nil (n : Nat) : ofNat n ≠ [] := Nat.toDigits_ne_nil

theorem ofNat_of_lt {n : Nat} (h : n < 10) : ofNat n = [Nat.digitChar n] :=
  Nat.toDigits_of_lt_base h

theorem ofNat_of_le {n : Nat} (h : 10 ≤ n) :
    ofNat n = ofNat (n / 10) ++ [Nat.digitChar (n % 10)] :=
  Nat.toDigits_of_base_le (by decide) h

theorem value_ofNat (n : Nat) : value (ofNat n) = n := by
  induction n using Nat.strongRecOn with
  | ind n ih =>
    by_cases h : n < 10
    · rw [ofNat_of_lt h, ← List.nil_append [_], value_concat, digit_digitChar n h]
      exact Nat.zero_add n
    · have hmod : n % 10 < 10 := Nat.mod_lt n (by decide)
      rw [ofNat_of_le (Nat.le_of_not_lt h), value_concat, ih (n / 10) (by omega),
        digit_digitChar _ hmod]
      omega

theorem digitChar_ne_zero : ∀ d < 10, 0 < d → Nat.digitChar d ≠ '0' := by decide

/-- Only zero is written with a zero in front. -/
theorem head_ofNat {n : Nat} (hn : 0 < n) : (ofNat n).head? ≠ some '0' := by
  induction n using Nat.strongRecOn with
  | ind n ih =>
    by_cases h : n < 10
    · rw [ofNat_of_lt h]
      simpa using digitChar_ne_zero n h hn
    · have hne := ofNat_ne_nil (n / 10)
      rw [ofNat_of_le (Nat.le_of_not_lt h), List.head?_append_of_ne_nil _ hne]
      exact ih (n / 10) (by omega) (by omega)

theorem le_foldl (s : Nat) (ds : Text) : s ≤ ds.foldl (fun n c => 10 * n + digit c) s := by
  induction ds generalizing s with
  | nil => exact Nat.le_refl s
  | cons c ds ih =>
    have h := ih (10 * s + digit c)
    rw [List.foldl_cons]
    omega

theorem length_ofNat_le {width n : Nat} (hw : 0 < width) (hn : n < tenTo width) :
    (ofNat n).length ≤ width :=
  (Nat.length_toDigits_le_iff (by decide) hw).mpr hn

theorem length_padded {width n : Nat} (hw : 0 < width) (hn : n < tenTo width) :
    (padded width n).length = width := by
  have h := length_ofNat_le hw hn
  simp only [padded, List.length_append, List.length_replicate]
  omega

theorem isDigit_of_mem_padded {width n : Nat} {c : Char} (h : c ∈ padded width n) : c.isDigit := by
  rw [padded, List.mem_append, List.mem_replicate] at h
  rcases h with ⟨-, rfl⟩ | h
  · decide
  · exact isDigit_of_mem_ofNat h

theorem value_padded (width n : Nat) : value (padded width n) = n := by
  have hzeros (k : Nat) : (List.replicate k '0').foldl (fun n c => 10 * n + digit c) 0 = 0 := by
    induction k with
    | zero => rfl
    | succ k ih => exact ih
  rw [padded, value, List.foldl_append, hzeros]
  exact value_ofNat n

theorem digit_lt {c : Char} (h : c.isDigit) : digit c < 10 := by
  have hbounds := bounds_of_isDigit h
  change c.toNat - 0x30 < 10
  omega

theorem digit_injective {c d : Char} (hc : c.isDigit) (hd : d.isDigit) (h : digit c = digit d) :
    c = d := by
  have hcBounds := bounds_of_isDigit hc
  have hdBounds := bounds_of_isDigit hd
  change c.toNat - 0x30 = d.toNat - 0x30 at h
  exact Char.toNat_inj.mp (by omega)

theorem value_lt {ds : Text} (h : ∀ c ∈ ds, c.isDigit) : value ds < tenTo ds.length := by
  induction ds using List.reverseRecOn with
  | nil => decide
  | append_singleton ds c ih =>
    rw [List.forall_mem_append, List.forall_mem_singleton] at h
    have hlt := ih h.1
    have hdigit := digit_lt h.2
    have hten : tenTo (ds.length + 1) = tenTo ds.length * 10 := rfl
    rw [value_concat, List.length_append, List.length_singleton, hten]
    omega

/-- As many digits with the same value are the same digits. -/
theorem eq_of_value {ds es : Text} (hds : ∀ c ∈ ds, c.isDigit) (hes : ∀ c ∈ es, c.isDigit)
    (hlength : ds.length = es.length) (hvalue : value ds = value es) : ds = es := by
  induction ds using List.reverseRecOn generalizing es with
  | nil => exact (List.eq_nil_of_length_eq_zero hlength.symm).symm
  | append_singleton ds c ih =>
    cases es using List.reverseRecOn with
    | nil => simp at hlength
    | append_singleton es d =>
      rw [List.forall_mem_append, List.forall_mem_singleton] at hds hes
      rw [value_concat, value_concat] at hvalue
      have hc := digit_lt hds.2
      have hd := digit_lt hes.2
      have hinit : ds = es := ih hds.1 hes.1 (by simpa using hlength) (by omega)
      have hlast : c = d := digit_injective hds.2 hes.2 (by omega)
      rw [hinit, hlast]

theorem padded_value {ds : Text} (hne : ds ≠ []) (h : ∀ c ∈ ds, c.isDigit) :
    padded ds.length (value ds) = ds :=
  eq_of_value (fun _ => isDigit_of_mem_padded) h
    (length_padded (List.length_pos_iff.mpr hne) (value_lt h)) (value_padded _ _)

end HttpJournal.Decimal
