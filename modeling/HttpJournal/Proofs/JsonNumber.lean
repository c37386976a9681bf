import HttpJournal.Json.Reader
import HttpJournal.Json.Writer
import HttpJournal.Proofs.Decimal

namespace HttpJournal.Json

def Number.IsWord : Number → Prop
  | .natural n => n < wordLimit
  | .negative n => 0 < n ∧ n ≤ signedLimit
  | .real _ => False

instance Number.decidableIsWord : (n : Number) → Decidable n.IsWord
  | .natural n => inferInstanceAs (Decidable (n < wordLimit))
  | .negative n => inferInstanceAs (Decidable (0 < n ∧ n ≤ signedLimit))
  | .real _ => inferInstanceAs (Decidable False)

/-- What may follow a value inside a document. -/
def Closes (t : Text) : Prop := t = [] ∨ ∃ c rest, t = c :: rest ∧ (c = ',' ∨ c = ']' ∨ c = '}')

theorem Closes.beginsWithDigit {t : Text} (h : Closes t) : beginsWithDigit t = false := by
  rcases h with rfl | ⟨c, rest, rfl, rfl | rfl | rfl⟩ <;> rfl

theorem takeDigits_stop {t : Text} (h : beginsWithDigit t = false) (s taken : Nat) :
    takeDigits s taken t = (s, taken, t) := by
  cases t with
  | nil => rfl
  | cons c t =>
    have hc : ¬c.isDigit := by simpa [beginsWithDigit] using h
    rw [takeDigits, if_neg (fun hand => hc hand.1)]

theorem takeDigits_append {ds t : Text} (hds : ∀ c ∈ ds, c.isDigit)
    (ht : beginsWithDigit t = false) {s : Nat} (taken : Nat)
    (hs : ds.foldl (fun n c => 10 * n + Decimal.digit c) s < wordLimit) :
    takeDigits s taken (ds ++ t) =
      (ds.foldl (fun n c => 10 * n + Decimal.digit c) s, taken + ds.length, t) := by
  induction ds generalizing s taken with
  | nil => exact takeDigits_stop ht s taken
  | cons c ds ih =>
    rw [List.forall_mem_cons] at hds
    rw [List.foldl_cons] at hs ⊢
    -- what is read so far is no more than the whole, which fits
    have hle := Decimal.le_foldl (10 * s + Decimal.digit c) ds
    have hlen : taken + (c :: ds).length = taken + 1 + ds.length := by
      rw [List.length_cons]
      omega
    rw [List.cons_append, takeDigits, if_pos ⟨hds.1, Nat.lt_of_le_of_lt hle hs⟩,
      ih hds.2 (taken + 1) hs, hlen]

theorem takeDigits_lt {s : Nat} (hs : s < wordLimit) (taken : Nat) (t : Text) :
    (takeDigits s taken t).1 < wordLimit := by
  induction t generalizing s taken with
  | nil => exact hs
  | cons c t ih =>
    rw [takeDigits]
    split_ifs with h
    · exact ih h.2 (taken + 1)
    · exact hs

theorem span_stop {t : Text} (h : beginsWithDigit t = false) : Decimal.span t = ([], t) := by
  cases t with
  | nil => rfl
  | cons c t =>
    have hc : ¬c.isDigit := by simpa [beginsWithDigit] using h
    rw [Decimal.span, List.takeWhile_cons_of_neg hc, List.dropWhile_cons_of_neg hc]

theorem beginsWithDigit_ofNat (n : Nat) (t : Text) :
    beginsWithDigit (Decimal.ofNat n ++ t) = true := by
  obtain ⟨c, ds, hds⟩ := List.exists_cons_of_ne_nil (Decimal.ofNat_ne_nil n)
  rw [hds]
  exact Decimal.isDigit_of_mem_ofNat (hds ▸ List.mem_cons_self)

/-- No second digit follows a zero. -/
theorem beginsWithDigit_of_zero {n : Nat} {t r : Text} (ht : beginsWithDigit t = false)
    (h : Decimal.ofNat n ++ t = '0' :: r) : beginsWithDigit r = false := by
  rcases Nat.eq_zero_or_pos n with rfl | hn
  · rw [← (List.cons.inj h).2]
    exact ht
  · have hhead := Decimal.head_ofNat hn
    rw [← List.head?_append_of_ne_nil _ (Decimal.ofNat_ne_nil n), h] at hhead
    exact absurd rfl hhead

theorem number_of_takeDigits {negative : Bool} {u t : Text} {n k : Nat}
    (hu : beginsWithDigit u = true) (hzero : ∀ r, u = '0' :: r → beginsWithDigit r = false)
    (htake : takeDigits 0 0 u = (n, k, t)) (ht : Closes t) :
    number negative u = some (integer negative n, t) := by
  have hspan := span_stop ht.beginsWithDigit
  unfold number
  dsimp only
  split
  case h_1 r =>
    simp only [hu, hzero r rfl, htake, hspan]
    rcases ht with rfl | ⟨c, r, rfl, rfl | rfl | rfl⟩ <;> rfl
  case h_2 =>
    simp only [hu, htake, hspan]
    rcases ht with rfl | ⟨c, r, rfl, rfl | rfl | rfl⟩ <;> rfl

theorem number_ofNat (negative : Bool) {n : Nat} (hn : n < wordLimit) {t : Text} (ht : Closes t) :
    number negative (Decimal.ofNat n ++ t) = some (integer negative n, t) := by
  have hdigit := ht.beginsWithDigit
  have hvalue : (Decimal.ofNat n).foldl (fun n c => 10 * n + Decimal.digit c) 0 = n :=
    Decimal.value_ofNat n
  have htake := takeDigits_append (fun _ => Decimal.isDigit_of_mem_ofNat (n := n)) hdigit 0
    (by rwa [hvalue])
  rw [hvalue] at htake
  exact number_of_takeDigits (beginsWithDigit_ofNat n t)
    (fun _ h => beginsWithDigit_of_zero hdigit h) htake ht

theorem isWord_integer {negative : Bool} {n : Nat} (hn : n < wordLimit)
    (h : ∀ x, integer negative n ≠ .real x) : (integer negative n).IsWord := by
  cases negative with
  | false => exact hn
  | true =>
    by_cases hs : 0 < n ∧ n ≤ signedLimit
    · simp [integer, hs, Number.IsWord]
    · exact absurd (by simp [integer, hs]) (h (Binary64.ofNat n).negate)

theorem exists_real_of_real? {negative : Bool} {s : Nat} {e : Int} {m : Number}
    (h : real? negative s e = some m) : ∃ x, m = .real x := by
  unfold real? at h
  extract_lets sign x at h
  split_ifs at h
  · exact ⟨_, (Option.some.inj h).symm⟩
  · exact ⟨_, (Option.some.inj h).symm⟩
  · split at h
    · cases h
    · exact ⟨_, (Option.some.inj h).symm⟩

theorem exists_real_of_map {negative : Bool} {s : Nat} {e : Int} {m : Number} {t r : Text}
    (h : (real? negative s e).map (·, t) = some (m, r)) : ∃ x, m = .real x := by
  obtain ⟨m', hreal, hm⟩ := Option.map_eq_some_iff.mp h
  obtain ⟨rfl, -⟩ := Prod.mk.inj hm
  exact exists_real_of_real? hreal

theorem exists_real_of_exponentOf {negative : Bool} {s : Nat} {e : Int} {m : Number} {t r : Text}
    (h : exponentOf negative s e t = some (m, r)) : ∃ x, m = .real x := by
  unfold exponentOf at h
  dsimp only at h
  split_ifs at h
  all_goals exact exists_real_of_map h

theorem exists_real_of_fractionOf {negative : Bool} {s : Nat} {e : Int} {m : Number} {t r : Text}
    (h : fractionOf negative s e t = some (m, r)) : ∃ x, m = .real x := by
  unfold fractionOf at h
  dsimp only at h
  split_ifs at h
  split at h
  · exact exists_real_of_exponentOf h
  · exact exists_real_of_exponentOf h
  · exact exists_real_of_map h

theorem isWord_of_number {negative : Bool} {m : Number} {t r : Text}
    (h : number negative t = some (m, r)) (hm : ∀ x, m ≠ .real x) : m.IsWord := by
  have hreal : ¬∃ x, m = .real x := not_exists.mpr hm
  have hlt := takeDigits_lt (by decide : 0 < wordLimit) 0 t
  unfold number at h
  extract_lets leadingZero at h
  split_ifs at h
  dsimp only at h
  split at h
  · exact absurd (exists_real_of_fractionOf h) hreal
  · exact absurd (exists_real_of_exponentOf h) hreal
  · exact absurd (exists_real_of_exponentOf h) hreal
  · split_ifs at h
    · obtain ⟨rfl, -⟩ := Prod.mk.inj (Option.some.inj h)
      exact isWord_integer hlt hm
    · exact absurd (exists_real_of_map h) hreal

end HttpJournal.Json
