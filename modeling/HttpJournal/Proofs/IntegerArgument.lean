import HttpJournal.Proofs.FormatItems
import HttpJournal.Proofs.JsonValue
import HttpJournal.Proofs.Timestamp

namespace HttpJournal

namespace Binary64

theorem div_le_roundHalfEven (num den : Nat) : num / den ≤ roundHalfEven num den := by
  unfold roundHalfEven
  dsimp only
  split_ifs <;> omega

theorem scaled_one_of_neg {k : Nat} (hk : 0 < k) (n : Nat) :
    scaled n 1 (-(k : Int)) = (n, twoTo k) := by
  have hneg : ¬(0 : Int) ≤ -(k : Int) := by omega
  rw [scaled, if_neg hneg, Int.neg_neg, Int.toNat_natCast, Nat.one_mul]

theorem twoTo_add (j k : Nat) : twoTo (j + k) = twoTo j * twoTo k := Nat.pow_add 2 j k

theorem twoTo_log2_le {n : Nat} (h : n ≠ 0) : twoTo n.log2 ≤ n := Nat.log2_self_le h

/-- The last place of a significand of 53 bits, for an integer with more than these. -/
theorem exponentFor_one {n k : Nat} (hk : 0 < k) (h : n.log2 = k + 53) :
    exponentFor n 1 0 = k + 1 := by
  have hn : n ≠ 0 := by
    rintro rfl
    simp at h
  have hlog : ((n.log2 : Nat) : Int) - (Nat.log2 1 : Nat) + 0 - 53 = k := by
    have hone : Nat.log2 1 = 0 := by decide
    omega
  have hle : twoTo 53 * twoTo k ≤ n := by
    rw [← twoTo_add, Nat.add_comm, ← h]
    exact twoTo_log2_le hn
  rw [exponentFor]
  simp only [hlog, Int.zero_sub, scaled_one_of_neg hk, if_pos hle]
  omega

theorem toInt64_of_le {m : Nat} {e : Int} (hm : twoTo 52 ≤ m) (he : 11 ≤ e) :
    (finite false m e).toInt64 = (signedLimit - 1 : Nat) := by
  obtain ⟨k, rfl⟩ : ∃ k : Nat, e = 11 + k := ⟨(e - 11).toNat, by omega⟩
  have hpos : (0 : Int) ≤ 11 + k := by omega
  have hexponent : ((11 : Int) + k).toNat = 11 + k := by omega
  have hlarge : signedLimit ≤ m * twoTo (11 + k) := by
    have hsplit : signedLimit = twoTo 52 * twoTo 11 := rfl
    have hmore : twoTo 11 ≤ twoTo (11 + k) := Nat.pow_le_pow_right (by decide) (by omega)
    rw [hsplit]
    exact Nat.mul_le_mul hm hmore
  simp only [toInt64, if_pos hpos, hexponent, Bool.false_eq_true, if_false]
  rw [Nat.min_eq_right (Nat.le_trans (Nat.sub_le _ _) hlarge)]

/-- A natural number that the signed integers do not reach comes out as the greatest of them. -/
theorem toInt64_ofNat {n : Nat} (h : signedLimit ≤ n) :
    (ofNat n).toInt64 = (signedLimit - 1 : Nat) := by
  have hn : n ≠ 0 := Nat.ne_of_gt (Nat.lt_of_lt_of_le (by decide) h)
  have hlog : 63 ≤ n.log2 := (Nat.le_log2 hn).mpr h
  obtain ⟨k, hk⟩ : ∃ k, n.log2 = k + 53 := ⟨n.log2 - 53, by omega⟩
  have hdown : (0 : Int) - (k + 1 : Nat) = -((k + 1 : Nat) : Int) := Int.zero_sub _
  have hsignificand : twoTo 52 ≤ roundHalfEven n (twoTo (k + 1)) := by
    have hpos : 0 < twoTo (k + 1) := Nat.pow_pos (by decide)
    have hsum : 52 + (k + 1) = n.log2 := by omega
    refine Nat.le_trans ?_ (div_le_roundHalfEven _ _)
    rw [Nat.le_div_iff_mul_le hpos, ← twoTo_add, hsum]
    exact twoTo_log2_le hn
  have hexponent : exponentFor n 1 0 = (k + 1 : Nat) := exponentFor_one (by omega) hk
  rw [ofNat, nearest, if_neg hn]
  simp only [hexponent, hdown, scaled_one_of_neg (Nat.succ_pos k)]
  -- rounded up to a power of two, the significand starts anew with the next exponent
  by_cases hcarry : roundHalfEven n (twoTo (k + 1)) = twoTo 53
  · simp only [if_pos hcarry]
    split_ifs
    · rfl
    · exact toInt64_of_le (Nat.le_refl _) (by omega)
  · simp only [if_neg hcarry]
    split_ifs
    · rfl
    · exact toInt64_of_le hsignificand (by omega)

end Binary64

namespace Json

def Number.ofInt : Int → Number
  | .ofNat n => .natural n
  | .negSucc n => .negative (n + 1)

namespace Number

theorem text_ofInt (n : Int) : (ofInt n).text = Decimal.ofInt n := by cases n <;> rfl

theorem isWord_ofInt {n : Int} (hlow : -(signedLimit : Int) ≤ n) (hhigh : n < wordLimit) :
    (ofInt n).IsWord := by
  cases n with
  | ofNat n => exact Int.ofNat_lt.mp hhigh
  | negSucc n => exact ⟨Nat.succ_pos n, by omega⟩

end Number

theorem read?_ofInt {n : Int} (hlow : -(signedLimit : Int) ≤ n) (hhigh : n < wordLimit) :
    read? (Decimal.ofInt n) = some (.number (.ofInt n)) := by
  rw [← Number.text_ofInt]
  exact (Value.Fits.number (Number.isWord_ofInt hlow hhigh)).read?_text

end Json

namespace Printf

open Json (Value)

theorem asInteger_ofInt (n : Int) :
    asInteger (.number (.ofInt n)) = min n (signedLimit - 1 : Nat) := by
  cases n with
  | ofNat n =>
    rw [Json.Number.ofInt, asInteger, Int.ofNat_eq_natCast]
    split_ifs with h
    · omega
    · rw [Binary64.toInt64_ofNat (Nat.le_of_not_lt h)]
      omega
  | negSucc n =>
    simp only [Json.Number.ofInt, asInteger]
    omega

theorem exists_digit_ofNat (n : Nat) :
    ∃ c ds, Decimal.ofNat n = c :: ds ∧ c.isDigit ∧ ∀ d ∈ ds, d.isDigit := by
  obtain ⟨c, ds, hds⟩ := List.exists_cons_of_ne_nil (Decimal.ofNat_ne_nil n)
  have hdigits : ∀ d ∈ c :: ds, d.isDigit := fun d hd => Decimal.isDigit_of_mem_ofNat (hds ▸ hd)
  rw [List.forall_mem_cons] at hdigits
  exact ⟨c, ds, hds, hdigits.1, hdigits.2⟩

theorem leadingInteger_digits {c : Char} {ds : Text} (hc : c = '-' ∨ c.isDigit)
    (hds : ∀ d ∈ ds, d.isDigit) : leadingInteger (c :: ds) = signedInteger (c :: ds) := by
  have hblank : isBlank c = false := by
    rcases hc with rfl | hc
    · decide
    · exact Stamp.isBlank_of_isDigit hc
  have hbegins : c = '-' ∨ c = '+' ∨ c.isDigit := by
    rcases hc with hc | hc
    · exact Or.inl hc
    · exact Or.inr (Or.inr hc)
  rw [leadingInteger, List.dropWhile_cons_of_neg (by simp [hblank])]
  dsimp only
  rw [if_pos hbegins, List.takeWhile_eq_self_iff.mpr hds]

theorem signedInteger_ofInt (n : Int) :
    signedInteger (Decimal.ofInt n) =
      if -(signedLimit : Int) ≤ n ∧ n < signedLimit then n else 0 := by
  cases n with
  | ofNat n =>
    obtain ⟨c, ds, htext, hc, -⟩ := exists_digit_ofNat n
    have hvalue : Decimal.value (c :: ds) = n := htext ▸ Decimal.value_ofNat n
    have hminus : c ≠ '-' := by
      rintro rfl
      exact absurd hc (by decide)
    have hplus : c ≠ '+' := by
      rintro rfl
      exact absurd hc (by decide)
    rw [Decimal.ofInt, htext]
    unfold signedInteger
    split
    · next heq =>
      split at heq
      · next h => exact absurd (List.cons.inj h).1 hminus
      · next h => exact absurd (List.cons.inj h).1 hplus
      · cases heq
        simp only [hvalue, Bool.false_eq_true, if_false, Int.ofNat_eq_natCast]
  | negSucc n =>
    have htext : Decimal.ofInt (.negSucc n) = '-' :: Decimal.ofNat (n + 1) := rfl
    have hvalue : (Decimal.value (Decimal.ofNat (n + 1)) : Int) = n + 1 := by
      rw [Decimal.value_ofNat, Int.natCast_succ]
    rw [htext]
    unfold signedInteger
    simp only [hvalue, if_true, Int.negSucc_eq]

theorem leadingInteger_ofInt (n : Int) :
    leadingInteger (Decimal.ofInt n) =
      if -(signedLimit : Int) ≤ n ∧ n < signedLimit then n else 0 := by
  rw [← signedInteger_ofInt]
  cases n with
  | ofNat n =>
    obtain ⟨c, ds, htext, hc, hds⟩ := exists_digit_ofNat n
    rw [Decimal.ofInt, htext]
    exact leadingInteger_digits (Or.inr hc) hds
  | negSucc n =>
    rw [Decimal.ofInt]
    exact leadingInteger_digits (Or.inl rfl) fun _ => Decimal.isDigit_of_mem_ofNat

theorem not_special_of_conversion? {c : Char} {write : Value → Text}
    (h : conversion? c = some write) : c.isDigit = false ∧ c ≠ '%' := by
  unfold conversion? at h
  split at h
  · exact ⟨rfl, by decide⟩
  · exact ⟨rfl, by decide⟩
  · exact ⟨rfl, by decide⟩
  · cases h

/-- A format that is one directive and nothing else. -/
theorem sprintf_directive {c : Char} {write : Value → Text} (h : conversion? c = some write)
    (v : Value) : sprintf (.ofList ['%', c]) [v] = .ok (.ofList (write v)) := by
  obtain ⟨hdigit, hpercent⟩ := not_special_of_conversion? h
  have hcut : Cut ['%', c] [.sequential c] := .sequential hdigit hpercent .nil
  have htext : (Item.sequential c).text [v] 0 = .ok (write v) := by
    rw [Item.text, substitute, h]
    rfl
  have hrest : rendered [v] 1 [] = .ok [] := rfl
  have hrendered : rendered [v] 0 [.sequential c] = .ok (write v) := by
    rw [rendered_cons, htext]
    change before (write v) (rendered [v] 1 []) = _
    rw [hrest, before, List.append_nil]
  rw [sprintf, String.toList_ofList, hcut.formatFrom_eq, hrendered]
  rfl

theorem sprintf_text_directive (v : Value) : sprintf "%s" [v] = .ok (.ofList (asText v)) :=
  sprintf_directive (c := 's') rfl v

theorem sprintf_integer_directive (v : Value) :
    sprintf "%d" [v] = .ok (.ofList (Decimal.ofInt (asInteger v))) :=
  sprintf_directive (c := 'd') rfl v

/-- The text of an integer of 64 bits, read as JSON and written as text, is itself again. Written
as an integer, read as JSON or as it stands, it is itself below 2^63. -/
theorem sprintf_integer (n : Int) (hlow : -(signedLimit : Int) ≤ n) (hhigh : n < wordLimit) :
    ∃ v, Json.read? (Decimal.ofInt n) = some v ∧
      sprintf "%s" [v] = .ok (.ofList (Decimal.ofInt n)) ∧
      (n < signedLimit →
        sprintf "%d" [v] = .ok (.ofList (Decimal.ofInt n)) ∧
        sprintf "%d" [.string (.ofList (Decimal.ofInt n))] = .ok (.ofList (Decimal.ofInt n))) ∧
      (signedLimit ≤ n →
        sprintf "%d" [v] = .ok "9223372036854775807" ∧
        sprintf "%d" [.string (.ofList (Decimal.ofInt n))] = .ok "0") := by
  have hnumber := asInteger_ofInt n
  have hstring : asInteger (.string (.ofList (Decimal.ofInt n))) =
      if -(signedLimit : Int) ≤ n ∧ n < signedLimit then n else 0 := by
    rw [asInteger, String.toList_ofList, leadingInteger_ofInt]
  refine ⟨.number (.ofInt n), Json.read?_ofInt hlow hhigh, ?_, ?_, ?_⟩
  · rw [← Json.Number.text_ofInt n]
    exact sprintf_text_directive _
  · intro hn
    have hmin : min n ((signedLimit - 1 : Nat) : Int) = n := min_eq_left (by omega)
    rw [sprintf_integer_directive, sprintf_integer_directive, hnumber, hmin, hstring,
      if_pos ⟨hlow, hn⟩]
    exact ⟨rfl, rfl⟩
  · intro hn
    have hmin : min n ((signedLimit - 1 : Nat) : Int) = (signedLimit - 1 : Nat) :=
      min_eq_right (by omega)
    have hlarge : ¬(-(signedLimit : Int) ≤ n ∧ n < signedLimit) := by omega
    rw [sprintf_integer_directive, sprintf_integer_directive, hnumber, hmin, hstring,
      if_neg hlarge]
    exact ⟨by decide, by decide⟩

theorem sprintf_integer_extremes :
    (-(signedLimit : Int) ≤ -9223372036854775808 ∧ (-9223372036854775808 : Int) < signedLimit ∧
      sprintf "%s" [.number (.negative 9223372036854775808)] = .ok "-9223372036854775808" ∧
      sprintf "%d" [.number (.negative 9223372036854775808)] = .ok "-9223372036854775808" ∧
      sprintf "%d" [.string "-9223372036854775808"] = .ok "-9223372036854775808") ∧
    ((signedLimit : Int) ≤ 18446744073709551615 ∧ (18446744073709551615 : Int) < wordLimit ∧
      sprintf "%s" [.number (.natural 18446744073709551615)] = .ok "18446744073709551615" ∧
      sprintf "%d" [.number (.natural 18446744073709551615)] = .ok "9223372036854775807" ∧
      sprintf "%d" [.string "18446744073709551615"] = .ok "0") := by
  have hleast : String.ofList (Decimal.ofInt (-9223372036854775808)) = "-9223372036854775808" := by
    decide
  have hgreatest : String.ofList (Decimal.ofInt 18446744073709551615) = "18446744073709551615" := by
    decide
  constructor
  · obtain ⟨v, hread, hs, hd, -⟩ :=
      sprintf_integer (-9223372036854775808) (by decide) (by decide)
    obtain rfl := Option.some.inj (hread.symm.trans (Json.read?_ofInt (by decide) (by decide)))
    obtain ⟨hnumber, hstring⟩ := hd (by decide)
    rw [hleast] at hs hnumber hstring
    exact ⟨by decide, by decide, hs, hnumber, hstring⟩
  · obtain ⟨v, hread, hs, -, hd⟩ :=
      sprintf_integer 18446744073709551615 (by decide) (by decide)
    obtain rfl := Option.some.inj (hread.symm.trans (Json.read?_ofInt (by decide) (by decide)))
    obtain ⟨hnumber, hstring⟩ := hd (by decide)
    rw [hgreatest] at hs hstring
    exact ⟨by decide, by decide, hs, hnumber, hstring⟩

/-- The least integer that is not a signed one, as a number and as a text. -/
theorem not_sprintf_integer_signedLimit :
    (9223372036854775808 : Int) < wordLimit ∧
      Json.read? "9223372036854775808".toList = some (.number (.natural 9223372036854775808)) ∧
      sprintf "%d" [.number (.natural 9223372036854775808)] ≠ .ok "9223372036854775808" ∧
      sprintf "%d" [.string "9223372036854775808"] ≠ .ok "9223372036854775808" := by
  have htext : "9223372036854775808".toList = Decimal.ofInt 9223372036854775808 := by decide
  have hnumber : asInteger (.number (.natural 9223372036854775808)) = 9223372036854775807 :=
    asInteger_ofInt 9223372036854775808
  have hstring : asInteger (.string "9223372036854775808") = 0 := by
    rw [asInteger, htext, leadingInteger_ofInt]
    decide
  refine ⟨by decide, ?_, ?_, ?_⟩
  · rw [htext]
    exact Json.read?_ofInt (by decide) (by decide)
  · rw [sprintf_integer_directive, hnumber]
    decide
  · rw [sprintf_integer_directive, hstring]
    decide

end Printf

end HttpJournal
