import HttpJournal.Line
import HttpJournal.Proofs.Calendar
import HttpJournal.Proofs.Decimal

namespace HttpJournal

namespace Stamp

theorem digits_append {ds : Text} (hds : ∀ c ∈ ds, c.isDigit) (acc : Nat) (rest : Text) :
    digits ds.length acc (ds ++ rest) =
      .ok (ds.foldl (fun n c => 10 * n + Decimal.digit c) acc, rest) := by
  induction ds generalizing acc with
  | nil => rfl
  | cons c ds ih =>
    rw [List.forall_mem_cons] at hds
    rw [List.length_cons, List.cons_append, digits, if_pos hds.1, ih hds.2]
    rfl

theorem digits_padded {width n : Nat} (hw : 0 < width) (hn : n < tenTo width) (rest : Text) :
    digits width 0 (Decimal.padded width n ++ rest) = .ok (n, rest) := by
  have hds : ∀ c ∈ Decimal.padded width n, c.isDigit := fun _ => Decimal.isDigit_of_mem_padded
  have h := digits_append hds 0 rest
  rw [Decimal.length_padded hw hn] at h
  rw [h]
  exact congrArg (fun n => Except.ok (n, rest)) (Decimal.value_padded width n)

theorem one_cons (c : Char) (rest : Text) : one c (c :: rest) = .ok ((), rest) := if_pos rfl

/-- A date that is written with a year of four digits and read again. -/
theorem date_text {d : Date} (hvalid : d.isValid) (h0 : 0 ≤ d.year) (h1 : d.year ≤ 9999)
    (rest : Text) : date (d.text ++ rest) = .ok (d, rest) := by
  obtain ⟨year, month, day⟩ := d
  dsimp only at h0 h1
  obtain ⟨y, rfl⟩ := Int.eq_ofNat_of_zero_le h0
  have hbounds := hvalid
  simp only [Date.isValid, Bool.and_eq_true, decide_eq_true_eq] at hbounds
  have hle := Date.daysInMonth_le y month
  have hfour : tenTo 4 = 10000 := rfl
  have htwo : tenTo 2 = 100 := rfl
  have hy := digits_padded (by decide : 0 < 4) (by omega : y < tenTo 4)
  have hm := digits_padded (by decide : 0 < 2) (by omega : month < tenTo 2)
  have hd := digits_padded (by decide : 0 < 2) (by omega : day < tenTo 2) rest
  have hyear : Date.yearText y = Decimal.padded 4 y := if_pos ⟨h0, h1⟩
  rw [date, Date.text, hyear]
  simp only [List.append_assoc, List.cons_append, hy, hm, hd, one_cons, bind, Except.bind, check,
    hvalid]
  rfl

theorem clock_clock (d : Date) {t : DateTime} (ht : t.hasValidClock) (rest : Text) :
    clock d (t.clock ++ rest) = .ok ({ t with date := d }, rest) := by
  have hbounds := ht
  simp only [DateTime.hasValidClock, Bool.and_eq_true, decide_eq_true_eq] at hbounds
  have htwo : tenTo 2 = 100 := rfl
  have hh := digits_padded (by decide : 0 < 2) (by omega : t.hour < tenTo 2)
  have hm := digits_padded (by decide : 0 < 2) (by omega : t.minute < tenTo 2)
  have hs := digits_padded (by decide : 0 < 2) (by omega : t.second < tenTo 2) rest
  rw [clock, DateTime.clock]
  simp only [List.append_assoc, List.cons_append, hh, hm, hs, one_cons, bind, Except.bind]
  rfl

theorem length_le_encode (t : Text) : t.length ≤ (Utf8.encode t).length := by
  induction t with
  | nil => exact Nat.le_refl 0
  | cons c t ih =>
    have hc := Char.utf8Size_pos c
    rw [Utf8.encode, List.flatMap_cons, List.length_append, String.length_utf8EncodeChar,
      List.length_cons]
    change t.length + 1 ≤ c.utf8Size + (Utf8.encode t).length
    omega

end Stamp

/-- An instant of a year of four digits. A clock prolongs a second at most to two. -/
structure Instant.IsPlain (i : Instant) : Prop where
  nanos : i.nanos < 2 * Instant.second
  year : 0 ≤ (i.toLocal 0).date.year ∧ (i.toLocal 0).date.year ≤ 9999

namespace Stamp

theorem hasValidClock_toLocal {i : Instant} (h : i.nanos < 2 * Instant.second) (offset : Int) :
    (i.toLocal offset).hasValidClock := by
  have hleap : i.nanos / Instant.second < 2 := Nat.div_lt_of_lt_mul (by omega)
  unfold DateTime.hasValidClock Instant.toLocal
  dsimp only
  simp only [Bool.and_eq_true, decide_eq_true_eq]
  omega

theorem isValid_toLocal {i : Instant} (h : i.IsPlain) : (i.toLocal 0).date.isValid := by
  apply Date.isValid_ofDays
  · exact Int.le_trans (by decide) h.year.1
  · exact Int.le_trans h.year.2 (by decide)

theorem le_length_yearText (year : Int) : 4 ≤ (Date.yearText year).length := by
  rw [Date.yearText]
  split_ifs
  all_goals
    simp only [Decimal.padded, List.length_cons, List.length_append, List.length_replicate]
    omega

theorem le_length_dateText (d : Date) : 10 ≤ d.text.length := by
  have hyear := le_length_yearText d.year
  simp only [Date.text, Decimal.padded, List.length_append, List.length_cons,
    List.length_replicate]
  omega

theorem le_length_clock (t : DateTime) : 8 ≤ t.clock.length := by
  simp only [DateTime.clock, Decimal.padded, List.length_append, List.length_cons,
    List.length_replicate]
  omega

theorem le_length_utcText (i : Instant) : 19 ≤ (utcText i).length := by
  have hdate := le_length_dateText (i.toLocal 0).date
  have hclock := le_length_clock (i.toLocal 0)
  simp only [utcText, List.length_append, List.length_cons]
  omega

theorem not_tooShort_utcText (i : Instant) : ¬(Utf8.encode (utcText i)).length < 19 :=
  Nat.not_lt.mpr (Nat.le_trans (le_length_utcText i) (length_le_encode _))

theorem rfc3339_utcText {i : Instant} (h : i.IsPlain) :
    rfc3339 (utcText i) = .ok (Instant.ofLocal (i.toLocal 0) 0 0) := by
  have hclock := hasValidClock_toLocal h.nanos 0
  have hdate := date_text (isValid_toLocal h) h.year.1 h.year.2
  have hseparator (t : Text) : separator ('T' :: t) = .ok ((), t) := rfl
  have hfraction (t : Text) : fraction ('+' :: t) = .ok (0, '+' :: t) := rfl
  have hoffset : offset ['+', '0', '0', ':', '0', '0'] = .ok (0, []) := rfl
  rw [rfc3339, if_neg (not_tooShort_utcText i), utcText]
  simp only [List.append_assoc, List.cons_append, hdate, hseparator, clock_clock _ hclock,
    hfraction, check, hclock, hoffset, bind, Except.bind]
  rfl

theorem isBlank_of_isDigit {c : Char} (h : c.isDigit) : isBlank c = false := by
  have hb := Decimal.bounds_of_isDigit h
  simp [isBlank]
  omega

theorem mem_yearText {year : Int} {c : Char} (h : c ∈ Date.yearText year) :
    c.isDigit ∨ c = '-' ∨ c = '+' := by
  rw [Date.yearText] at h
  split_ifs at h
  · exact Or.inl (Decimal.isDigit_of_mem_padded h)
  all_goals
    rcases List.mem_cons.mp h with rfl | h
    · simp
    · exact Or.inl (Decimal.isDigit_of_mem_padded h)

theorem isBlank_of_mem_utcText {i : Instant} {c : Char} (hc : c ∈ utcText i) :
    isBlank c = false := by
  have hdigit {width n : Nat} (hc : c ∈ Decimal.padded width n) : isBlank c = false :=
    isBlank_of_isDigit (Decimal.isDigit_of_mem_padded hc)
  simp only [utcText, Date.text, DateTime.clock, List.mem_append, List.mem_cons,
    List.not_mem_nil, or_false] at hc
  rcases hc with
    (((hc | rfl | hc) | rfl | hc) | rfl | (hc | rfl | hc) | rfl | hc) | rfl | rfl | rfl | rfl |
      rfl | rfl
  · rcases mem_yearText hc with h | rfl | rfl
    · exact isBlank_of_isDigit h
    all_goals rfl
  all_goals first | exact hdigit hc | rfl

end Stamp

theorem Text.trim_of_not_blank {t : Text} (h : ∀ c ∈ t, isBlank c = false) : Text.trim t = t := by
  have hdrop (u : Text) (hu : ∀ c ∈ u, isBlank c = false) : u.dropWhile isBlank = u := by
    cases u with
    | nil => rfl
    | cons c u => exact List.dropWhile_cons_of_neg (by simp [hu c List.mem_cons_self])
  have hreverse := hdrop t.reverse fun c hc => h c (List.mem_reverse.mp hc)
  rw [trim, strip, dropTrailing, hdrop t h, hreverse, List.reverse_reverse]

theorem Text.trim_utcText (i : Instant) : Text.trim (Stamp.utcText i) = Stamp.utcText i :=
  trim_of_not_blank fun _ => Stamp.isBlank_of_mem_utcText

/-- The timestamp of an instant is moved into every zone. -/
theorem Zone.localize_utcText (z : Zone) {i : Instant} (h : i.IsPlain) :
    z.localize (Stamp.utcText i) =
      .ok (z.toLocal (Instant.ofLocal (i.toLocal 0) 0 0)).text := by
  rw [Zone.localize]
  simp only [Text.trim_utcText, Stamp.rfc3339_utcText h]

end HttpJournal
