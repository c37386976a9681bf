import HttpJournal.Proofs.LocalTime
import HttpJournal.Proofs.StampForm
import HttpJournal.Proofs.TextParts
import HttpJournal.Time.ZoneTable

namespace HttpJournal

/-- What can be read off a calendar and a clock, a leap second included. -/
structure DateTime.IsReading (t : DateTime) : Prop where
  date : t.date.isValid
  clock : t.hasValidClock

namespace DateTime.IsReading

variable {t : DateTime}

theorem month_lt (h : t.IsReading) : t.date.month < 100 := by
  have hdate := h.date
  simp only [Date.isValid, Bool.and_eq_true, decide_eq_true_eq] at hdate
  omega

theorem day_lt (h : t.IsReading) : t.date.day < 100 := by
  have hdate := h.date
  have hle := Date.daysInMonth_le t.date.year t.date.month
  simp only [Date.isValid, Bool.and_eq_true, decide_eq_true_eq] at hdate
  omega

theorem clock_lt (h : t.IsReading) : t.hour < 100 ∧ t.minute < 100 ∧ t.second < 100 := by
  have hclock := h.clock
  simp only [hasValidClock, Bool.and_eq_true, decide_eq_true_eq] at hclock
  omega

end DateTime.IsReading

namespace Stamp

theorem lenient_space (width : Nat) (t : Text) : lenient width (' ' :: t) = lenient width t := by
  rw [lenient, lenient, List.dropWhile_cons_of_pos (by decide)]

theorem plain?_text {t : DateTime} (h : t.IsReading) : plain? t.text = some t := by
  obtain ⟨hhour, hminute, hsecond⟩ := h.clock_lt
  have hlast := lenient_padded hsecond []
  rw [List.append_nil] at hlast
  rw [plain?, DateTime.text, Date.text, DateTime.clock]
  simp only [List.append_assoc, List.cons_append, lenientYear_yearText, after_cons,
    lenient_padded h.month_lt, lenient_padded h.day_lt, lenient_space, lenient_padded hhour,
    lenient_padded hminute, hlast, h.date, h.clock, Option.bind_eq_bind, Option.bind_some]
  rfl

theorem isReading_of_plain? {t : Text} {reading : DateTime} (h : plain? t = some reading) :
    reading.IsReading := by
  unfold plain? at h
  simp only [Option.bind_eq_bind, Option.bind_eq_some_iff, Prod.exists] at h
  obtain ⟨year, t₁, -, t₂, -, month, t₃, -, t₄, -, day, t₅, -, hour, t₆, -, t₇, -, minute, t₈, -,
    t₉, -, second, t₁₀, -, h⟩ := h
  split_ifs at h with hvalid
  obtain rfl := Option.some.inj h
  simp only [Bool.and_eq_true] at hvalid
  exact ⟨hvalid.1.1, hvalid.1.2⟩

theorem le_length_text (t : DateTime) : 19 ≤ t.text.length := by
  have hdate := le_length_dateText t.date
  have hclock := le_length_clock t
  simp only [DateTime.text, List.length_append, List.length_cons]
  omega

/-- A reading is never RFC 3339: it ends where the offset should be, if the sign of its year has
not been refused before. -/
theorem rfc3339_text {t : DateTime} (h : t.IsReading) :
    rfc3339 t.text =
      .error (if 0 ≤ t.date.year ∧ t.date.year ≤ 9999 then .tooShort else .invalid) := by
  have hlong : ¬(Utf8.encode t.text).length < 19 :=
    Nat.not_lt.mpr (Nat.le_trans (le_length_text t) (length_le_encode _))
  rw [rfc3339, if_neg hlong, DateTime.text]
  split_ifs with hyear
  · have hdate := date_text h.date hyear.1 hyear.2
    have hseparator (u : Text) : separator (' ' :: u) = .ok ((), u) := rfl
    have hclock := clock_clock t.date h.clock []
    have hfraction : fraction [] = .ok (0, []) := rfl
    have hoffset : offset [] = .error .tooShort := rfl
    rw [List.append_nil] at hclock
    simp only [hdate, hseparator, hclock, hfraction, check, h.clock, hoffset, bind, Except.bind]
    rfl
  · rw [date_text_of_sign hyear]
    rfl

theorem exists_yearText (year : Int) :
    ∃ c y, Date.yearText year = c :: y ∧ isBlank c = false := by
  obtain ⟨c, y, htext⟩ : ∃ c y, Date.yearText year = c :: y :=
    List.exists_cons_of_length_pos (Nat.lt_of_lt_of_le (by decide) (le_length_yearText year))
  refine ⟨c, y, htext, ?_⟩
  have hmem : c ∈ Date.yearText year := htext ▸ List.mem_cons_self
  rcases mem_yearText hmem with hc | rfl | rfl
  · exact isBlank_of_isDigit hc
  · decide
  · decide

end Stamp

theorem Text.trim_of_ends {t : Text} (hne : t ≠ []) (hhead : ∀ c ∈ t.head?, isBlank c = false)
    (hlast : ∀ c ∈ t.getLast?, isBlank c = false) : trim t = t := by
  have h := strip_append (List.forall_mem_nil _) (List.forall_mem_nil _) hne hhead hlast
  rwa [List.nil_append, List.append_nil] at h

theorem Text.trim_text (t : DateTime) : trim t.text = t.text := by
  obtain ⟨c, y, hyear, hc⟩ := Stamp.exists_yearText t.date.year
  obtain ⟨rest, htext⟩ : ∃ rest, t.text = c :: rest := by
    rw [DateTime.text, Date.text, hyear]
    exact ⟨_, rfl⟩
  apply trim_of_ends
  · rw [htext]
    exact List.cons_ne_nil c rest
  · intro d hd
    rw [htext] at hd
    obtain rfl := Option.some.inj hd
    exact hc
  · -- the second is last, and its last digit with it
    have hsplit : t.text = (t.date.text ++ ' ' :: (Decimal.padded 2 t.hour ++ ':' ::
        Decimal.padded 2 t.minute ++ [':'])) ++ Decimal.padded 2 t.second := by
      simp [DateTime.text, DateTime.clock]
    have hne : Decimal.padded 2 t.second ≠ [] := by simp [Decimal.padded, Decimal.ofNat_ne_nil]
    intro d hd
    rw [hsplit, List.getLast?_append_of_ne_nil _ hne] at hd
    exact Stamp.isBlank_of_isDigit (Decimal.isDigit_of_mem_padded (List.mem_of_getLast? hd))

/-- The text of a reading stays as it is in every zone. -/
theorem Zone.localize_text (z : Zone) {t : DateTime} (h : t.IsReading) :
    z.localize t.text = .ok t.text := by
  rw [localize]
  simp only [Text.trim_text, Stamp.rfc3339_text h, Stamp.plain?_text h]

theorem Date.year_bounds {n : Int} (hlow : -4000000 ≤ n) (hhigh : n ≤ 4000000) :
    minYear ≤ (ofDays n).year ∧ (ofDays n).year ≤ maxYear := by
  obtain ⟨year, d, hdate, hn, hd, hlast⟩ := ofDays_eq_ofMarch n
  have hmin : minYear = -262143 := rfl
  have hmax : maxYear = 262142 := rfl
  have hyear : (ofMarch year d).year = year ∨ (ofMarch year d).year = year + 1 := by
    simp only [ofMarch]
    omega
  unfold marchFirst at hn
  rw [hdate, hmin, hmax]
  omega

theorem Date.toDays_bounds {d : Date} (h : d.isValid) (h0 : 0 ≤ d.year) (h1 : d.year ≤ 9999) :
    -3000000 ≤ d.toDays ∧ d.toDays ≤ 3000000 := by
  have hle := daysInMonth_le d.year d.month
  simp only [isValid, Bool.and_eq_true, decide_eq_true_eq] at h
  simp only [toDays]
  omega

namespace Stamp

theorem fraction_lt {t rest : Text} {n : Nat} (h : fraction t = .ok (n, rest)) :
    n < Instant.second := by
  unfold fraction at h
  split at h
  · next t =>
    simp only at h
    split_ifs at h
    cases h
    have hdigits : ∀ c ∈ (t.takeWhile Char.isDigit).take 9, c.isDigit :=
      fun c hc => List.mem_takeWhile_imp (List.mem_of_mem_take hc)
    have hlength : ((t.takeWhile Char.isDigit).take 9).length ≤ 9 := List.length_take_le _ _
    generalize (t.takeWhile Char.isDigit).take 9 = ds at *
    have hsplit : tenTo ds.length * tenTo (9 - ds.length) = Instant.second := by
      have hsum : ds.length + (9 - ds.length) = 9 := by omega
      exact (Nat.pow_add 10 _ _).symm.trans (congrArg (10 ^ ·) hsum)
    rw [← hsplit]
    exact Nat.mul_lt_mul_of_pos_right (Decimal.value_lt hdigits) (Nat.pow_pos (by decide))
  · cases h
    decide

end Stamp

/-- The reading of a clock less than a day ahead of Greenwich or behind it. -/
theorem Instant.isReading_toLocal {t : DateTime} (h : t.IsReading) (h0 : 0 ≤ t.date.year)
    (h1 : t.date.year ≤ 9999) {nanos : Nat} (hnanos : nanos < second) {off : Int}
    (hoff : off.natAbs ≤ Stamp.maxOffset) {offset : Int} (hoffset : offset.natAbs < 86400) :
    ((ofLocal t nanos off).toLocal offset).IsReading := by
  obtain ⟨hlow, hhigh⟩ := Date.toDays_bounds h.date h0 h1
  obtain ⟨hhour, hminute, hsecond⟩ := h.clock_lt
  have hmax : Stamp.maxOffset = 86340 := rfl
  constructor
  · have hbounds : -4000000 ≤ ((ofLocal t nanos off).seconds + offset) / 86400 ∧
        ((ofLocal t nanos off).seconds + offset) / 86400 ≤ 4000000 := by
      simp only [ofLocal]
      split_ifs <;> omega
    obtain ⟨hyear, hyear'⟩ := Date.year_bounds hbounds.1 hbounds.2
    exact Date.isValid_ofDays hyear hyear'
  · apply Stamp.hasValidClock_toLocal
    simp only [ofLocal]
    split_ifs <;> omega

/-- A zone whose clocks are always less than a day from those of Greenwich. -/
def Zone.IsNear (z : Zone) : Prop := ∀ second, (z.offsetAt second).natAbs < 86400

theorem Zone.offsetFrom_of_forall {p : Int → Prop} {current : Int} (hcurrent : p current)
    {changes : List (Int × Int)} (hchanges : ∀ change ∈ changes, p change.2) (second : Int) :
    p (offsetFrom current second changes) := by
  induction changes generalizing current with
  | nil => exact hcurrent
  | cons change changes ih =>
    rw [List.forall_mem_cons] at hchanges
    rw [offsetFrom]
    split_ifs
    · exact hcurrent
    · exact ih hchanges.1 hchanges.2

theorem ZoneRow.forall_readChanges {p : Int → Prop} {offsets : List Int} (hzero : p 0)
    (hoffsets : ∀ offset ∈ offsets, p offset) (since : Int) (place elapsed : Nat) (t : Text) :
    ∀ change ∈ readChanges offsets since place elapsed t, p change.2 := by
  have hplace (place : Nat) : p (offsets.getD place 0) := by
    rw [List.getD_eq_getElem?_getD]
    cases hget : offsets[place]? with
    | none => exact hzero
    | some offset => exact hoffsets offset (List.mem_of_getElem? hget)
  induction t generalizing since place elapsed with
  | nil => exact List.forall_mem_singleton.mpr (hplace place)
  | cons c t ih =>
    rw [readChanges]
    split_ifs
    · exact List.forall_mem_cons.mpr ⟨hplace place, ih _ _ _⟩
    · exact ih _ _ _

theorem SummerTime.forall_changes {p : Int → Prop} {s : SummerTime} (hspring : p s.spring.offset)
    (hautumn : p s.autumn.offset) : ∀ change ∈ s.changes, p change.2 := by
  intro change hchange
  obtain ⟨year, -, hyear⟩ := List.mem_flatMap.mp hchange
  rw [List.mem_pair] at hyear
  rcases hyear with rfl | rfl
  · exact hspring
  · exact hautumn

def ZoneRow.isNear (row : ZoneRow) : Bool :=
  row.offsets.all (·.natAbs < 86400) &&
    row.summer.all fun s => s.spring.offset.natAbs < 86400 && s.autumn.offset.natAbs < 86400

theorem ZoneRow.isNear_of_mem_rows : ∀ row ∈ ZoneTable.rows, row.isNear := by
  decide +kernel

theorem ZoneTable.natAbs_fixed_lt : ∀ entry ∈ fixed, entry.2.natAbs < 86400 := by decide

theorem ZoneRow.forall_listed {p : Int → Prop} {row : ZoneRow} (hzero : p 0)
    (hoffsets : ∀ offset ∈ row.offsets, p offset) : ∀ change ∈ row.listed, p change.2 := by
  rw [listed]
  split
  · exact List.forall_mem_nil _
  · exact forall_readChanges hzero hoffsets _ _ _ _

theorem Zone.isNear_toZone {row : ZoneRow} (h : row.isNear) (name : String) :
    (row.toZone name).IsNear := by
  have hzero : (0 : Int).natAbs < 86400 := by decide
  simp only [ZoneRow.isNear, Bool.and_eq_true, List.all_eq_true, decide_eq_true_eq] at h
  obtain ⟨hoffsets, hsummer⟩ := h
  have hinitial : (row.offsets.headD 0).natAbs < 86400 := by
    cases hrow : row.offsets with
    | nil => exact hzero
    | cons offset offsets => exact hoffsets offset (hrow ▸ List.mem_cons_self)
  have hlater : ∀ change ∈ (row.summer.map SummerTime.changes).getD [],
      change.2.natAbs < 86400 := by
    cases hrow : row.summer with
    | none => exact List.forall_mem_nil _
    | some s =>
      simp only [hrow, Option.all_some, Bool.and_eq_true, decide_eq_true_eq] at hsummer
      exact SummerTime.forall_changes (p := (·.natAbs < 86400)) hsummer.1 hsummer.2
  have hlisted := ZoneRow.forall_listed (p := (·.natAbs < 86400)) hzero hoffsets
  exact offsetFrom_of_forall (p := (·.natAbs < 86400)) hinitial
    (List.forall_mem_append.mpr ⟨hlisted, hlater⟩)

/-- No clock on Earth is a day from Greenwich. -/
theorem Zone.isNear_of_find? {name : String} {z : Zone} (h : find? name = some z) : z.IsNear := by
  rw [find?] at h
  split at h
  · next row hrow =>
    obtain rfl := Option.some.inj h
    exact isNear_toZone (ZoneRow.isNear_of_mem_rows row (List.mem_of_find?_eq_some hrow)) name
  · obtain ⟨entry, hentry, rfl⟩ := Option.map_eq_some_iff.mp h
    have hnear := ZoneTable.natAbs_fixed_lt entry (List.mem_of_find?_eq_some hentry)
    exact fun second => offsetFrom_of_forall (p := (·.natAbs < 86400)) hnear
      (List.forall_mem_nil _) second

theorem Zone.exists_reading {z : Zone} (hz : z.IsNear) {t r : Text} (h : z.localize t = .ok r) :
    ∃ reading : DateTime, reading.IsReading ∧ r = reading.text := by
  rw [localize] at h
  split at h
  · next i hi =>
    cases h
    obtain ⟨reading, _, _, _, nanos, off, hvalid, h0, h1, hclock, -, hfraction, -, hoff, -, rfl⟩ :=
      Stamp.exists_of_rfc3339 hi
    have hnanos := Stamp.fraction_lt hfraction
    exact ⟨_, Instant.isReading_toLocal ⟨hvalid, hclock⟩ h0 h1 hnanos hoff (hz _), rfl⟩
  · split at h
    · next reading hreading =>
      cases h
      exact ⟨reading, Stamp.isReading_of_plain? hreading, rfl⟩
    · cases h

/-- What a zone has made of a timestamp is no longer RFC 3339 but a reading without an offset, and
each zone gives it back unchanged. -/
theorem Zone.localize_twice :
    (∀ name z, find? name = some z → z.IsNear) ∧
      ∀ z : Zone, z.IsNear → ∀ t r, z.localize t = .ok r →
        ∃ reading cause, Stamp.rfc3339 (Text.trim r) = .error cause ∧
          Stamp.plain? (Text.trim r) = some reading ∧ r = reading.text ∧
          ∀ z' : Zone, z'.localize r = .ok r := by
  refine ⟨fun _ _ => isNear_of_find?, fun z hz t r h => ?_⟩
  obtain ⟨reading, hreading, rfl⟩ := exists_reading hz h
  have hrefused := Stamp.rfc3339_text hreading
  have hread := Stamp.plain?_text hreading
  rw [← Text.trim_text] at hrefused hread
  exact ⟨reading, _, hrefused, hread, rfl, fun z' => z'.localize_text hreading⟩

def Zone.abidjan : Zone := ⟨"Africa/Abidjan", -968, [(-1830383032, 0)]⟩

/-- The first day of the year 0 there, and a leap second of a year of five digits. -/
theorem Zone.localize_twice_abidjan :
    find? "Africa/Abidjan" = some abidjan ∧ abidjan.IsNear ∧
      abidjan.localize "0000-01-01t00:00:00.5z".toList = .ok "-0001-12-31 23:43:52".toList ∧
      (∀ z : Zone, z.localize "-0001-12-31 23:43:52".toList =
        .ok "-0001-12-31 23:43:52".toList) ∧
      abidjan.localize " +12024-5-6 7:8:60".toList = .ok "+12024-05-06 07:08:60".toList ∧
      ∀ z : Zone, z.localize "+12024-05-06 07:08:60".toList =
        .ok "+12024-05-06 07:08:60".toList := by
  have hfound : find? "Africa/Abidjan" = some abidjan := by decide +kernel
  have hearly : abidjan.localize "0000-01-01t00:00:00.5z".toList =
      .ok "-0001-12-31 23:43:52".toList := by
    decide +kernel
  have hlate : abidjan.localize " +12024-5-6 7:8:60".toList =
      .ok "+12024-05-06 07:08:60".toList := by
    decide +kernel
  have hnear := localize_twice.1 _ abidjan hfound
  obtain ⟨-, -, -, -, -, hearly'⟩ := localize_twice.2 abidjan hnear _ _ hearly
  obtain ⟨-, -, -, -, -, hlate'⟩ := localize_twice.2 abidjan hnear _ _ hlate
  exact ⟨hfound, hnear, hearly, hearly', hlate, hlate'⟩

end HttpJournal
