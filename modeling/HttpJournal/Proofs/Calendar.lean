import HttpJournal.Time.Civil
import Mathlib.Data.Nat.Init
import Mathlib.Order.Monotone.Basic
import Mathlib.Tactic.IntervalCases

namespace HttpJournal.Date

/-- The first day of a year of an era of 400 years; years begin in March. -/
def firstDay (y : Nat) : Nat := 365 * y + y / 4 - y / 100 + y / 400

/-- The number of a day in an era without its leap days. -/
def evenDay (day : Nat) : Nat := day - day / 1460 + day / 36524 - day / 146096

theorem evenDay_mono : Monotone evenDay := by
  apply monotone_nat_of_le_succ
  intro day
  unfold evenDay
  omega

theorem evenDay_firstDay :
    ∀ y < 400, evenDay (firstDay y) / 365 = y ∧ evenDay (firstDay (y + 1) - 1) / 365 = y := by
  decide +kernel

theorem exists_firstDay_le {n day : Nat} (h : day < firstDay n) :
    ∃ y < n, firstDay y ≤ day ∧ day < firstDay (y + 1) := by
  induction n with
  | zero => cases h
  | succ n ih =>
    by_cases hn : firstDay n ≤ day
    · exact ⟨n, Nat.lt_succ_self n, hn, h⟩
    · obtain ⟨y, hy, hday⟩ := ih (Nat.lt_of_not_le hn)
      exact ⟨y, Nat.lt_succ_of_lt hy, hday⟩

theorem year_of_evenDay {y day : Nat} (hy : y < 400) (hfirst : firstDay y ≤ day)
    (hnext : day < firstDay (y + 1)) : evenDay day / 365 = y := by
  -- what holds at both ends of the year holds in between
  obtain ⟨hlow, hhigh⟩ := evenDay_firstDay y hy
  have hle := Nat.div_le_div_right (c := 365) (evenDay_mono hfirst)
  have hle' := Nat.div_le_div_right (c := 365) (evenDay_mono (Nat.le_sub_one_of_lt hnext))
  omega

/-- A year has a leap day at its end when the year of its last month is a leap year. -/
theorem firstDay_succ (y : Nat) :
    firstDay (y + 1) = firstDay y + 365 ∨
      firstDay (y + 1) = firstDay y + 366 ∧ isLeap ((y : Int) + 1) := by
  have hle : y / 100 ≤ y / 4 := by omega
  simp only [firstDay, Nat.succ_div, isLeap, Bool.and_eq_true, Bool.or_eq_true, beq_iff_eq,
    bne_iff_ne]
  generalize y / 4 = q at *
  generalize y / 100 = c at *
  generalize y / 400 = e
  split_ifs <;> omega

/-- A day of a year that begins in March, counted from 0. A leap day is its last. -/
def IsMarchDay (year day : Int) : Prop := 0 ≤ day ∧ (day ≤ 364 ∨ day = 365 ∧ isLeap (year + 1))

/-- The year of an era and the day of that year, both counted from March. -/
theorem exists_year_day (day : Int) (h0 : 0 ≤ day) (h1 : day < 146097) :
    ∃ y d : Int, (day - day / 1460 + day / 36524 - day / 146096) / 365 = y ∧
      day - (365 * y + y / 4 - y / 100) = d ∧ 0 ≤ y ∧ y < 400 ∧ IsMarchDay y d := by
  obtain ⟨n, rfl⟩ := Int.eq_ofNat_of_zero_le h0
  have hn : n < firstDay 400 := by
    have : firstDay 400 = 146097 := rfl
    omega
  obtain ⟨y, hy, hfirst, hnext⟩ := exists_firstDay_le hn
  have hyear := year_of_evenDay hy hfirst hnext
  refine ⟨y, n - (365 * y + y / 4 - y / 100), ?_, rfl, ?_, ?_, ?_, ?_⟩
  · unfold evenDay at hyear
    omega
  · omega
  · omega
  · unfold firstDay at hfirst
    omega
  · have hday : (firstDay y : Int) = 365 * y + y / 4 - y / 100 := by
      unfold firstDay
      omega
    rcases firstDay_succ y with hlen | ⟨hlen, hleap⟩
    · left
      omega
    · by_cases hlast : n = firstDay y + 365
      · exact Or.inr ⟨by omega, hleap⟩
      · left
        omega

def ofMarch (year day : Int) : Date :=
  let m := (5 * day + 2) / 153
  let month := if m < 10 then m + 3 else m - 9
  { year := if month ≤ 2 then year + 1 else year
    month := month.toNat
    day := (day - (153 * m + 2) / 5 + 1).toNat }

theorem isLeap_add_eras (year eras : Int) : isLeap (year + eras * 400) = isLeap year := by
  rw [Bool.eq_iff_iff]
  simp only [isLeap, Bool.and_eq_true, Bool.or_eq_true, beq_iff_eq, bne_iff_ne]
  omega

def marchFirst (year : Int) : Int := 365 * year + year / 4 - year / 100 + year / 400 - 719468

theorem marchFirst_add_eras (year eras : Int) :
    marchFirst (year + eras * 400) = marchFirst year + eras * 146097 := by
  have h4 : (year + eras * 400) / 4 = year / 4 + eras * 100 := by omega
  have h100 : (year + eras * 400) / 100 = year / 100 + eras * 4 := by omega
  have h400 : (year + eras * 400) / 400 = year / 400 + eras := by omega
  rw [marchFirst, marchFirst, h4, h100, h400]
  omega

theorem ofDays_eq_ofMarch (n : Int) :
    ∃ year d : Int, ofDays n = ofMarch year d ∧ n = marchFirst year + d ∧ IsMarchDay year d := by
  obtain ⟨y, d, hy, hd, hy0, hy1, hd0, hlast⟩ :=
    exists_year_day ((n + 719468) % 146097) (by omega) (by omega)
  refine ⟨y + (n + 719468) / 146097 * 400, d, ?_, ?_, hd0, ?_⟩
  · simp only [ofDays, ofMarch, hy, hd]
  · rw [marchFirst_add_eras, marchFirst]
    omega
  · rw [Int.add_right_comm, isLeap_add_eras]
    exact hlast

theorem daysInMonth_le (year : Int) (month : Nat) : daysInMonth year month ≤ 31 := by
  unfold daysInMonth
  split_ifs <;> decide

structure OfCalendar (d : Date) : Prop where
  month : 1 ≤ d.month ∧ d.month ≤ 12
  day : 1 ≤ d.day ∧ d.day ≤ daysInMonth d.year d.month

theorem ofCalendar_ofMarch {year d : Int} (h : IsMarchDay year d) :
    (ofMarch year d).OfCalendar := by
  suffices 1 ≤ (ofMarch year d).month ∧ (ofMarch year d).month ≤ 12 ∧
      1 ≤ (ofMarch year d).day ∧
      (ofMarch year d).day ≤ daysInMonth (ofMarch year d).year (ofMarch year d).month from
    ⟨⟨this.1, this.2.1⟩, this.2.2⟩
  obtain ⟨h0, h | ⟨rfl, hleap⟩⟩ := h
  · have hm0 : 0 ≤ (5 * d + 2) / 153 := by omega
    have hm1 : (5 * d + 2) / 153 < 12 := by omega
    simp only [ofMarch]
    generalize hm : (5 * d + 2) / 153 = m at hm0 hm1
    -- month by month; only February is short of a day at its end
    interval_cases m
    case «11» =>
      simp only [daysInMonth]
      split_ifs <;> omega
    all_goals
      simp [daysInMonth]
      omega
  · simp [ofMarch, daysInMonth, hleap]

theorem ofCalendar_ofDays (n : Int) : (ofDays n).OfCalendar := by
  obtain ⟨year, d, hdate, -, hday⟩ := ofDays_eq_ofMarch n
  rw [hdate]
  exact ofCalendar_ofMarch hday

/-- The date of a day number is one of the calendar, as long as its year is. -/
theorem isValid_ofDays {n : Int} (hmin : minYear ≤ (ofDays n).year)
    (hmax : (ofDays n).year ≤ maxYear) : (ofDays n).isValid := by
  obtain ⟨⟨hmonth, hmonth'⟩, hday, hday'⟩ := ofCalendar_ofDays n
  simp only [isValid, hmin, hmax, hmonth, hmonth', hday, hday', decide_true, Bool.and_self]

end HttpJournal.Date
