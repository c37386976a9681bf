import HttpJournal.Proofs.Timestamp

namespace HttpJournal.Stamp

def IsFraction (t : Text) : Prop := t = [] ∨ ∃ ds, ds ≠ [] ∧ (∀ c ∈ ds, c.isDigit) ∧ t = '.' :: ds

def IsOffset (t : Text) : Prop :=
  t = ['Z'] ∨ t = ['z'] ∨ ∃ sign ∈ ['+', '-', '\u2212'], ∃ hours ≤ 23, ∃ minutes ≤ 59,
    t = sign :: Decimal.padded 2 hours ++ ':' :: Decimal.padded 2 minutes

/-- A date of the calendar with a year of four digits, a time of day, which may be a leap second,
and an offset. -/
def IsRfc3339 (t : Text) : Prop :=
  ∃ (reading : DateTime) (separator : Char) (fraction offset : Text),
    reading.date.isValid ∧ 0 ≤ reading.date.year ∧ reading.date.year ≤ 9999 ∧
      reading.hasValidClock ∧ separator ∈ ['T', 't', ' '] ∧ IsFraction fraction ∧ IsOffset offset ∧
        t = reading.date.text ++ separator :: (reading.clock ++ (fraction ++ offset))

theorem exists_of_bind {α β : Type} {x : Except Error α} {f : α → Except Error β} {b : β}
    (h : x >>= f = .ok b) : ∃ a, x = .ok a ∧ f a = .ok b := by
  cases x with
  | error e => cases h
  | ok a => exact ⟨a, rfl, h⟩

theorem exists_of_digits {n acc k : Nat} {t rest : Text} (h : digits n acc t = .ok (k, rest)) :
    ∃ ds, ds.length = n ∧ (∀ c ∈ ds, c.isDigit) ∧ t = ds ++ rest ∧
      k = ds.foldl (fun n c => 10 * n + Decimal.digit c) acc := by
  induction n generalizing acc t with
  | zero =>
    cases h
    exact ⟨[], rfl, List.forall_mem_nil _, rfl, rfl⟩
  | succ n ih =>
    cases t with
    | nil => cases h
    | cons c t =>
      rw [digits] at h
      split_ifs at h with hc
      obtain ⟨ds, hlength, hds, rfl, rfl⟩ := ih h
      exact ⟨c :: ds, congrArg (· + 1) hlength, List.forall_mem_cons.mpr ⟨hc, hds⟩, rfl, rfl⟩

theorem eq_padded_of_digits {width n : Nat} {t rest : Text} (hw : 0 < width)
    (h : digits width 0 t = .ok (n, rest)) :
    n < tenTo width ∧ t = Decimal.padded width n ++ rest := by
  obtain ⟨ds, rfl, hds, rfl, rfl⟩ := exists_of_digits h
  have hvalue : ds.foldl (fun n c => 10 * n + Decimal.digit c) 0 = Decimal.value ds := rfl
  rw [hvalue, Decimal.padded_value (List.length_pos_iff.mp hw) hds]
  exact ⟨Decimal.value_lt hds, rfl⟩

theorem eq_of_one {c : Char} {t rest : Text} {u : Unit} (h : one c t = .ok (u, rest)) :
    t = c :: rest := by
  cases t with
  | nil => cases h
  | cons d t =>
    rw [one] at h
    split_ifs at h with hd
    cases h
    rw [hd]

theorem of_check {ok : Bool} {u : Unit} (h : check ok = .ok u) : ok := by
  rw [check] at h
  split_ifs at h with hok
  exact hok

theorem eq_text_of_date {t rest : Text} {d : Date} (h : date t = .ok (d, rest)) :
    d.isValid ∧ 0 ≤ d.year ∧ d.year ≤ 9999 ∧ t = d.text ++ rest := by
  rw [date] at h
  obtain ⟨⟨year, t₁⟩, hyear, h⟩ := exists_of_bind h
  obtain ⟨⟨⟨⟩, t₂⟩, hdash, h⟩ := exists_of_bind h
  obtain ⟨⟨month, t₃⟩, hmonth, h⟩ := exists_of_bind h
  obtain ⟨⟨⟨⟩, t₄⟩, hdash', h⟩ := exists_of_bind h
  obtain ⟨⟨day, t₅⟩, hday, h⟩ := exists_of_bind h
  obtain ⟨⟨⟩, hvalid, h⟩ := exists_of_bind h
  cases h
  obtain ⟨hlt, rfl⟩ := eq_padded_of_digits (by decide) hyear
  obtain rfl := eq_of_one hdash
  obtain ⟨-, rfl⟩ := eq_padded_of_digits (by decide) hmonth
  obtain rfl := eq_of_one hdash'
  obtain ⟨-, rfl⟩ := eq_padded_of_digits (by decide) hday
  have hfour : (year : Int) ≤ 9999 := Int.ofNat_le.mpr (Nat.le_of_lt_succ hlt)
  have htext : Date.yearText year = Decimal.padded 4 year := if_pos ⟨Int.natCast_nonneg year, hfour⟩
  refine ⟨of_check hvalid, Int.natCast_nonneg year, hfour, ?_⟩
  rw [Date.text, htext]
  simp

theorem eq_clock_of_clock {d : Date} {t rest : Text} {reading : DateTime}
    (h : clock d t = .ok (reading, rest)) : reading.date = d ∧ t = reading.clock ++ rest := by
  rw [clock] at h
  obtain ⟨⟨hour, t₁⟩, hhour, h⟩ := exists_of_bind h
  obtain ⟨⟨⟨⟩, t₂⟩, hcolon, h⟩ := exists_of_bind h
  obtain ⟨⟨minute, t₃⟩, hminute, h⟩ := exists_of_bind h
  obtain ⟨⟨⟨⟩, t₄⟩, hcolon', h⟩ := exists_of_bind h
  obtain ⟨⟨second, t₅⟩, hsecond, h⟩ := exists_of_bind h
  cases h
  obtain ⟨-, rfl⟩ := eq_padded_of_digits (by decide) hhour
  obtain rfl := eq_of_one hcolon
  obtain ⟨-, rfl⟩ := eq_padded_of_digits (by decide) hminute
  obtain rfl := eq_of_one hcolon'
  obtain ⟨-, rfl⟩ := eq_padded_of_digits (by decide) hsecond
  refine ⟨rfl, ?_⟩
  simp [DateTime.clock]

theorem exists_of_separator {t rest : Text} {u : Unit} (h : separator t = .ok (u, rest)) :
    ∃ c ∈ ['T', 't', ' '], t = c :: rest := by
  cases t with
  | nil => cases h
  | cons c t =>
    rw [separator] at h
    split_ifs at h with hc
    cases h
    exact ⟨c, by simpa using hc, rfl⟩

theorem separator_cons {c : Char} (h : c ∈ ['T', 't', ' ']) (rest : Text) :
    separator (c :: rest) = .ok ((), rest) := if_pos (by simpa using h)

theorem exists_of_fraction {t rest : Text} {n : Nat} (h : fraction t = .ok (n, rest)) :
    ∃ f, IsFraction f ∧ t = f ++ rest := by
  unfold fraction at h
  split at h
  · next t =>
    simp only at h
    split_ifs at h with hempty
    cases h
    refine ⟨'.' :: t.takeWhile Char.isDigit, Or.inr ⟨_, ?_, ?_, rfl⟩, ?_⟩
    · rwa [List.isEmpty_iff] at hempty
    · exact fun c hc => List.mem_takeWhile_imp hc
    · rw [List.cons_append, List.takeWhile_append_dropWhile]
  · cases h
    exact ⟨[], Or.inl rfl, rfl⟩

/-- What follows a fraction goes on neither with it nor with its digits. -/
theorem fraction_append {f rest : Text} (hf : IsFraction f)
    (hrest : ∀ c ∈ rest.head?, c.isDigit = false ∧ c ≠ '.') :
    ∃ n, fraction (f ++ rest) = .ok (n, rest) := by
  rcases hf with rfl | ⟨ds, hne, hds, rfl⟩
  · refine ⟨0, ?_⟩
    cases rest with
    | nil => rfl
    | cons c rest =>
      have hc : c ≠ '.' := (hrest c rfl).2
      unfold fraction
      split
      · next heq => exact absurd (List.cons.inj heq).1 hc
      · rfl
  · have hstop : ∀ c ∈ rest.head?, c.isDigit = false := fun c hc => (hrest c hc).1
    have htake := takeWhile_append_of_head hds hstop
    have hdrop := dropWhile_append_of_head hds hstop
    simp [fraction, htake, hdrop, hne]

theorem eq_padded_of_twoDigits {t rest : Text} {n : Nat} (h : twoDigits t = .ok (n, rest)) :
    t = Decimal.padded 2 n ++ rest := by
  unfold twoDigits at h
  split at h
  · next a b rest =>
    split_ifs at h with hdigits
    cases h
    rw [Bool.and_eq_true] at hdigits
    have hab : ∀ c ∈ [a, b], c.isDigit := by simp [hdigits]
    have hpadded := Decimal.padded_value (List.cons_ne_nil a [b]) hab
    rw [List.length_cons, List.length_singleton] at hpadded
    rw [hpadded]
    rfl
  · cases h
  · cases h

theorem twoDigits_padded {n : Nat} (h : n < 100) (rest : Text) :
    twoDigits (Decimal.padded 2 n ++ rest) = .ok (n, rest) := by
  have hlength : (Decimal.padded 2 n).length = 2 := Decimal.length_padded (by decide) h
  have hvalue := Decimal.value_padded 2 n
  have hdigit : ∀ c ∈ Decimal.padded 2 n, c.isDigit := fun _ => Decimal.isDigit_of_mem_padded
  obtain ⟨a, b, htext⟩ := List.length_eq_two.mp hlength
  rw [htext] at hvalue hdigit ⊢
  simp [twoDigits, hdigit a (by simp), hdigit b (by simp), hvalue]

theorem isOffset_of_offset {t : Text} {off : Int} (h : offset t = .ok (off, []))
    (hoff : off.natAbs ≤ maxOffset) : IsOffset t := by
  cases t with
  | nil => cases h
  | cons c t =>
    rw [offset] at h
    by_cases hz : c = 'Z' ∨ c = 'z'
    · rw [if_pos hz] at h
      cases h
      rcases hz with rfl | rfl
      · exact Or.inl rfl
      · exact Or.inr (Or.inl rfl)
    by_cases hsign : c = '+' ∨ c = '-' ∨ c = '\u2212'
    · rw [if_neg hz, if_pos hsign] at h
      obtain ⟨⟨hours, t₁⟩, hhours, h⟩ := exists_of_bind h
      obtain ⟨⟨⟨⟩, t₂⟩, hcolon, h⟩ := exists_of_bind h
      obtain ⟨⟨minutes, t₃⟩, hminutes, h⟩ := exists_of_bind h
      obtain ⟨⟨⟩, hcheck, h⟩ := exists_of_bind h
      cases h
      obtain rfl := eq_padded_of_twoDigits hhours
      obtain rfl := eq_of_one hcolon
      obtain rfl := eq_padded_of_twoDigits hminutes
      have hminute : minutes ≤ 59 := of_decide_eq_true (of_check hcheck)
      -- the reader takes hours up to 99, and the bound on the whole offset leaves 23
      have hhour : hours ≤ 23 := by
        change _ ≤ 86340 at hoff
        split_ifs at hoff <;> omega
      exact Or.inr (Or.inr ⟨c, by simpa using hsign, hours, hhour, minutes, hminute, by simp⟩)
    · rw [if_neg hz, if_neg hsign] at h
      cases h

theorem exists_offset {t : Text} (h : IsOffset t) :
    ∃ off : Int, offset t = .ok (off, []) ∧ off.natAbs ≤ maxOffset := by
  rcases h with rfl | rfl | ⟨sign, hsign, hours, hhour, minutes, hminute, rfl⟩
  · exact ⟨0, rfl, Nat.zero_le _⟩
  · exact ⟨0, rfl, Nat.zero_le _⟩
  · have hz : ¬(sign = 'Z' ∨ sign = 'z') := by
      rintro (rfl | rfl) <;> exact absurd hsign (by decide)
    have hsign' : sign = '+' ∨ sign = '-' ∨ sign = '\u2212' := by simpa using hsign
    have hhours := twoDigits_padded (by omega : hours < 100)
    have hminutes := twoDigits_padded (by omega : minutes < 100) []
    rw [List.append_nil] at hminutes
    refine ⟨if sign = '+' then (hours * 3600 + minutes * 60 : Int)
      else -(hours * 3600 + minutes * 60), ?_, ?_⟩
    · rw [List.cons_append, offset, if_neg hz, if_pos hsign']
      simp only [hhours, one_cons, hminutes, check, hminute, decide_true, if_true, bind,
        Except.bind]
      rfl
    · change _ ≤ 86340
      split_ifs <;> omega

/-- An offset begins with a letter or a sign. -/
theorem head_offset {t : Text} (h : IsOffset t) : ∀ c ∈ t.head?, c.isDigit = false ∧ c ≠ '.' := by
  intro c hc
  have hmarks : ['Z', 'z', '+', '-', '\u2212'].all fun c => c.isDigit = false ∧ c ≠ '.' := by decide
  apply of_decide_eq_true (List.all_eq_true.mp hmarks c _)
  rcases h with rfl | rfl | ⟨sign, hsign, hours, -, minutes, -, rfl⟩ <;>
    obtain rfl := Option.some.inj hc
  · exact List.mem_cons_self
  · exact List.mem_cons_of_mem _ List.mem_cons_self
  · exact List.mem_cons_of_mem _ (List.mem_cons_of_mem _ hsign)

/-- What is read as RFC 3339 is read part by part: a reading, a fraction of its second, and an
offset, which is taken off. -/
theorem exists_of_rfc3339 {t : Text} {i : Instant} (h : rfc3339 t = .ok i) :
    ∃ (reading : DateTime) (separator : Char) (part off : Text) (nanos : Nat) (seconds : Int),
      reading.date.isValid ∧ 0 ≤ reading.date.year ∧ reading.date.year ≤ 9999 ∧
        reading.hasValidClock ∧ separator ∈ ['T', 't', ' '] ∧
        fraction part = .ok (nanos, off) ∧ offset off = .ok (seconds, []) ∧
        seconds.natAbs ≤ maxOffset ∧
        t = reading.date.text ++ separator :: (reading.clock ++ part) ∧
        i = Instant.ofLocal reading nanos seconds := by
  rw [rfc3339] at h
  by_cases hshort : (Utf8.encode t).length < 19
  · rw [if_pos hshort] at h
    cases h
  · rw [if_neg hshort] at h
    obtain ⟨⟨d, t₁⟩, hdate, h⟩ := exists_of_bind h
    obtain ⟨⟨⟨⟩, t₂⟩, hseparator, h⟩ := exists_of_bind h
    obtain ⟨⟨reading, t₃⟩, hclock, h⟩ := exists_of_bind h
    obtain ⟨⟨nanos, t₄⟩, hfraction, h⟩ := exists_of_bind h
    obtain ⟨⟨⟩, hvalidClock, h⟩ := exists_of_bind h
    obtain ⟨⟨off, t₅⟩, hoffset, h⟩ := exists_of_bind h
    by_cases hrest : t₅ = []
    · rw [hrest] at h hoffset
      obtain ⟨⟨⟩, hoff, h⟩ := exists_of_bind h
      cases h
      obtain ⟨hvalid, h0, h1, rfl⟩ := eq_text_of_date hdate
      obtain ⟨c, hc, rfl⟩ := exists_of_separator hseparator
      obtain ⟨rfl, rfl⟩ := eq_clock_of_clock hclock
      exact ⟨reading, c, t₃, t₄, nanos, off, hvalid, h0, h1, of_check hvalidClock, hc, hfraction,
        hoffset, of_decide_eq_true (of_check hoff), rfl, rfl⟩
    · have hopen : (!t₅.isEmpty) = true := by simpa using hrest
      simp only [hopen] at h
      cases h

theorem isRfc3339_of_rfc3339 {t : Text} {i : Instant} (h : rfc3339 t = .ok i) : IsRfc3339 t := by
  obtain ⟨reading, c, part, off, nanos, seconds, hvalid, h0, h1, hclock, hc, hfraction, hoffset,
    hmax, rfl, -⟩ := exists_of_rfc3339 h
  obtain ⟨f, hf, rfl⟩ := exists_of_fraction hfraction
  exact ⟨reading, c, f, off, hvalid, h0, h1, hclock, hc, hf, isOffset_of_offset hoffset hmax, rfl⟩

theorem exists_rfc3339 {t : Text} (h : IsRfc3339 t) : ∃ i, rfc3339 t = .ok i := by
  obtain ⟨reading, c, f, off, hvalid, h0, h1, hclock, hc, hf, hoff, rfl⟩ := h
  have hdate := date_text hvalid h0 h1
  obtain ⟨nanos, hfraction⟩ := fraction_append hf (head_offset hoff)
  obtain ⟨seconds, hoffset, hmax⟩ := exists_offset hoff
  -- four digits for the year are enough to reach the least length that is read at all
  have hlong : 19 ≤ (reading.date.text ++ c :: (reading.clock ++ (f ++ off))).length := by
    have hdate := le_length_dateText reading.date
    have hclock := le_length_clock reading
    simp only [List.length_append, List.length_cons]
    omega
  refine ⟨Instant.ofLocal reading nanos seconds, ?_⟩
  rw [rfc3339, if_neg (Nat.not_lt.mpr (Nat.le_trans hlong (length_le_encode _)))]
  simp only [hdate, separator_cons hc, clock_clock _ hclock, hfraction, hoffset, check, hclock,
    hmax, bind, Except.bind, decide_true, if_true]
  rfl

theorem exists_rfc3339_iff {t : Text} : (∃ i, rfc3339 t = .ok i) ↔ IsRfc3339 t :=
  ⟨fun ⟨_, h⟩ => isRfc3339_of_rfc3339 h, exists_rfc3339⟩

structure Numeral where
  blanks : Text
  digits : Text

namespace Numeral

def text (n : Numeral) : Text := n.blanks ++ n.digits

def value (n : Numeral) : Nat := Decimal.value n.digits

structure Fits (width : Nat) (n : Numeral) : Prop where
  blanks : ∀ c ∈ n.blanks, isBlank c
  digits : ∀ c ∈ n.digits, c.isDigit
  ne_nil : n.digits ≠ []
  length_le : n.digits.length ≤ width

variable {width : Nat} {n : Numeral} {rest : Text}

def EndsBefore (width : Nat) (n : Numeral) (rest : Text) : Prop :=
  n.digits.length < width → ∀ c ∈ rest.head?, c.isDigit = false

theorem dropWhile_text (h : n.Fits width) (rest : Text) :
    (n.text ++ rest).dropWhile isBlank = n.digits ++ rest := by
  rw [text, List.append_assoc]
  apply dropWhile_append_of_head h.blanks
  intro c hc
  rw [List.head?_append_of_ne_nil _ h.ne_nil] at hc
  exact isBlank_of_isDigit (h.digits c (List.mem_of_head? hc))

theorem lenient_text (h : n.Fits width) (hrest : n.EndsBefore width rest) :
    lenient width (n.text ++ rest) = some (n.value, rest) := by
  have htake : ((n.digits ++ rest).take width).takeWhile Char.isDigit = n.digits := by
    rw [List.take_append, List.take_of_length_le h.length_le]
    apply takeWhile_append_of_head h.digits
    intro c hc
    rw [List.head?_take] at hc
    split_ifs at hc with hwidth
    · cases hc
    · exact hrest (by omega) c hc
  have hne := h.ne_nil
  rw [lenient, dropWhile_text h, htake]
  simp [hne, value]

theorem exists_of_lenient {t : Text} {k : Nat} (h : lenient width t = some (k, rest)) :
    ∃ n : Numeral, n.Fits width ∧ n.EndsBefore width rest ∧ t = n.text ++ rest ∧ k = n.value := by
  rw [lenient] at h
  generalize hds : ((t.dropWhile isBlank).take width).takeWhile Char.isDigit = ds at h
  split_ifs at h with hempty
  cases h
  have hprefix : ds <+: (t.dropWhile isBlank).take width := hds ▸ List.takeWhile_prefix _
  have hdigits : ∀ c ∈ ds, c.isDigit := fun c hc => List.mem_takeWhile_imp (hds ▸ hc)
  obtain ⟨u, hu⟩ := hprefix.trans (List.take_prefix _ _)
  have hrest : (t.dropWhile isBlank).drop ds.length = u := by rw [← hu, List.drop_left]
  refine ⟨⟨t.takeWhile isBlank, ds⟩, ?_, ?_, ?_, rfl⟩
  · constructor
    · exact fun c hc => List.mem_takeWhile_imp hc
    · exact hdigits
    · rwa [List.isEmpty_iff] at hempty
    · exact Nat.le_trans hprefix.length_le (List.length_take_le _ _)
  · intro (hlt : ds.length < width) c hc
    rw [hrest] at hc
    rw [← hu, List.take_append, List.take_of_length_le (Nat.le_of_lt hlt),
      List.takeWhile_append_of_pos hdigits, List.append_right_eq_self] at hds
    obtain ⟨u', rfl⟩ : ∃ u', u = c :: u' := List.head?_eq_some_iff.mp hc
    obtain ⟨k, hk⟩ : ∃ k, width - ds.length = k + 1 := ⟨width - ds.length - 1, by omega⟩
    rw [hk, List.take_succ_cons] at hds
    by_contra hdigit
    rw [List.takeWhile_cons_of_pos (by simpa using hdigit)] at hds
    cases hds
  · rw [hrest, text, List.append_assoc, hu, List.takeWhile_append_dropWhile]

end Numeral

/-- A year of at most four digits, or of any number of them behind a sign. -/
inductive IsYear : Int → Text → Prop
  | plain {n : Numeral} (h : n.Fits 4) : IsYear n.value n.text
  | signed {blanks ds : Text} {sign : Char} (hblanks : ∀ c ∈ blanks, isBlank c)
    (hsign : sign = '-' ∨ sign = '+') (hds : ∀ c ∈ ds, c.isDigit) (hne : ds ≠ []) :
    IsYear (if sign = '-' then -(Decimal.value ds : Int) else Decimal.value ds)
      (blanks ++ sign :: ds)

theorem exists_of_lenientYear {t rest : Text} {year : Int}
    (h : lenientYear t = some (year, rest)) : ∃ y, IsYear year y ∧ t = y ++ rest := by
  have hjoin : t.takeWhile isBlank ++ t.dropWhile isBlank = t := List.takeWhile_append_dropWhile
  have hblanks : ∀ c ∈ t.takeWhile isBlank, isBlank c := fun c hc => List.mem_takeWhile_imp hc
  unfold lenientYear at h
  split at h
  · cases h
  · next c u heq =>
    rw [heq] at hjoin
    by_cases hsign : c = '-' ∨ c = '+'
    · rw [if_pos hsign] at h
      by_cases hempty : u.takeWhile Char.isDigit = []
      · simp [hempty] at h
      · simp only [List.isEmpty_iff, if_neg hempty, Option.some.injEq, Prod.mk.injEq] at h
        obtain ⟨rfl, rfl⟩ := h
        refine ⟨_, IsYear.signed hblanks hsign (fun c hc => List.mem_takeWhile_imp hc) hempty, ?_⟩
        rw [List.append_assoc, List.cons_append, List.takeWhile_append_dropWhile, hjoin]
    · rw [if_neg hsign, Option.map_eq_some_iff] at h
      obtain ⟨⟨k, u'⟩, hlenient, heq'⟩ := h
      cases heq'
      obtain ⟨n, hn, -, htext, rfl⟩ := Numeral.exists_of_lenient hlenient
      have hfits : (Numeral.mk (t.takeWhile isBlank ++ n.blanks) n.digits).Fits 4 :=
        ⟨List.forall_mem_append.mpr ⟨hblanks, hn.blanks⟩, hn.digits, hn.ne_nil, hn.length_le⟩
      have hyear := IsYear.plain hfits
      refine ⟨_, hyear, ?_⟩
      calc t = t.takeWhile isBlank ++ (n.text ++ rest) := by rw [← htext, hjoin]
        _ = _ := by simp [Numeral.text]

theorem lenientYear_append {year : Int} {y rest : Text} (h : IsYear year y)
    (hrest : ∀ c ∈ rest.head?, c.isDigit = false) :
    lenientYear (y ++ rest) = some (year, rest) := by
  cases h with
  | @plain n h =>
    have hlenient : lenient 4 (n.digits ++ rest) = some (n.value, rest) := by
      have hbare : (Numeral.mk [] n.digits).Fits 4 :=
        ⟨List.forall_mem_nil _, h.digits, h.ne_nil, h.length_le⟩
      exact Numeral.lenient_text hbare fun _ => hrest
    obtain ⟨d, ds, hds⟩ := List.exists_cons_of_ne_nil h.ne_nil
    have hdigit : d.isDigit := h.digits d (hds ▸ List.mem_cons_self)
    have hsign : ¬(d = '-' ∨ d = '+') := by
      rintro (rfl | rfl) <;> exact absurd hdigit (by decide)
    rw [hds] at hlenient
    simp only [lenientYear, Numeral.dropWhile_text h, hds, List.cons_append, if_neg hsign]
    rw [← List.cons_append, hlenient]
    rfl
  | @signed blanks ds sign hblanks hsign hds hne =>
    have hblank : isBlank sign = false := by
      rcases hsign with rfl | rfl <;> decide
    have htake := takeWhile_append_of_head hds hrest
    have hdrop := dropWhile_append_of_head hds hrest
    rw [List.append_assoc, List.cons_append]
    simp only [lenientYear, dropWhile_stop hblanks hblank, if_pos hsign, htake, hdrop]
    simp [hne]

theorem isYear_yearText (year : Int) : IsYear year (Date.yearText year) := by
  have hdigits (n : Nat) : ∀ c ∈ Decimal.padded 4 n, c.isDigit :=
    fun _ => Decimal.isDigit_of_mem_padded
  have hne (n : Nat) : Decimal.padded 4 n ≠ [] := by simp [Decimal.padded, Decimal.ofNat_ne_nil]
  rw [Date.yearText]
  split_ifs with hfour hneg
  · obtain ⟨n, rfl⟩ := Int.eq_ofNat_of_zero_le hfour.1
    have hlength : (Decimal.padded 4 n).length = 4 :=
      Decimal.length_padded (by decide) (by change n < 10000; omega)
    have hfits : (Numeral.mk [] (Decimal.padded 4 n)).Fits 4 :=
      ⟨List.forall_mem_nil _, hdigits n, hne n, Nat.le_of_eq hlength⟩
    have hyear := IsYear.plain hfits
    rwa [Numeral.value, Decimal.value_padded] at hyear
  · have hyear := IsYear.signed (List.forall_mem_nil _) (Or.inl rfl) (hdigits year.natAbs) (hne _)
    rw [if_pos rfl, Decimal.value_padded] at hyear
    have habs : -(year.natAbs : Int) = year := by omega
    rwa [habs] at hyear
  · have hyear := IsYear.signed (List.forall_mem_nil _) (Or.inr rfl) (hdigits year.natAbs) (hne _)
    rw [if_neg (by decide), Decimal.value_padded] at hyear
    have habs : (year.natAbs : Int) = year := by omega
    rwa [habs] at hyear

theorem lenientYear_yearText (year : Int) (rest : Text) :
    lenientYear (Date.yearText year ++ '-' :: rest) = some (year, '-' :: rest) := by
  apply lenientYear_append (isYear_yearText year)
  intro c hc
  obtain rfl : '-' = c := Option.some.inj hc
  decide

/-- `YYYY-MM-DD HH:MM:SS`, where white space may stand before each number, few digits may do, and
nothing need stand between a day of two digits and the hour. -/
def IsZoneless (t : Text) : Prop :=
  ∃ (year : Int) (y : Text) (month day hour minute second : Numeral),
    IsYear year y ∧ month.Fits 2 ∧ day.Fits 2 ∧ hour.Fits 2 ∧ minute.Fits 2 ∧ second.Fits 2 ∧
      (day.digits.length = 2 ∨ hour.blanks ≠ []) ∧
      (Date.mk year month.value day.value).isValid ∧
      DateTime.hasValidClock ⟨⟨year, month.value, day.value⟩, hour.value, minute.value,
        second.value⟩ ∧
      t = y ++ '-' :: (month.text ++ '-' :: (day.text ++ (hour.text ++
        ':' :: (minute.text ++ ':' :: second.text))))

theorem eq_of_after {c : Char} {t rest : Text} (h : after c t = some rest) : t = c :: rest := by
  cases t with
  | nil => cases h
  | cons d t =>
    rw [after] at h
    split_ifs at h with hd
    cases h
    rw [hd]

theorem after_cons (c : Char) (t : Text) : after c (c :: t) = some t := if_pos rfl

namespace Numeral

variable {n : Numeral}

theorem head_text_of_blanks {m : Numeral} {width : Nat} (hm : m.Fits width)
    (hblanks : m.blanks ≠ []) (rest : Text) : ∀ c ∈ (m.text ++ rest).head?, c.isDigit = false := by
  intro c hc
  rw [text, List.append_assoc, List.head?_append_of_ne_nil _ hblanks] at hc
  have hblank := hm.blanks c (List.mem_of_head? hc)
  by_contra hdigit
  rw [isBlank_of_isDigit (by simpa using hdigit)] at hblank
  cases hblank

/-- Where nothing stands between two numbers the first one has all the digits it can take. -/
theorem endsBefore_text_iff {m : Numeral} {width width' : Nat} (hn : n.Fits width)
    (hm : m.Fits width') (rest : Text) :
    n.EndsBefore width (m.text ++ rest) ↔ n.digits.length = width ∨ m.blanks ≠ [] := by
  constructor
  · intro hends
    by_contra! hno
    obtain ⟨c, ds, hds⟩ := List.exists_cons_of_ne_nil hm.ne_nil
    have hdigit : c.isDigit := hm.digits c (hds ▸ List.mem_cons_self)
    have hfalse := hends (Nat.lt_of_le_of_ne hn.length_le hno.1) c (by simp [text, hno.2, hds])
    rw [hdigit] at hfalse
    cases hfalse
  · rintro (hlength | hblanks) hlt
    · exact absurd hlength (Nat.ne_of_lt hlt)
    · exact head_text_of_blanks hm hblanks rest

theorem lenient_text_cons {width : Nat} (h : n.Fits width) {c : Char} (hc : c.isDigit = false)
    (rest : Text) : lenient width (n.text ++ c :: rest) = some (n.value, c :: rest) := by
  apply lenient_text h
  rintro - d hd
  obtain rfl : c = d := Option.some.inj hd
  exact hc

end Numeral

theorem isZoneless_of_plain? {t : Text} {reading : DateTime} (h : plain? t = some reading) :
    IsZoneless t := by
  unfold plain? at h
  simp only [Option.bind_eq_bind, Option.bind_eq_some_iff, Prod.exists] at h
  obtain ⟨year, t₁, hyear, t₂, hdash, month, t₃, hmonth, t₄, hdash', day, t₅, hday, hour, t₆, hhour,
    t₇, hcolon, minute, t₈, hminute, t₉, hcolon', second, t₁₀, hsecond, h⟩ := h
  split_ifs at h with hvalid
  simp only [Bool.and_eq_true, List.isEmpty_iff] at hvalid
  obtain ⟨⟨hdate, hclock⟩, rfl⟩ := hvalid
  obtain ⟨y, hy, rfl⟩ := exists_of_lenientYear hyear
  obtain rfl := eq_of_after hdash
  obtain ⟨month, hmonthFits, -, rfl, rfl⟩ := Numeral.exists_of_lenient hmonth
  obtain rfl := eq_of_after hdash'
  obtain ⟨day, hdayFits, hends, rfl, rfl⟩ := Numeral.exists_of_lenient hday
  obtain ⟨hour, hhourFits, -, rfl, rfl⟩ := Numeral.exists_of_lenient hhour
  obtain rfl := eq_of_after hcolon
  obtain ⟨minute, hminuteFits, -, rfl, rfl⟩ := Numeral.exists_of_lenient hminute
  obtain rfl := eq_of_after hcolon'
  obtain ⟨second, hsecondFits, -, rfl, rfl⟩ := Numeral.exists_of_lenient hsecond
  exact ⟨year, y, month, day, hour, minute, second, hy, hmonthFits, hdayFits, hhourFits,
    hminuteFits, hsecondFits, (Numeral.endsBefore_text_iff hdayFits hhourFits _).mp hends, hdate,
    hclock, by rw [List.append_nil]⟩

theorem exists_plain? {t : Text} (h : IsZoneless t) : ∃ reading, plain? t = some reading := by
  obtain ⟨year, y, month, day, hour, minute, second, hy, hmonth, hday, hhour, hminute, hsecond,
    hgap, hdate, hclock, rfl⟩ := h
  have hdash : '-'.isDigit = false := by decide
  have hcolon : ':'.isDigit = false := by decide
  have hyear (u : Text) : lenientYear (y ++ '-' :: u) = some (year, '-' :: u) :=
    lenientYear_append hy fun c hc => by
      obtain rfl : '-' = c := Option.some.inj hc
      exact hdash
  have hday' (u : Text) :
      lenient 2 (day.text ++ (hour.text ++ u)) = some (day.value, hour.text ++ u) :=
    Numeral.lenient_text hday ((Numeral.endsBefore_text_iff hday hhour u).mpr hgap)
  have hsecond' : lenient 2 (second.text ++ []) = some (second.value, []) :=
    Numeral.lenient_text hsecond fun _ c hc => by cases hc
  rw [List.append_nil] at hsecond'
  refine ⟨⟨⟨year, month.value, day.value⟩, hour.value, minute.value, second.value⟩, ?_⟩
  rw [plain?]
  simp only [hyear, after_cons, Numeral.lenient_text_cons hmonth hdash, hday',
    Numeral.lenient_text_cons hhour hcolon, Numeral.lenient_text_cons hminute hcolon, hsecond',
    hdate, hclock, Option.bind_eq_bind, Option.bind_some]
  rfl

theorem exists_plain?_iff {t : Text} : (∃ reading, plain? t = some reading) ↔ IsZoneless t :=
  ⟨fun ⟨_, h⟩ => isZoneless_of_plain? h, exists_plain?⟩

def IsTimestamp (t : Text) : Prop := IsRfc3339 t ∨ IsZoneless t

theorem isTimestamp_iff {t : Text} :
    IsTimestamp t ↔ (∃ i, rfc3339 t = .ok i) ∨ ∃ reading, plain? t = some reading := by
  rw [IsTimestamp, exists_rfc3339_iff, exists_plain?_iff]

instance (t : Text) : Decidable (IsTimestamp t) :=
  decidable_of_iff ((rfc3339 t).toOption.isSome ∨ (plain? t).isSome) <| by
    rw [isTimestamp_iff, Option.isSome_iff_exists, Option.isSome_iff_exists]
    cases rfc3339 t <;> simp [Except.toOption]

example : IsTimestamp "2024-05-06t07:08:60.5\u221200:30".toList := by decide

example : IsTimestamp "+12024-5-6 7:8:9".toList ∧ ¬IsTimestamp "2024-5-67:8:9".toList := by decide

end HttpJournal.Stamp
