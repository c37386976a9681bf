import HttpJournal.Proofs.StampForm
import HttpJournal.Proofs.StandardLine
import HttpJournal.Proofs.Utf8

namespace HttpJournal

/-- What a clock shows at an instant when it is `offset` seconds ahead of Greenwich: a date of the
calendar and a time of day, whose seconds since the start of 1970 are those of the instant. -/
structure DateTime.Reads (t : DateTime) (i : Instant) (offset : Int) : Prop where
  date : t.date.OfCalendar
  hour : t.hour ≤ 23
  minute : t.minute ≤ 59
  second : i.nanos / Instant.second ≤ t.second ∧ t.second ≤ 59 + i.nanos / Instant.second
  total : t.date.toDays * 86400 + t.hour * 3600 + t.minute * 60 + t.second =
    i.seconds + offset + (i.nanos / Instant.second : Nat)

namespace Stamp

theorem date_of_sign {c : Char} (h : c.isDigit = false) (t : Text) :
    date (c :: t) = .error .invalid := by
  have hdigits : digits 4 0 (c :: t) = .error .invalid := if_neg (by simp [h])
  rw [date, hdigits]
  rfl

theorem date_text_of_sign {d : Date} (h : ¬(0 ≤ d.year ∧ d.year ≤ 9999)) (rest : Text) :
    date (d.text ++ rest) = .error .invalid := by
  rw [Date.text, Date.yearText, if_neg h]
  apply date_of_sign
  split_ifs <;> rfl

theorem lenient_padded {n : Nat} (h : n < 100) (rest : Text) :
    lenient 2 (Decimal.padded 2 n ++ rest) = some (n, rest) := by
  have hlen : (Decimal.padded 2 n).length = 2 := Decimal.length_padded (by decide) h
  have hvalue := Decimal.value_padded 2 n
  have hdigit : ∀ c ∈ Decimal.padded 2 n, c.isDigit := fun _ => Decimal.isDigit_of_mem_padded
  obtain ⟨a, b, htext⟩ := List.length_eq_two.mp hlen
  rw [htext] at hvalue hdigit ⊢
  have ha := hdigit a (by simp)
  have hb := hdigit b (by simp)
  simp [lenient, isBlank_of_isDigit ha, ha, hb, hvalue]

end Stamp

end HttpJournal
