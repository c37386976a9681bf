import HttpJournal.Line
import HttpJournal.Proofs.Utf8

namespace HttpJournal

namespace Decode

def IsPrintable (b : UInt8) : Prop := 0x20 ≤ b.toNat ∧ b.toNat < 0x7F

instance : DecidablePred IsPrintable := fun _ => inferInstanceAs (Decidable (_ ∧ _))

theorem IsPrintable.isAscii {b : UInt8} (h : IsPrintable b) : isAscii b = true :=
  decide_eq_true (Nat.lt_trans h.2 (by decide))

theorem IsPrintable.ne {b c : UInt8} (h : IsPrintable b) (hc : c.toNat < 0x20) : b ≠ c := by
  rintro rfl
  exact absurd h.1 (Nat.not_le.mpr hc)

/-- A decoder reads printable octets one by one, each as the character that it is in ASCII. -/
structure KeepsPrintable (f : Bytes → Text) : Prop where
  nil : f [] = []
  cons : ∀ b rest, IsPrintable b → f (b :: rest) = ascii b :: f rest

theorem KeepsPrintable.eq_map {f : Bytes → Text} (hf : KeepsPrintable f) {bs : Bytes}
    (h : ∀ b ∈ bs, IsPrintable b) : f bs = bs.map ascii := by
  induction bs with
  | nil => exact hf.nil
  | cons b bs ih =>
    rw [List.forall_mem_cons] at h
    rw [hf.cons b bs h.1, ih h.2, List.map_cons]

theorem keepsPrintable_map {f : UInt8 → Char} (h : ∀ b, isAscii b → f b = ascii b) :
    KeepsPrintable (List.map f) where
  nil := rfl
  cons b rest hb := by rw [List.map_cons, h b hb.isAscii]

theorem keepsPrintable_utf8 : KeepsPrintable Utf8.decode where
  nil := rfl
  cons _ rest hb := Utf8.decode_append_ascii [] (Nat.lt_trans hb.2 (by decide)) rest

theorem keepsPrintable_singleOctet (upper : String) : KeepsPrintable (singleOctet upper) :=
  keepsPrintable_map fun _ hb => if_pos hb

theorem keepsPrintable_userDefined : KeepsPrintable userDefined :=
  keepsPrintable_map fun _ hb => if_pos hb

theorem keepsPrintable_big5 : KeepsPrintable big5 where
  nil := by rw [big5]
  cons b rest hb := (big5.eq_def (b :: rest)).trans (if_pos hb.isAscii)

theorem keepsPrintable_eucKr : KeepsPrintable eucKr where
  nil := by rw [eucKr]
  cons b rest hb := (eucKr.eq_def (b :: rest)).trans (if_pos hb.isAscii)

theorem keepsPrintable_eucJp : KeepsPrintable eucJp where
  nil := by rw [eucJp]
  cons b rest hb := (eucJp.eq_def (b :: rest)).trans (if_pos hb.isAscii)

theorem keepsPrintable_gb18030 : KeepsPrintable gb18030 where
  nil := by rw [gb18030]
  cons b rest hb := (gb18030.eq_def (b :: rest)).trans (if_pos hb.isAscii)

theorem keepsPrintable_shiftJis : KeepsPrintable shiftJis where
  nil := by rw [shiftJis]
  cons b rest hb := by
    have hle : b.toNat ≤ 0x80 := Nat.le_trans (Nat.le_of_lt hb.2) (by decide)
    exact (shiftJis.eq_def (b :: rest)).trans (if_pos hle)

/-- The set in which a text begins is ASCII, and only an escape sequence calls in another. -/
theorem keepsPrintable_iso2022Jp : KeepsPrintable iso2022Jp where
  nil := by rw [iso2022Jp, iso2022JpIn]
  cons b rest hb := by
    have hescape : b ≠ escapeOctet := hb.ne (by decide)
    have hsingle : JisSet.single .ascii b = ascii b := by
      simp [JisSet.single, hb.isAscii, hb.ne (c := 0x0E) (by decide), hb.ne (c := 0x0F) (by decide)]
    calc iso2022Jp (b :: rest)
      _ = JisSet.single .ascii b :: iso2022Jp rest :=
        (iso2022JpIn.eq_def .ascii false (b :: rest)).trans
          ((if_neg hescape).trans (if_pos (by decide)))
      _ = ascii b :: iso2022Jp rest := by rw [hsingle]

end Decode

namespace Charset

open Decode

theorem keepsPrintable {charset : Charset} (hutf16 : ∀ bigEndian, charset ≠ utf16 bigEndian)
    (hreplacement : charset ≠ replacement) : KeepsPrintable charset.decode := by
  cases charset with
  | utf8 => exact keepsPrintable_utf8
  | utf16 bigEndian => exact absurd rfl (hutf16 bigEndian)
  | singleOctet upper => exact keepsPrintable_singleOctet upper
  | big5 => exact keepsPrintable_big5
  | eucJp => exact keepsPrintable_eucJp
  | eucKr => exact keepsPrintable_eucKr
  | gb18030 => exact keepsPrintable_gb18030
  | iso2022Jp => exact keepsPrintable_iso2022Jp
  | shiftJis => exact keepsPrintable_shiftJis
  | userDefined => exact keepsPrintable_userDefined
  | replacement => exact absurd rfl hreplacement

theorem ne_replacement_of_forBody? {label : Text} {charset : Charset}
    (h : forBody? label = some charset) : charset ≠ replacement := by
  exact of_decide_eq_true (Option.filter_eq_some_iff.mp h).2

end Charset

end HttpJournal
