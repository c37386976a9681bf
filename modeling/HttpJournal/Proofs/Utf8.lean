import HttpJournal.Text.Utf8
import Mathlib.Data.List.Infix
import Mathlib.Data.Nat.Init

namespace HttpJournal.Utf8

def isAscii (b : UInt8) : Prop := b.toNat < 0x80

instance (b : UInt8) : Decidable (isAscii b) := inferInstanceAs (Decidable (b.toNat < 0x80))

theorem toNat_octet {n : Nat} (h : n < 0x100) : (UInt8.ofNat n).toNat = n :=
  UInt8.toNat_ofNat_of_lt' h

@[simp]
theorem encode_nil : encode [] = [] := rfl

@[simp]
theorem encode_cons (c : Char) (t : Text) :
    encode (c :: t) = String.utf8EncodeChar c ++ encode t := rfl

@[simp]
theorem encode_append (t u : Text) : encode (t ++ u) = encode t ++ encode u :=
  List.flatMap_append

theorem encodeChar_of_ascii {c : Char} (hc : c.toNat < 0x80) :
    String.utf8EncodeChar c = [UInt8.ofNat c.toNat] := by
  have h : c.val.toNat ≤ 0x7f := Nat.le_of_lt_succ hc
  unfold String.utf8EncodeChar
  rw [if_pos h]
  rfl

theorem not_isAscii_of_mem_encodeChar {c : Char} (hc : 0x80 ≤ c.toNat) {b : UInt8}
    (hb : b ∈ String.utf8EncodeChar c) : ¬isAscii b := by
  have h : ¬c.val.toNat ≤ 0x7f := Nat.not_le.mpr hc
  unfold String.utf8EncodeChar at hb
  simp only [if_neg h] at hb
  split at hb <;> [skip; split at hb] <;>
    simp only [List.mem_cons, List.not_mem_nil, or_false] at hb <;>
    rcases hb with rfl | rfl | rfl | rfl <;> simp only [isAscii, UInt8.toNat_ofNat'] <;> omega

/-- A character under way takes no ASCII octet, and what it comes to is not ASCII. -/
structure Pending.Sound (p : Pending) : Prop where
  low : 0x80 ≤ p.low
  large : 2 ≤ if p.owed ≤ 1 then p.bits else p.bits * 64 + (p.low - 0x80)

def Sound (s : Option Pending) : Prop := ∀ p, s = some p → p.Sound

theorem sound_none : Sound none := by
  intro p hp
  cases hp

theorem sound_lead (b : Nat) : Sound (lead b) := by
  intro p hp
  unfold lead at hp
  split_ifs at hp <;> cases hp <;> refine ⟨?_, ?_⟩ <;> simp <;> omega

theorem sound_start (b : UInt8) : Sound (start b).2 := by
  unfold start
  split_ifs
  · exact sound_none
  · have h := sound_lead b.toNat
    cases hl : lead b.toNat with
    | none => exact sound_none
    | some p =>
      rw [hl] at h
      exact h

theorem Pending.Sound.two_le_bits {p : Pending} (hp : p.Sound) {b : UInt8} (hb : isTail p b)
    (ho : ¬p.owed ≤ 1) : 2 ≤ p.bits * 64 + (b.toNat - 0x80) := by
  have hl := hp.large
  rw [if_neg ho] at hl
  have ht : p.low ≤ b.toNat := by
    simp only [isTail, Bool.and_eq_true, decide_eq_true_eq] at hb
    exact hb.1
  omega

theorem sound_step {s : Option Pending} (hs : Sound s) (b : UInt8) : Sound (step s b).2 := by
  cases s with
  | none => exact sound_start b
  | some p =>
    simp only [step]
    split_ifs with ht ho
    · exact sound_none
    · intro q hq
      cases hq
      have hbits := (hs p rfl).two_le_bits ht ho
      refine ⟨Nat.le_refl _, ?_⟩
      dsimp only
      split_ifs <;> omega
    · exact sound_start b

theorem decodeFrom_ascii {s : Option Pending} (hs : Sound s) {b : UInt8} (hb : isAscii b)
    (bs : Bytes) :
    decodeFrom s (b :: bs) = decodeFrom s [] ++ Char.ofNat b.toNat :: decodeFrom none bs := by
  have hb' : b.toNat < 0x80 := hb
  cases s with
  | none => simp [decodeFrom, step, start, hb']
  | some p =>
    have hlow : 0x80 ≤ p.low := (hs p rfl).low
    have ht : isTail p b = false := by
      have : ¬p.low ≤ b.toNat := by omega
      simp [isTail, this]
    simp [decodeFrom, step, start, hb', ht]

theorem decodeFrom_append_ascii {s : Option Pending} (hs : Sound s) (u : Bytes) {b : UInt8}
    (hb : isAscii b) (v : Bytes) :
    decodeFrom s (u ++ b :: v) = decodeFrom s u ++ Char.ofNat b.toNat :: decodeFrom none v := by
  induction u generalizing s with
  | nil => exact decodeFrom_ascii hs hb v
  | cons a u ih =>
    simp only [List.cons_append, decodeFrom, List.append_assoc]
    rw [ih (sound_step hs a)]

/-- An ASCII octet stands for itself wherever it is. -/
theorem decode_append_ascii (u : Bytes) {b : UInt8} (hb : isAscii b) (v : Bytes) :
    decode (u ++ b :: v) = decode u ++ Char.ofNat b.toNat :: decode v :=
  decodeFrom_append_ascii sound_none u hb v

theorem toNat_ofNat {n : Nat} (hn : n.isValidChar) : (Char.ofNat n).toNat = n := by
  rw [Char.ofNat, dif_pos hn]
  rfl

theorem toNat_ofNat_of_ascii {n : Nat} (hn : n < 0x80) : (Char.ofNat n).toNat = n :=
  toNat_ofNat (Or.inl (by omega))

theorem replacement_ne_of_ascii {c : Char} (hc : c.toNat < 0x80) : '\uFFFD' ≠ c := by
  rintro rfl
  exact absurd hc (by decide)

theorem ofNat_ne_of_ascii {c : Char} (hc : c.toNat < 0x80) (h0 : c.toNat ≠ 0) {n : Nat}
    (hn : 0x80 ≤ n) : Char.ofNat n ≠ c := by
  rintro rfl
  by_cases hv : n.isValidChar
  · rw [toNat_ofNat hv] at hc
    omega
  · -- a number that is no character stands for the character zero
    rw [Char.ofNat, dif_neg hv] at h0
    exact h0 rfl

theorem count_start {c : Char} (hc : c.toNat < 0x80) (a : UInt8) :
    (start a).1.count c = if a = UInt8.ofNat c.toNat then 1 else 0 := by
  have hn : (UInt8.ofNat c.toNat).toNat = c.toNat := toNat_octet (by omega)
  unfold start
  split_ifs with ha he he
  · rw [he, hn, Char.ofNat_toNat]
    simp
  · have hne : Char.ofNat a.toNat ≠ c := by
      rintro rfl
      apply he
      rw [toNat_ofNat_of_ascii ha, UInt8.ofNat_toNat]
    simp [hne]
  · rw [he, hn] at ha
    exact absurd hc ha
  · have hne := replacement_ne_of_ascii hc
    cases lead a.toNat <;> simp [hne]

theorem count_step {s : Option Pending} (hs : Sound s) {c : Char} (hc : c.toNat < 0x80)
    (h0 : c.toNat ≠ 0) (a : UInt8) :
    (step s a).1.count c = if a = UInt8.ofNat c.toNat then 1 else 0 := by
  cases s with
  | none => exact count_start hc a
  | some p =>
    have hp := hs p rfl
    have hn : (UInt8.ofNat c.toNat).toNat = c.toNat := toNat_octet (by omega)
    by_cases ht : isTail p a
    · -- an octet that goes on with a character is not ASCII
      have ha : a ≠ UInt8.ofNat c.toNat := by
        rintro rfl
        simp only [isTail, hn, Bool.and_eq_true, decide_eq_true_eq] at ht
        have := hp.low
        omega
      by_cases ho : p.owed ≤ 1
      · have hl := hp.large
        rw [if_pos ho] at hl
        have hne : Char.ofNat (p.bits * 64 + (a.toNat - 0x80)) ≠ c :=
          ofNat_ne_of_ascii hc h0 (by omega)
        simp [step, ht, ho, ha, hne]
      · simp [step, ht, ho, ha]
    · have hne := replacement_ne_of_ascii hc
      simp [step, ht, hne, count_start hc]

/-- Reading neither makes nor loses an ASCII character. -/
theorem count_decodeFrom {s : Option Pending} (hs : Sound s) {c : Char} (hc : c.toNat < 0x80)
    (h0 : c.toNat ≠ 0) (bs : Bytes) :
    (decodeFrom s bs).count c = bs.count (UInt8.ofNat c.toNat) := by
  induction bs generalizing s with
  | nil =>
    have hne := replacement_ne_of_ascii hc
    cases s <;> simp [decodeFrom, hne]
  | cons a bs ih =>
    rw [decodeFrom, List.count_append, count_step hs hc h0, ih (sound_step hs a), List.count_cons]
    simp [Nat.add_comm]

theorem count_encodeChar {c : Char} (hc : c.toNat < 0x80) (d : Char) :
    (String.utf8EncodeChar d).count (UInt8.ofNat c.toNat) = if d = c then 1 else 0 := by
  have hn : (UInt8.ofNat c.toNat).toNat = c.toNat := toNat_octet (by omega)
  by_cases hd : d.toNat < 0x80
  · have hm : (UInt8.ofNat d.toNat).toNat = d.toNat :=
      toNat_octet (by omega)
    have hiff : UInt8.ofNat d.toNat = UInt8.ofNat c.toNat ↔ d = c := by
      rw [← UInt8.toNat_inj, hm, hn, Char.toNat_inj]
    simp only [encodeChar_of_ascii hd, List.count_singleton, beq_iff_eq, hiff]
  · have hdc : d ≠ c := by
      rintro rfl
      exact hd hc
    rw [if_neg hdc, List.count_eq_zero]
    intro hmem
    apply not_isAscii_of_mem_encodeChar (Nat.le_of_not_lt hd) hmem
    simpa only [isAscii, hn] using hc

theorem count_encode {c : Char} (hc : c.toNat < 0x80) (t : Text) :
    (encode t).count (UInt8.ofNat c.toNat) = t.count c := by
  induction t with
  | nil => rfl
  | cons d t ih =>
    rw [encode_cons, List.count_append, count_encodeChar hc, ih, List.count_cons]
    simp [Nat.add_comm]

theorem mem_encode_iff {c : Char} (hc : c.toNat < 0x80) {t : Text} :
    UInt8.ofNat c.toNat ∈ encode t ↔ c ∈ t := by
  rw [← List.count_pos_iff, count_encode hc, List.count_pos_iff]

theorem bytes_append (s t : String) : bytes (s ++ t) = bytes s ++ bytes t := by
  rw [bytes, String.toList_append, encode_append]
  rfl

theorem decodeFrom_lead {b : UInt8} {p : Pending} (hb : ¬isAscii b) (hp : lead b.toNat = some p)
    (bs : Bytes) : decodeFrom none (b :: bs) = decodeFrom (some p) bs := by
  have hb' : ¬b.toNat < 0x80 := hb
  simp [decodeFrom, step, start, hb', hp]

theorem decodeFrom_more {p : Pending} {b : UInt8} (hb : isTail p b) (hp : 1 < p.owed)
    (bs : Bytes) : decodeFrom (some p) (b :: bs) =
      decodeFrom (some ⟨p.owed - 1, p.bits * 64 + (b.toNat - 0x80), 0x80, 0xBF⟩) bs := by
  have hp' : ¬p.owed ≤ 1 := Nat.not_le.mpr hp
  simp [decodeFrom, step, hb, hp']

theorem decodeFrom_last {p : Pending} {b : UInt8} (hb : isTail p b) (hp : p.owed ≤ 1)
    (bs : Bytes) : decodeFrom (some p) (b :: bs) =
      Char.ofNat (p.bits * 64 + (b.toNat - 0x80)) :: decodeFrom none bs := by
  simp [decodeFrom, step, hb, hp]

theorem lead_of_two {n : Nat} (h : 0x80 ≤ n) (h' : n ≤ 0x7FF) :
    lead (n / 64 % 32 + 0xC0) = some ⟨1, n / 64, 0x80, 0xBF⟩ := by
  unfold lead
  have hbits : n / 64 % 32 + 0xC0 - 0xC0 = n / 64 := by omega
  rw [if_pos (by omega), hbits]

/-- After the first octet of three, the bounds of the second leave out overlong forms and
surrogates. -/
theorem lead_of_three {n : Nat} (h : 0x800 ≤ n) (h' : n ≤ 0xFFFF)
    (hs : n < 0xD800 ∨ 0xDFFF < n) :
    ∃ p, lead (n / 4096 % 16 + 0xE0) = some p ∧ p.owed = 2 ∧ p.bits = n / 4096 ∧
      p.low ≤ n / 64 % 64 + 0x80 ∧ n / 64 % 64 + 0x80 ≤ p.high := by
  unfold lead
  rw [if_neg (by omega)]
  by_cases h0 : n / 4096 % 16 + 0xE0 = 0xE0
  · refine ⟨_, if_pos h0, rfl, ?_, ?_, ?_⟩ <;> simp only [] <;> omega
  by_cases hd : n / 4096 % 16 + 0xE0 = 0xED
  · refine ⟨_, (if_neg h0).trans (if_pos hd), rfl, ?_, ?_, ?_⟩ <;> simp only [] <;> omega
  · rw [if_neg h0, if_neg hd, if_pos (by omega)]
    refine ⟨_, rfl, rfl, ?_, ?_, ?_⟩ <;> simp only [] <;> omega

theorem lead_of_four {n : Nat} (h : 0x10000 ≤ n) (h' : n ≤ 0x10FFFF) :
    ∃ p, lead (n / 262144 % 8 + 0xF0) = some p ∧ p.owed = 3 ∧ p.bits = n / 262144 ∧
      p.low ≤ n / 4096 % 64 + 0x80 ∧ n / 4096 % 64 + 0x80 ≤ p.high := by
  unfold lead
  rw [if_neg (by omega), if_neg (by omega), if_neg (by omega), if_neg (by omega)]
  by_cases h0 : n / 262144 % 8 + 0xF0 = 0xF0
  · refine ⟨_, if_pos h0, rfl, ?_, ?_, ?_⟩ <;> simp only [] <;> omega
  by_cases h4 : n / 262144 % 8 + 0xF0 = 0xF4
  · rw [if_neg h0, if_neg (by omega), if_pos h4]
    refine ⟨_, rfl, rfl, ?_, ?_, ?_⟩ <;> simp only [] <;> omega
  · rw [if_neg h0, if_pos (by omega)]
    refine ⟨_, rfl, rfl, ?_, ?_, ?_⟩ <;> simp only [] <;> omega

theorem isTail_ofNat {p : Pending} {n : Nat} (hn : n < 0x100) (hl : p.low ≤ n) (hh : n ≤ p.high) :
    isTail p (UInt8.ofNat n) := by
  have h : (UInt8.ofNat n).toNat = n := toNat_octet hn
  simp [isTail, h, hl, hh]

/-- An octet after the second is bounded by nothing but being a tail. -/
theorem isTail_ofNat_mod (owed bits n : Nat) :
    isTail ⟨owed, bits, 0x80, 0xBF⟩ (UInt8.ofNat (n % 64 + 0x80)) :=
  isTail_ofNat (by omega) (Nat.le_add_left _ _) (by dsimp only; omega)

theorem toNat_ofNat_tail (n : Nat) : (UInt8.ofNat (n % 64 + 0x80)).toNat = n % 64 + 0x80 :=
  toNat_octet (by omega)

theorem decodeFrom_one {n : Nat} (h : n < 0x80) (bs : Bytes) :
    decodeFrom none (UInt8.ofNat n :: bs) = Char.ofNat n :: decodeFrom none bs := by
  have hb : (UInt8.ofNat n).toNat = n :=
    toNat_octet (by omega)
  have ha : isAscii (UInt8.ofNat n) := by
    simp only [isAscii, hb]
    exact h
  rw [decodeFrom_ascii sound_none ha, hb]
  rfl

theorem decodeFrom_two {n : Nat} (h : 0x80 ≤ n) (h' : n ≤ 0x7FF) (bs : Bytes) :
    decodeFrom none
      (UInt8.ofNat (n / 64 % 0x20 + 0xC0) :: UInt8.ofNat (n % 0x40 + 0x80) :: bs) =
      Char.ofNat n :: decodeFrom none bs := by
  have hb : (UInt8.ofNat (n / 64 % 0x20 + 0xC0)).toNat = n / 64 % 0x20 + 0xC0 :=
    toNat_octet (by omega)
  have hna : ¬isAscii (UInt8.ofNat (n / 64 % 0x20 + 0xC0)) := by
    simp only [isAscii, hb]
    omega
  have hlead := lead_of_two h h'
  rw [← hb] at hlead
  have hbits : n / 64 * 64 + (n % 64 + 0x80 - 0x80) = n := by omega
  rw [decodeFrom_lead hna hlead,
    decodeFrom_last (isTail_ofNat_mod _ _ _) (Nat.le_refl _),
    toNat_ofNat_tail, hbits]

theorem decodeFrom_three {n : Nat} (h : 0x800 ≤ n) (h' : n ≤ 0xFFFF)
    (hs : n < 0xD800 ∨ 0xDFFF < n) (bs : Bytes) :
    decodeFrom none (UInt8.ofNat (n / 4096 % 0x10 + 0xE0) ::
      UInt8.ofNat (n / 64 % 0x40 + 0x80) :: UInt8.ofNat (n % 0x40 + 0x80) :: bs) =
      Char.ofNat n :: decodeFrom none bs := by
  have hb : (UInt8.ofNat (n / 4096 % 0x10 + 0xE0)).toNat = n / 4096 % 0x10 + 0xE0 :=
    toNat_octet (by omega)
  have hna : ¬isAscii (UInt8.ofNat (n / 4096 % 0x10 + 0xE0)) := by
    simp only [isAscii, hb]
    omega
  obtain ⟨p, hlead, howed, hpbits, hlow, hhigh⟩ := lead_of_three h h' hs
  rw [← hb] at hlead
  have hbits :
      (p.bits * 64 + (n / 64 % 64 + 0x80 - 0x80)) * 64 + (n % 64 + 0x80 - 0x80) = n := by omega
  rw [decodeFrom_lead hna hlead, decodeFrom_more (isTail_ofNat (by omega) hlow hhigh) (by omega),
    decodeFrom_last (isTail_ofNat_mod _ _ _) (by dsimp only; omega),
    toNat_ofNat_tail, toNat_ofNat_tail, hbits]

theorem decodeFrom_four {n : Nat} (h : 0x10000 ≤ n) (h' : n ≤ 0x10FFFF) (bs : Bytes) :
    decodeFrom none (UInt8.ofNat (n / 262144 % 0x08 + 0xF0) ::
      UInt8.ofNat (n / 4096 % 0x40 + 0x80) :: UInt8.ofNat (n / 64 % 0x40 + 0x80) ::
      UInt8.ofNat (n % 0x40 + 0x80) :: bs) =
      Char.ofNat n :: decodeFrom none bs := by
  have hb : (UInt8.ofNat (n / 262144 % 0x08 + 0xF0)).toNat = n / 262144 % 0x08 + 0xF0 :=
    toNat_octet (by omega)
  have hna : ¬isAscii (UInt8.ofNat (n / 262144 % 0x08 + 0xF0)) := by
    simp only [isAscii, hb]
    omega
  obtain ⟨p, hlead, howed, hpbits, hlow, hhigh⟩ := lead_of_four h h'
  rw [← hb] at hlead
  have hbits : ((p.bits * 64 + (n / 4096 % 64 + 0x80 - 0x80)) * 64 +
      (n / 64 % 64 + 0x80 - 0x80)) * 64 + (n % 64 + 0x80 - 0x80) = n := by omega
  rw [decodeFrom_lead hna hlead, decodeFrom_more (isTail_ofNat (by omega) hlow hhigh) (by omega),
    decodeFrom_more (isTail_ofNat_mod _ _ _) (by dsimp only; omega),
    decodeFrom_last (isTail_ofNat_mod _ _ _) (by dsimp only; omega),
    toNat_ofNat_tail, toNat_ofNat_tail, toNat_ofNat_tail, hbits]

theorem decodeFrom_encodeChar (c : Char) (bs : Bytes) :
    decodeFrom none (String.utf8EncodeChar c ++ bs) = c :: decodeFrom none bs := by
  have hvalid : c.val.toNat < 0xD800 ∨ 0xDFFF < c.val.toNat ∧ c.val.toNat < 0x110000 := c.valid
  have hchar : Char.ofNat c.val.toNat = c := Char.ofNat_toNat c
  generalize hn : c.val.toNat = n at hvalid hchar
  unfold String.utf8EncodeChar
  rw [← hchar]
  simp only [hn, hchar]
  split_ifs with h1 h2 h3 <;> simp only [List.cons_append, List.nil_append, ← hchar]
  · exact decodeFrom_one (by omega) bs
  · exact decodeFrom_two (by omega) h2 bs
  · exact decodeFrom_three (by omega) h3 (by omega) bs
  · exact decodeFrom_four (by omega) (by omega) bs

theorem decode_encode_append (t : Text) (bs : Bytes) :
    decode (encode t ++ bs) = t ++ decode bs := by
  induction t with
  | nil => rfl
  | cons c t ih =>
    rw [encode_cons, List.append_assoc]
    exact (decodeFrom_encodeChar c (encode t ++ bs)).trans (congrArg (c :: ·) ih)

@[simp]
theorem decode_encode (t : Text) : decode (encode t) = t := by
  have h := decode_encode_append t []
  simpa [decode, decodeFrom] using h

@[simp]
theorem text_bytes (s : String) : text (bytes s) = s := by
  rw [text, bytes, decode_encode, String.ofList_toList]

/-- Characters that begin with an ASCII one are read alike wherever their octets stand. -/
theorem decode_append_encode_cons (u : Bytes) {c : Char} (hc : c.toNat < 0x80) (t : Text)
    (v : Bytes) : decode (u ++ encode (c :: t) ++ v) = decode u ++ c :: t ++ decode v := by
  have hn : (UInt8.ofNat c.toNat).toNat = c.toNat := toNat_octet (by omega)
  have ha : isAscii (UInt8.ofNat c.toNat) := by simpa only [isAscii, hn] using hc
  rw [encode_cons, encodeChar_of_ascii hc, List.append_assoc, List.singleton_append,
    List.cons_append, decode_append_ascii u ha, hn, Char.ofNat_toNat, decode_encode_append,
    List.append_assoc, List.cons_append]

theorem infix_of_encode {c : Char} (hc : c.toNat < 0x80) {t u : Text}
    (h : encode (c :: t) <:+: encode u) : c :: t <:+: u := by
  obtain ⟨a, b, hab⟩ := h
  refine ⟨decode a, decode b, ?_⟩
  rw [← decode_append_encode_cons a hc, hab, decode_encode]

end HttpJournal.Utf8
