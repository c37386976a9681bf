import HttpJournal.Json.Reader
import HttpJournal.Json.Writer
import Mathlib.Tactic.SplitIfs

namespace HttpJournal.Json

theorem stringBody_quote (t : Text) : stringBody ('"' :: t) = some ([], t) := by
  rw [stringBody]

theorem stringBody_simple {c e : Char} (h : simpleEscape? c = some e) (t : Text) :
    stringBody ('\\' :: c :: t) = consTo e (stringBody t) := by
  rw [stringBody]
  · rw [h]
  · rintro _ _ _ _ _ rfl _
    cases h

theorem stringBody_codeUnit {a b c d : Char} {n : Nat} (h : codeUnit? a b c d = some n)
    (hlow : isLowSurrogate n = false) (hhigh : isHighSurrogate n = false) (t : Text) :
    stringBody ('\\' :: 'u' :: a :: b :: c :: d :: t) = consTo (Char.ofNat n) (stringBody t) := by
  rw [stringBody, h]
  simp only [hlow, hhigh]
  rfl

theorem stringBody_plain {c : Char} (hq : c ≠ '"') (hb : c ≠ '\\') (hc : 0x20 ≤ c.toNat)
    (t : Text) : stringBody (c :: t) = consTo c (stringBody t) := by
  rw [stringBody]
  · rw [if_neg (Nat.not_lt.mpr hc)]
  · exact hq
  · exact fun _ _ _ _ _ h _ => hb h
  · exact fun _ _ h _ => hb h

theorem codeUnit?_control :
    ∀ n < 0x20, codeUnit? '0' '0' (lowerHex (n / 16)) (lowerHex n) = some n := by
  decide

theorem le_lowerHex (n : Nat) : 0x20 ≤ (lowerHex n).toNat := by
  have h : ∀ k < 16, 0x20 ≤ ("0123456789abcdef".toList.getD k '0').toNat := by decide
  exact h (n % 16) (Nat.mod_lt n (by decide))

theorem not_isSurrogate_of_lt {n : Nat} (h : n < 0x20) :
    isLowSurrogate n = false ∧ isHighSurrogate n = false := by
  simp [isLowSurrogate, isHighSurrogate]
  omega

theorem stringBody_control {c : Char} (h : c.toNat < 0x20) (t : Text) :
    stringBody (['\\', 'u', '0', '0', lowerHex (c.toNat / 16), lowerHex c.toNat] ++ t) =
      consTo c (stringBody t) := by
  obtain ⟨hlow, hhigh⟩ := not_isSurrogate_of_lt h
  simp only [List.cons_append, List.nil_append]
  rw [stringBody_codeUnit (codeUnit?_control c.toNat h) hlow hhigh, Char.ofNat_toNat]

theorem stringBody_escape (c : Char) (t : Text) :
    stringBody (escape c ++ t) = consTo c (stringBody t) := by
  unfold escape
  split
  case h_8 _ hq hb _ _ _ _ _ =>
    split_ifs with hc
    · exact stringBody_control hc t
    · exact stringBody_plain hq hb (Nat.le_of_not_lt hc) t
  all_goals exact stringBody_simple rfl t

theorem escaped_cons (c : Char) (t : Text) : escaped (c :: t) = escape c ++ escaped t :=
  List.flatMap_cons

theorem stringBody_escaped (t rest : Text) :
    stringBody (escaped t ++ '"' :: rest) = some (t, rest) := by
  induction t with
  | nil => exact stringBody_quote rest
  | cons c t ih =>
    rw [escaped_cons, List.append_assoc, stringBody_escape, ih]
    rfl

section Surrogate

theorem isLowSurrogate_of_isHighSurrogate {n : Nat} (h : isHighSurrogate n) :
    isLowSurrogate n = false := by
  simp [isLowSurrogate, isHighSurrogate] at h ⊢
  omega

variable {a b c d : Char} {n : Nat} (hn : codeUnit? a b c d = some n)

include hn

theorem stringBody_low (hlow : isLowSurrogate n) (t : Text) :
    stringBody ('\\' :: 'u' :: a :: b :: c :: d :: t) = none := by
  rw [stringBody, hn]
  exact if_pos hlow

theorem stringBody_pair (hhigh : isHighSurrogate n) {a' b' c' d' : Char} {m : Nat}
    (hm : codeUnit? a' b' c' d' = some m) (t : Text) :
    stringBody ('\\' :: 'u' :: a :: b :: c :: d :: '\\' :: 'u' :: a' :: b' :: c' :: d' :: t) =
      if isLowSurrogate m then consTo (joinSurrogates n m) (stringBody t) else none := by
  rw [stringBody, hn]
  simp only [hm, hhigh, isLowSurrogate_of_isHighSurrogate hhigh, Bool.false_eq_true, if_true,
    if_false]

theorem stringBody_lone (hhigh : isHighSurrogate n) {t : Text}
    (h : ∀ a b c d rest m, t = '\\' :: 'u' :: a :: b :: c :: d :: rest →
      codeUnit? a b c d = some m → isLowSurrogate m = false) :
    stringBody ('\\' :: 'u' :: a :: b :: c :: d :: t) = none := by
  rw [stringBody, hn]
  simp only [hhigh, isLowSurrogate_of_isHighSurrogate hhigh, Bool.false_eq_true, if_true, if_false]
  split
  case h_2 => rfl
  case h_1 rest =>
    split
    case h_2 => rfl
    case h_1 m hm => exact if_neg (by simp [h _ _ _ _ rest m rfl hm])

end Surrogate

section Length

theorem length_escape_le (c : Char) : (escape c).length ≤ 6 := by
  unfold escape
  split
  case h_8 =>
    split_ifs
    · exact Nat.le_refl 6
    · exact Nat.le_add_left 1 5
  all_goals decide

theorem length_escape_simple {c e : Char} (h : simpleEscape? c = some e) :
    (escape e).length ≤ 2 := by
  unfold simpleEscape? at h
  split at h
  case h_9 => cases h
  all_goals
    obtain rfl := Option.some.inj h
    decide

theorem length_escape_plain {c : Char} (hq : c ≠ '"') (hb : c ≠ '\\') (hc : 0x20 ≤ c.toNat) :
    (escape c).length = 1 := by
  unfold escape
  split
  case h_8 =>
    rw [if_neg (Nat.not_lt.mpr hc)]
    rfl
  case h_1 => exact absurd rfl hq
  case h_2 => exact absurd rfl hb
  all_goals exact absurd hc (by decide)

theorem consTo_eq_some {c : Char} {o : Option (Text × Text)} {d rest : Text}
    (h : consTo c o = some (d, rest)) : ∃ d', d = c :: d' ∧ o = some (d', rest) := by
  cases o with
  | none => cases h
  | some p =>
    obtain ⟨rfl, rfl⟩ := Prod.mk.inj (Option.some.inj h)
    exact ⟨p.1, rfl, rfl⟩

theorem length_escaped_consTo {c : Char} {u t d rest : Text}
    (ih : ∀ {d : Text}, stringBody u = some (d, rest) →
      (escaped d).length + rest.length + 1 ≤ u.length)
    (h : consTo c (stringBody u) = some (d, rest)) (hc : (escape c).length + u.length ≤ t.length) :
    (escaped d).length + rest.length + 1 ≤ t.length := by
  obtain ⟨d', rfl, hu⟩ := consTo_eq_some h
  have hle := ih hu
  rw [escaped_cons, List.length_append]
  omega

/-- No inside of a string is shorter than what it denotes, escaped. -/
theorem length_escaped_le {t d rest : Text} (h : stringBody t = some (d, rest)) :
    (escaped d).length + rest.length + 1 ≤ t.length := by
  fun_induction stringBody t generalizing d with
  | case2 rest' =>
    obtain ⟨rfl, rfl⟩ := Prod.mk.inj (Option.some.inj h)
    simp [escaped]
  | case5 a b c d n hn hlow hhigh a' b' c' d' rest' m hm hlow' ih =>
    have hc := length_escape_le (joinSurrogates n m)
    apply length_escaped_consTo ih h
    simp only [List.length_cons]
    omega
  | case9 a b c d rest' n hn hlow hhigh ih =>
    have hc := length_escape_le (Char.ofNat n)
    apply length_escaped_consTo ih h
    simp only [List.length_cons]
    omega
  | case10 c rest' hu e he ih =>
    have hc := length_escape_simple he
    apply length_escaped_consTo ih h
    simp only [List.length_cons]
    omega
  | case13 c rest' hq hu hpair hc ih =>
    cases rest' with
    | nil =>
      obtain ⟨d', -, hnone⟩ := consTo_eq_some h
      cases hnone
    | cons c' rest' =>
      have hb : c ≠ '\\' := fun hb => hpair c' rest' hb rfl
      have hone := length_escape_plain hq hb (Nat.le_of_not_lt hc)
      apply length_escaped_consTo ih h
      simp only [List.length_cons]
      omega
  | _ => cases h

end Length

theorem le_of_mem_escape {c d : Char} (h : d ∈ escape c) : 0x20 ≤ d.toNat := by
  unfold escape at h
  split at h
  case h_8 =>
    split_ifs at h with hc
    · simp only [List.mem_cons, List.not_mem_nil, or_false] at h
      rcases h with rfl | rfl | rfl | rfl | rfl | rfl
      · decide
      · decide
      · decide
      · decide
      · exact le_lowerHex _
      · exact le_lowerHex _
    · rw [List.mem_singleton.mp h]
      exact Nat.le_of_not_lt hc
  all_goals
    simp only [List.mem_cons, List.not_mem_nil, or_false] at h
    rcases h with rfl | rfl <;> decide

theorem le_of_mem_quoted {t : Text} {d : Char} (h : d ∈ quoted t) : 0x20 ≤ d.toNat := by
  simp only [quoted, escaped, List.cons_append, List.mem_cons, List.mem_append, List.mem_flatMap,
    List.not_mem_nil, or_false] at h
  rcases h with rfl | ⟨c, -, hd⟩ | rfl
  · decide
  · exact le_of_mem_escape hd
  · decide

end HttpJournal.Json
