import HttpJournal.Proofs.CompactText
import HttpJournal.Proofs.StringInside

namespace HttpJournal.Json

def BackslashFirst : Text → Prop
  | [] => False
  | c :: t => c = '\\' ∨ c ≠ '"' ∧ BackslashFirst t

namespace BackslashFirst

theorem tail {c : Char} {t : Text} (h : BackslashFirst (c :: t)) (hc : c ≠ '\\') :
    BackslashFirst t :=
  (h.resolve_left hc).2

theorem dropWhile {p : Char → Bool} (hp : p '\\' = false) {t : Text} (h : BackslashFirst t) :
    BackslashFirst (t.dropWhile p) := by
  induction t with
  | nil => exact h
  | cons c t ih =>
    by_cases hc : p c
    · rw [List.dropWhile_cons_of_pos hc]
      apply ih (h.tail _)
      rintro rfl
      rw [hp] at hc
      cases hc
    · rwa [List.dropWhile_cons_of_neg hc]

theorem skip {t : Text} (h : BackslashFirst t) : BackslashFirst (skip t) := h.dropWhile (by decide)

theorem span {t : Text} (h : BackslashFirst t) : BackslashFirst (Decimal.span t).2 :=
  h.dropWhile (by decide)

theorem takeDigits {t : Text} (h : BackslashFirst t) (s taken : Nat) :
    BackslashFirst (takeDigits s taken t).2.2 := by
  induction t generalizing s taken with
  | nil => exact h
  | cons c t ih =>
    rw [Json.takeDigits]
    split_ifs with hc
    · apply ih (h.tail _)
      rintro rfl
      exact absurd hc.1 (by decide)
    · exact h

theorem of_map {α β : Type} {f : α → β} {o : Option (α × Text)} {y : β} {rest : Text}
    (h : ∀ x rest, o = some (x, rest) → BackslashFirst rest)
    (hread : (o.map fun (x, rest) => (f x, rest)) = some (y, rest)) : BackslashFirst rest := by
  obtain ⟨⟨x, u⟩, ho, hy⟩ := Option.map_eq_some_iff.mp hread
  obtain ⟨-, rfl⟩ := Prod.mk.inj hy
  exact h x u ho

section Number

variable {negative : Bool} {s : Nat} {e : Int} {t rest : Text} {n : Number}

theorem of_real? (h : BackslashFirst t) (hread : (real? negative s e).map (·, t) = some (n, rest)) :
    BackslashFirst rest := by
  obtain ⟨m, -, hm⟩ := Option.map_eq_some_iff.mp hread
  obtain ⟨-, rfl⟩ := Prod.mk.inj hm
  exact h

theorem exponentOf (h : BackslashFirst t) (hread : exponentOf negative s e t = some (n, rest)) :
    BackslashFirst rest := by
  unfold Json.exponentOf at hread
  split at hread
  rename_i down u hsign
  have hu : BackslashFirst u := by
    split at hsign
    · obtain ⟨-, rfl⟩ := Prod.mk.inj hsign
      exact h.tail (by decide)
    · obtain ⟨-, rfl⟩ := Prod.mk.inj hsign
      exact h.tail (by decide)
    · obtain ⟨-, rfl⟩ := Prod.mk.inj hsign
      exact h
  split at hread
  · exact hu.span.of_real? hread
  · cases hread

theorem fractionOf (h : BackslashFirst t) (hread : fractionOf negative s e t = some (n, rest)) :
    BackslashFirst rest := by
  have hrest := (h.takeDigits s 0).span
  unfold Json.fractionOf at hread
  dsimp only at hread
  split_ifs at hread
  split at hread
  case h_1 r hr =>
    rw [hr] at hrest
    exact (hrest.tail (by decide)).exponentOf hread
  case h_2 r hr =>
    rw [hr] at hrest
    exact (hrest.tail (by decide)).exponentOf hread
  case h_3 => exact hrest.of_real? hread

theorem number (h : BackslashFirst t) (hread : number negative t = some (n, rest)) :
    BackslashFirst rest := by
  have hrest := (h.takeDigits 0 0).span
  unfold Json.number at hread
  extract_lets leadingZero at hread
  split_ifs at hread
  dsimp only at hread
  split at hread
  case h_1 r hr =>
    rw [hr] at hrest
    exact (hrest.tail (by decide)).fractionOf hread
  case h_2 r hr =>
    rw [hr] at hrest
    exact (hrest.tail (by decide)).exponentOf hread
  case h_3 r hr =>
    rw [hr] at hrest
    exact (hrest.tail (by decide)).exponentOf hread
  case h_4 =>
    split_ifs at hread
    · obtain ⟨-, rfl⟩ := Prod.mk.inj (Option.some.inj hread)
      exact hrest
    · exact hrest.of_real? hread

end Number

theorem scalar {t rest : Text} {v : Value} (h : BackslashFirst t)
    (hread : scalar t = some (v, rest)) : BackslashFirst rest := by
  unfold Json.scalar at hread
  split at hread
  · obtain ⟨-, rfl⟩ := Prod.mk.inj (Option.some.inj hread)
    simpa [BackslashFirst] using h
  · obtain ⟨-, rfl⟩ := Prod.mk.inj (Option.some.inj hread)
    simpa [BackslashFirst] using h
  · obtain ⟨-, rfl⟩ := Prod.mk.inj (Option.some.inj hread)
    simpa [BackslashFirst] using h
  · simp [BackslashFirst] at h
  · exact of_map (fun _ _ => (h.tail (by decide)).number) hread
  · exact of_map (fun _ _ => h.number) hread

section Item

variable {α : Type} {item : Text → Option (α × Text)}
  (hitem : ∀ {t x rest}, BackslashFirst t → item t = some (x, rest) → BackslashFirst rest)

include hitem

theorem itemsTo {close : Char} (hclose : close ≠ '\\') {fuel : Nat} {t rest : Text}
    {xs : List α} (h : BackslashFirst t) (hread : itemsTo close item fuel t = some (xs, rest)) :
    BackslashFirst rest := by
  induction fuel generalizing t rest xs with
  | zero => cases hread
  | succ fuel ih =>
    rw [Json.itemsTo] at hread
    split at hread
    · cases hread
    rename_i x u hx
    have hu := (hitem h hx).skip
    split at hread
    · cases hread
    rename_i c v hv
    rw [hv] at hu
    split_ifs at hread with hc hcomma
    · obtain ⟨-, rfl⟩ := Prod.mk.inj (Option.some.inj hread)
      exact hu.tail (hc ▸ hclose)
    · exact of_map (fun _ _ => ih (hu.tail (hcomma ▸ by decide))) hread

theorem bracketed {close : Char} (hclose : close ≠ '\\') {t rest : Text} {xs : List α}
    (h : BackslashFirst t) (hread : bracketed close item t = some (xs, rest)) :
    BackslashFirst rest := by
  rw [Json.bracketed] at hread
  split at hread
  · cases hread
  rename_i c u hu
  split_ifs at hread with hc
  · obtain ⟨-, rfl⟩ := Prod.mk.inj (Option.some.inj hread)
    have hskip := h.skip
    rw [hu] at hskip
    exact hskip.tail (hc ▸ hclose)
  · exact itemsTo hitem hclose h hread

end Item

theorem member {value : Text → Option (Value × Text)} {t rest : Text} {m : String × Value}
    (h : BackslashFirst t) (hread : member value t = some (m, rest)) : BackslashFirst rest := by
  have hskip := h.skip
  rw [Json.member] at hread
  split at hread
  case h_1 u hu =>
    rw [hu] at hskip
    simp [BackslashFirst] at hskip
  case h_2 => cases hread

theorem value {depth : Nat} {t rest : Text} {v : Value} (h : BackslashFirst t)
    (hread : value depth t = some (v, rest)) : BackslashFirst rest := by
  induction depth generalizing t rest v with
  | zero => exact h.skip.scalar hread
  | succ depth ih =>
    have hskip := h.skip
    rw [Json.value] at hread
    split at hread
    case h_1 u hu =>
      rw [hu] at hskip
      refine of_map (fun items rest hitems => ?_) hread
      exact bracketed ih (by decide) (hskip.tail (by decide)) hitems
    case h_2 u hu =>
      rw [hu] at hskip
      obtain ⟨⟨members, r⟩, hmembers, hv⟩ := Option.map_eq_some_iff.mp hread
      obtain ⟨-, rfl⟩ := Prod.mk.inj hv
      exact bracketed member (by decide) (hskip.tail (by decide)) hmembers
    case h_3 => exact hskip.scalar hread

end BackslashFirst

/-- Outside a string there is no backslash, and a string begins with a quote. -/
theorem read?_of_backslashFirst {t : Text} (h : BackslashFirst t) : read? t = none := by
  rw [read?]
  split
  case h_1 v rest hread =>
    have hrest := (h.value hread).skip
    cases hskip : skip rest with
    | nil => rw [hskip] at hrest; cases hrest
    | cons c u => rfl
  case h_2 => rfl

section Escaped

theorem escape_eq_or (c : Char) : escape c = [c] ∧ c ≠ '"' ∨ ∃ w, escape c = '\\' :: w := by
  unfold escape
  split
  case h_8 hq _ _ _ _ _ _ =>
    split_ifs
    · exact Or.inr ⟨_, rfl⟩
    · exact Or.inl ⟨rfl, hq⟩
  all_goals exact Or.inr ⟨_, rfl⟩

/-- Every quote that is written follows a backslash. -/
theorem escaped_eq_self_or (t : Text) : escaped t = t ∨ BackslashFirst (escaped t) := by
  induction t with
  | nil => exact Or.inl rfl
  | cons c t ih =>
    rw [escaped_cons]
    rcases escape_eq_or c with ⟨hc, hq⟩ | ⟨w, hw⟩
    · rw [hc]
      exact ih.imp (congrArg (c :: ·)) fun h => Or.inr ⟨hq, h⟩
    · rw [hw]
      exact Or.inr (Or.inl rfl)

theorem decoded?_escape (c : Char) (t : Text) :
    decoded? (escape c ++ t) = (decoded? t).map (c :: ·) := by
  unfold escape
  split
  case h_8 _ hb _ _ _ _ _ =>
    split_ifs with hc
    · obtain ⟨hlow, hhigh⟩ := not_isSurrogate_of_lt hc
      simp only [List.cons_append, List.nil_append, decoded?]
      rw [marks_codeUnit (codeUnit?_control c.toNat hc), joined?_unit hlow hhigh, Char.ofNat_toNat]
    · simp only [List.cons_append, List.nil_append, decoded?]
      rw [marks_plain hb, joined?]
  all_goals
    simp only [List.cons_append, List.nil_append, decoded?]
    rw [marks_simple rfl, joined?]

theorem decoded?_escaped (t : Text) : decoded? (escaped t) = some t := by
  induction t with
  | nil => rfl
  | cons c t ih => rw [escaped_cons, decoded?_escape, ih, Option.map_some]

theorem decoded?_of_not_mem {t : Text} (h : '\\' ∉ t) : decoded? t = some t := by
  induction t with
  | nil => rfl
  | cons c t ih =>
    rw [List.mem_cons, not_or] at h
    rw [decoded?, marks_plain (Ne.symm h.1), joined?]
    change (decoded? t).map (c :: ·) = some (c :: t)
    rw [ih h.2, Option.map_some]

end Escaped

/-- Where no truthy document comes in between, what is readable is its own readable form. -/
theorem readable_readable_of_untruthy {t : Text} (h : truthy? t = none)
    (hagain : truthy? (readable t) = none) : readable (readable t) = readable t := by
  have hreadable := readable_of_untruthy h
  cases hd : decoded? t with
  | none =>
    have hself : readable t = t := by rw [hreadable, hd]; rfl
    rw [hself, hself]
  | some d =>
    have hescaped : readable t = escaped d := by rw [hreadable, hd]; rfl
    rw [readable_of_untruthy hagain, hescaped, decoded?_escaped]
    rfl

/-- Plain text is made readable as itself or as no document at all. -/
theorem truthy?_readable_of_not_mem {t : Text} (hb : '\\' ∉ t) (h : truthy? t = none) :
    truthy? (readable t) = none := by
  have hreadable : readable t = escaped t := by
    rw [readable_of_untruthy h, decoded?_of_not_mem hb]
    rfl
  rw [hreadable]
  rcases escaped_eq_self_or t with hself | hfirst
  · rwa [hself]
  · rw [truthy?, read?_of_backslashFirst hfirst]
    rfl

/-- Readable text is its own readable form if it was made from a truthy document of integers, or
from no truthy document and holds none itself, as is the case for all text without a backslash. -/
theorem readable_idempotent (t : Text) :
    ((∃ v, read? t = some v ∧ v.isTruthy ∧ v.Integral) ∨
        truthy? t = none ∧ truthy? (readable t) = none →
      readable (readable t) = readable t) ∧
    ('\\' ∉ t → truthy? t = none →
      truthy? (readable t) = none ∧ readable (readable t) = readable t) := by
  constructor
  · rintro (⟨v, hread, htruthy, hv⟩ | ⟨h, hagain⟩)
    · rw [readable_of_truthy (read?_readable hread htruthy hv) htruthy,
        readable_of_truthy hread htruthy]
    · exact readable_readable_of_untruthy h hagain
  · intro hb h
    have hagain := truthy?_readable_of_not_mem hb h
    exact ⟨hagain, readable_readable_of_untruthy h hagain⟩

theorem readable_idempotent_loose :
    readable (readable loose) = readable loose ∧
      readable (readable ['\\', 'x', '\\', 'u', '0', '0', 'e', '9']) =
        readable ['\\', 'x', '\\', 'u', '0', '0', 'e', '9'] ∧
      truthy? (readable ['"', '"']) = none ∧
      readable (readable ['"', '"']) = readable ['"', '"'] := by
  have hinside : truthy? ['\\', 'x', '\\', 'u', '0', '0', 'e', '9'] = none := by decide +kernel
  have hagain : truthy? (readable ['\\', 'x', '\\', 'u', '0', '0', 'e', '9']) = none := by
    decide +kernel
  have hfalse : truthy? ['"', '"'] = none := by decide +kernel
  exact ⟨(readable_idempotent loose).1 (Or.inl ⟨tight, read?_loose, rfl, integral_tight⟩),
    (readable_idempotent _).1 (Or.inr ⟨hinside, hagain⟩),
    (readable_idempotent _).2 (by decide) hfalse⟩

end HttpJournal.Json
