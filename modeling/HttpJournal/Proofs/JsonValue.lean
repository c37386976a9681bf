import HttpJournal.Json.Readable
import HttpJournal.Proofs.Assoc
import HttpJournal.Proofs.JsonNumber
import HttpJournal.Proofs.JsonString
import Mathlib.Data.List.Forall2

namespace HttpJournal.Json

inductive Value.Integral : Value → Prop
  | null : Integral .null
  | bool (b : Bool) : Integral (.bool b)
  | number {n : Number} (h : ∀ x, n ≠ .real x) : Integral (.number n)
  | string (s : String) : Integral (.string s)
  | array {items : List Value} (h : ∀ v ∈ items, Integral v) : Integral (.array items)
  | object {members : List (String × Value)} (h : ∀ m ∈ members, Integral m.2) :
    Integral (.object members)

/-- A document of integers that nests at most so deep and repeats no key. -/
inductive Value.Fits : Nat → Value → Prop
  | null {depth : Nat} : Fits depth .null
  | bool {depth : Nat} (b : Bool) : Fits depth (.bool b)
  | number {depth : Nat} {n : Number} (h : n.IsWord) : Fits depth (.number n)
  | string {depth : Nat} (s : String) : Fits depth (.string s)
  | array {depth : Nat} {items : List Value} (h : ∀ v ∈ items, Fits depth v) :
    Fits (depth + 1) (.array items)
  | object {depth : Nat} {members : List (String × Value)} (h : ∀ m ∈ members, Fits depth m.2)
    (hkeys : (members.map Prod.fst).Nodup) : Fits (depth + 1) (.object members)

def memberText (m : String × Value) : Text := quoted m.1.toList ++ ':' :: m.2.text

theorem itemTexts_eq_map (items : List Value) : itemTexts items = items.map Value.text := by
  induction items with
  | nil => rw [itemTexts, List.map_nil]
  | cons v items ih => rw [itemTexts, ih, List.map_cons]

theorem memberTexts_eq_map (members : List (String × Value)) :
    memberTexts members = members.map memberText := by
  induction members with
  | nil => rw [memberTexts, List.map_nil]
  | cons m members ih => rw [memberTexts, ih, List.map_cons, memberText]

section Writing

variable {α : Type}

/-- What is read where a text stands before something that ends it. -/
def Reads (item : Text → Option (α × Text)) (x : α) (t : Text) : Prop :=
  ∀ rest, Closes rest → item (t ++ rest) = some (x, rest)

/-- A text that begins neither with white space nor with what closes a bracket. -/
def Opens (t : Text) : Prop :=
  ∃ c rest, t = c :: rest ∧ isSpace c = false ∧ c ≠ ']' ∧ c ≠ '}'

theorem skip_cons {c : Char} (h : isSpace c = false) (t : Text) : skip (c :: t) = c :: t := by
  rw [skip, List.dropWhile_cons_of_neg (by simp [h])]

theorem commaSeparated_cons_cons (t u : Text) (us : List Text) :
    commaSeparated (t :: u :: us) = t ++ ',' :: commaSeparated (u :: us) := by
  rw [commaSeparated]
  intro h
  cases h

theorem opens_commaSeparated {t : Text} (h : Opens t) (ts : List Text) :
    Opens (commaSeparated (t :: ts)) := by
  obtain ⟨c, r, rfl, hc⟩ := h
  cases ts with
  | nil => exact ⟨c, r, rfl, hc⟩
  | cons u us => exact ⟨c, _, rfl, hc⟩

theorem length_le_commaSeparated {texts : List Text} (h : ∀ t ∈ texts, Opens t) :
    texts.length ≤ (commaSeparated texts).length := by
  induction texts with
  | nil => exact Nat.le_refl 0
  | cons t ts ih =>
    rw [List.forall_mem_cons] at h
    obtain ⟨⟨c, r, rfl, -⟩, hts⟩ := h
    have hlen := ih hts
    cases ts with
    | nil =>
      rw [commaSeparated]
      exact Nat.succ_le_succ (Nat.zero_le _)
    | cons u us =>
      rw [commaSeparated_cons_cons]
      simp only [List.length_append, List.length_cons] at hlen ⊢
      omega

theorem itemsTo_commaSeparated {close : Char} {item : Text → Option (α × Text)} {xs : List α}
    {texts : List Text} (hclose : close = ']' ∨ close = '}')
    (h : List.Forall₂ (Reads item) xs texts) (hne : xs ≠ []) (rest : Text) {fuel : Nat}
    (hfuel : xs.length ≤ fuel) :
    itemsTo close item fuel (commaSeparated texts ++ close :: rest) = some (xs, rest) := by
  have hspace : isSpace close = false := by rcases hclose with rfl | rfl <;> rfl
  induction h generalizing fuel with
  | nil => exact absurd rfl hne
  | @cons x t xs ts hx hxs ih =>
    cases fuel with
    | zero => cases hfuel
    | succ fuel =>
      cases hxs with
      | nil =>
        have hcloses : Closes (close :: rest) := Or.inr ⟨close, rest, rfl, Or.inr hclose⟩
        rw [itemsTo, commaSeparated, hx _ hcloses]
        simp only [skip_cons hspace, if_true]
      | @cons y u ys us hy hys =>
        have hcomma : (',' : Char) ≠ close := by rcases hclose with rfl | rfl <;> decide
        have hcloses : Closes (',' :: (commaSeparated (u :: us) ++ close :: rest)) :=
          Or.inr ⟨',', _, rfl, Or.inl rfl⟩
        have hread := ih (List.cons_ne_nil y ys) (Nat.le_of_succ_le_succ hfuel)
        rw [itemsTo, commaSeparated_cons_cons, List.append_assoc, List.cons_append, hx _ hcloses]
        simp only [skip_cons (by rfl : isSpace ',' = false), if_neg hcomma, if_true, hread]
        rfl

theorem bracketed_commaSeparated {close : Char} {item : Text → Option (α × Text)} {xs : List α}
    {texts : List Text} (hclose : close = ']' ∨ close = '}')
    (h : List.Forall₂ (Reads item) xs texts) (hopens : ∀ t ∈ texts, Opens t) (rest : Text) :
    bracketed close item (commaSeparated texts ++ close :: rest) = some (xs, rest) := by
  have hspace : isSpace close = false := by rcases hclose with rfl | rfl <;> rfl
  have hlen := length_le_commaSeparated hopens
  have hfuel : xs.length ≤ (commaSeparated texts ++ close :: rest).length := by
    rw [h.length_eq, List.length_append]
    omega
  have hread := fun hne => itemsTo_commaSeparated hclose h hne rest hfuel
  cases h with
  | nil =>
    rw [bracketed, commaSeparated, List.nil_append, skip_cons hspace]
    simp
  | @cons x t xs ts hx hxs =>
    obtain ⟨c, r, ht, hc, hne⟩ := opens_commaSeparated (hopens t List.mem_cons_self) ts
    have hcne : c ≠ close := by rcases hclose with rfl | rfl <;> simp [hne]
    rw [bracketed, hread (List.cons_ne_nil x xs), ht, List.cons_append, skip_cons hc]
    simp only [if_neg hcne]

end Writing

/-- What is no bracket is left to the reader of scalars at every depth. -/
theorem value_scalar {c : Char} (hspace : isSpace c = false) (harray : c ≠ '[')
    (hobject : c ≠ '\x7b') (depth : Nat) (t : Text) : value depth (c :: t) = scalar (c :: t) := by
  cases depth with
  | zero => rw [value, skip_cons hspace]
  | succ depth =>
    rw [value, skip_cons hspace]
    split
    case h_1 h => exact absurd (List.cons.inj h).1 harray
    case h_2 h => exact absurd (List.cons.inj h).1 hobject
    case h_3 => rfl

theorem scalar_digit {c : Char} (hc : c.isDigit) (t : Text) :
    scalar (c :: t) = (number false (c :: t)).map fun (n, rest) => (.number n, rest) := by
  have hb := Decimal.bounds_of_isDigit hc
  unfold scalar
  split
  case h_6 => rfl
  all_goals
    rename_i h
    obtain ⟨rfl, -⟩ := List.cons.inj h
    exact absurd hb (by decide)

/-- The text of an integer begins with a sign or a digit. -/
theorem Number.IsWord.text_eq_cons {n : Number} (h : n.IsWord) :
    ∃ c t, n.text = c :: t ∧ (c = '-' ∨ c.isDigit) := by
  cases n with
  | natural n =>
    obtain ⟨c, ds, hds⟩ := List.exists_cons_of_ne_nil (Decimal.ofNat_ne_nil n)
    exact ⟨c, ds, hds, Or.inr (Decimal.isDigit_of_mem_ofNat (hds ▸ List.mem_cons_self))⟩
  | negative n => exact ⟨'-', Decimal.ofNat n, rfl, Or.inl rfl⟩
  | real x => cases h

theorem ne_of_isDigit {c d : Char} (hc : c = '-' ∨ c.isDigit) (hd : d ≠ '-')
    (hd' : d.isDigit = false) : c ≠ d := by
  rintro rfl
  rcases hc with rfl | hc
  · exact hd rfl
  · rw [hd'] at hc
    cases hc

theorem isSpace_of_isDigit {c : Char} (hc : c = '-' ∨ c.isDigit) : isSpace c = false := by
  have h (d : Char) (hd : d ≠ '-') (hd' : d.isDigit = false) : c ≠ d := ne_of_isDigit hc hd hd'
  simp [isSpace, h ' ' (by decide) (by decide), h '\n' (by decide) (by decide),
    h '\t' (by decide) (by decide), h '\r' (by decide) (by decide)]

theorem scalar_number {n : Number} (h : n.IsWord) {rest : Text} (hrest : Closes rest) :
    scalar (n.text ++ rest) = some (.number n, rest) := by
  cases n with
  | natural n =>
    obtain ⟨c, ds, hds⟩ := List.exists_cons_of_ne_nil (Decimal.ofNat_ne_nil n)
    have hc : c.isDigit := Decimal.isDigit_of_mem_ofNat (hds ▸ List.mem_cons_self)
    have hnumber := number_ofNat false h hrest
    rw [hds, List.cons_append] at hnumber
    rw [Number.text, hds, List.cons_append, scalar_digit hc, hnumber]
    rfl
  | negative n =>
    have hlt : n < wordLimit := Nat.lt_of_le_of_lt h.2 (by decide)
    have hinteger : integer true n = .negative n := if_pos h
    rw [Number.text, List.cons_append, scalar, number_ofNat true hlt hrest, hinteger]
    rfl
  | real x => cases h

theorem scalar_quoted (t rest : Text) :
    scalar (quoted t ++ rest) = some (.string (.ofList t), rest) := by
  rw [quoted, List.cons_append, List.cons_append, List.append_assoc, scalar]
  rw [List.singleton_append, stringBody_escaped]
  rfl

theorem member_quoted {value : Text → Option (Value × Text)} {m : String × Value}
    (h : Reads value m.2 m.2.text) : Reads (member value) m (memberText m) := by
  intro rest hrest
  have hread := h rest hrest
  rw [member, memberText, quoted]
  simp only [List.cons_append, List.append_assoc, List.nil_append,
    skip_cons (by rfl : isSpace '"' = false), stringBody_escaped,
    skip_cons (by rfl : isSpace ':' = false), hread, Option.map_some, String.ofList_toList]

theorem Value.Fits.opens {depth : Nat} {v : Value} (h : v.Fits depth) : Opens v.text := by
  cases h with
  | null => exact ⟨_, _, rfl, by decide⟩
  | bool b => cases b <;> exact ⟨_, _, rfl, by decide⟩
  | @number _ n h =>
    obtain ⟨c, t, ht, hc⟩ := h.text_eq_cons
    rw [Value.text, ht]
    exact ⟨c, t, rfl, isSpace_of_isDigit hc, ne_of_isDigit hc (by decide) (by decide),
      ne_of_isDigit hc (by decide) (by decide)⟩
  | string s => exact ⟨_, _, rfl, by decide⟩
  | array h => exact ⟨_, _, rfl, by decide⟩
  | object h hkeys => exact ⟨_, _, rfl, by decide⟩

theorem opens_memberText (m : String × Value) : Opens (memberText m) := ⟨_, _, rfl, by decide⟩

/-- The text of a document is read as the document, wherever it stands. -/
theorem Value.Fits.reads {depth : Nat} {v : Value} (h : v.Fits depth) :
    Reads (value depth) v v.text := by
  intro rest hrest
  -- on how the document nests: what an array or an object holds is read one level below
  induction h generalizing rest with
  | null => exact value_scalar (by decide) (by decide) (by decide) _ _
  | bool b => cases b <;> exact value_scalar (by decide) (by decide) (by decide) _ _
  | @number depth n h =>
    obtain ⟨c, t, ht, hc⟩ := h.text_eq_cons
    have hread := scalar_number h hrest
    rw [ht] at hread
    rw [Value.text, ht]
    exact (value_scalar (isSpace_of_isDigit hc) (ne_of_isDigit hc (by decide) (by decide))
      (ne_of_isDigit hc (by decide) (by decide)) depth _).trans hread
  | string s =>
    have hread := scalar_quoted s.toList rest
    rw [String.ofList_toList] at hread
    exact (value_scalar (by decide) (by decide) (by decide) _ _).trans hread
  | @array depth items h ih =>
    have hitems : List.Forall₂ (Reads (value depth)) items (itemTexts items) := by
      rw [itemTexts_eq_map, List.forall₂_map_right_iff, List.forall₂_same]
      exact fun v hv rest hrest => ih v hv rest hrest
    have hopens : ∀ t ∈ itemTexts items, Opens t := by
      rw [itemTexts_eq_map, List.forall_mem_map]
      exact fun v hv => (h v hv).opens
    have hread := bracketed_commaSeparated (Or.inl rfl) hitems hopens rest
    rw [Value.text, value]
    simp only [List.cons_append, List.append_assoc, List.nil_append,
      skip_cons (by rfl : isSpace '[' = false), hread, Option.map_some]
  | @object depth members h hkeys ih =>
    have hmembers : List.Forall₂ (Reads (member (value depth))) members (memberTexts members) := by
      rw [memberTexts_eq_map, List.forall₂_map_right_iff, List.forall₂_same]
      exact fun m hm => member_quoted fun rest hrest => ih m hm rest hrest
    have hopens : ∀ t ∈ memberTexts members, Opens t := by
      rw [memberTexts_eq_map, List.forall_mem_map]
      exact fun m _ => opens_memberText m
    have hread := bracketed_commaSeparated (Or.inr rfl) hmembers hopens rest
    rw [Value.text, value]
    simp only [List.cons_append, List.append_assoc, List.nil_append,
      skip_cons (by rfl : isSpace '\x7b' = false), hread, Option.map_some,
      Assoc.ofList_of_nodup hkeys]

section Reading

variable {α : Type}

theorem mem_of_itemsTo {close : Char} {item : Text → Option (α × Text)} {fuel : Nat} {t rest : Text}
    {xs : List α} (h : itemsTo close item fuel t = some (xs, rest)) :
    ∀ x ∈ xs, ∃ u v, item u = some (x, v) := by
  induction fuel generalizing t rest xs with
  | zero => cases h
  | succ fuel ih =>
    rw [itemsTo] at h
    split at h
    · cases h
    · rename_i x u hitem
      split at h
      · cases h
      · split_ifs at h
        · obtain ⟨rfl, -⟩ := Prod.mk.inj (Option.some.inj h)
          intro y hy
          rw [List.mem_singleton.mp hy]
          exact ⟨t, u, hitem⟩
        · obtain ⟨⟨ys, r⟩, hread, hys⟩ := Option.map_eq_some_iff.mp h
          obtain ⟨rfl, -⟩ := Prod.mk.inj hys
          intro y hy
          rcases List.mem_cons.mp hy with rfl | hy
          · exact ⟨t, u, hitem⟩
          · exact ih hread y hy

theorem mem_of_bracketed {close : Char} {item : Text → Option (α × Text)} {t rest : Text}
    {xs : List α} (h : bracketed close item t = some (xs, rest)) :
    ∀ x ∈ xs, ∃ u v, item u = some (x, v) := by
  rw [bracketed] at h
  split at h
  · cases h
  · split_ifs at h
    · obtain ⟨rfl, -⟩ := Prod.mk.inj (Option.some.inj h)
      intro x hx
      cases hx
    · exact mem_of_itemsTo h

theorem exists_value_of_member {value : Text → Option (Value × Text)} {t rest : Text}
    {m : String × Value} (h : member value t = some (m, rest)) :
    ∃ u v, value u = some (m.2, v) := by
  rw [member] at h
  split at h
  case h_2 => cases h
  split at h
  · cases h
  split at h
  case h_2 => cases h
  obtain ⟨⟨v, r⟩, hvalue, hm⟩ := Option.map_eq_some_iff.mp h
  obtain ⟨rfl, -⟩ := Prod.mk.inj hm
  exact ⟨_, _, hvalue⟩

theorem fits_of_scalar {depth : Nat} {v : Value} {t rest : Text} (h : scalar t = some (v, rest))
    (hv : v.Integral) : v.Fits depth := by
  have hnumber {negative : Bool} {u : Text}
      (h : (number negative u).map (fun (n, rest) => (Value.number n, rest)) = some (v, rest)) :
      v.Fits depth := by
    obtain ⟨⟨n, r⟩, hread, hn⟩ := Option.map_eq_some_iff.mp h
    obtain ⟨rfl, -⟩ := Prod.mk.inj hn
    cases hv with
    | number hreal => exact .number (isWord_of_number hread hreal)
  unfold scalar at h
  split at h
  · obtain ⟨rfl, -⟩ := Prod.mk.inj (Option.some.inj h)
    exact .null
  · obtain ⟨rfl, -⟩ := Prod.mk.inj (Option.some.inj h)
    exact .bool true
  · obtain ⟨rfl, -⟩ := Prod.mk.inj (Option.some.inj h)
    exact .bool false
  · obtain ⟨⟨s, r⟩, -, hs⟩ := Option.map_eq_some_iff.mp h
    obtain ⟨rfl, -⟩ := Prod.mk.inj hs
    exact .string _
  · exact hnumber h
  · exact hnumber h

/-- What the reader gives nests no deeper than it was allowed to and repeats no key. -/
theorem fits_of_value {depth : Nat} {v : Value} {t rest : Text}
    (h : value depth t = some (v, rest)) (hv : v.Integral) : v.Fits depth := by
  induction depth generalizing v t rest with
  | zero => exact fits_of_scalar h hv
  | succ depth ih =>
    rw [value] at h
    split at h
    · obtain ⟨⟨items, r⟩, hread, hitems⟩ := Option.map_eq_some_iff.mp h
      obtain ⟨rfl, -⟩ := Prod.mk.inj hitems
      cases hv with
      | array hintegral =>
        refine .array fun x hx => ?_
        obtain ⟨u, w, hx'⟩ := mem_of_bracketed hread x hx
        exact ih hx' (hintegral x hx)
    · obtain ⟨⟨members, r⟩, hread, hmembers⟩ := Option.map_eq_some_iff.mp h
      obtain ⟨rfl, -⟩ := Prod.mk.inj hmembers
      cases hv with
      | object hintegral =>
        refine .object (fun m hm => ?_) (Assoc.nodup_ofList members)
        obtain ⟨u, w, hm'⟩ := mem_of_bracketed hread m (Assoc.mem_ofList hm)
        obtain ⟨u, w, hvalue⟩ := exists_value_of_member hm'
        exact ih hvalue (hintegral m hm)
    · exact fits_of_scalar h hv

end Reading

theorem Value.Fits.read?_text {v : Value} (h : v.Fits maxDepth) : read? v.text = some v := by
  have hread := h.reads [] (Or.inl rfl)
  rw [List.append_nil] at hread
  rw [read?, hread]
  rfl

theorem fits_of_read? {v : Value} {t : Text} (h : read? t = some v) (hv : v.Integral) :
    v.Fits maxDepth := by
  rw [read?] at h
  split at h
  · rename_i w rest hvalue
    split_ifs at h
    obtain rfl := Option.some.inj h
    exact fits_of_value hvalue hv
  · cases h

theorem readable_of_truthy {v : Value} {t : Text} (h : read? t = some v) (ht : v.isTruthy) :
    readable t = v.text := by
  have htruthy : truthy? t = some v := by
    rw [truthy?, h]
    exact Option.filter_some_pos ht
  rw [readable, htruthy]

/-- A truthy document of integers is readable as itself. -/
theorem read?_readable {v : Value} {t : Text} (h : read? t = some v) (ht : v.isTruthy)
    (hv : v.Integral) : read? (readable t) = some v := by
  rw [readable_of_truthy h ht]
  exact (fits_of_read? h hv).read?_text

theorem Number.IsWord.le_of_mem_text {n : Number} (h : n.IsWord) {c : Char} (hc : c ∈ n.text) :
    0x20 ≤ c.toNat := by
  have hdigit {k : Nat} (hc : c ∈ Decimal.ofNat k) : 0x20 ≤ c.toNat := by
    have hb := Decimal.bounds_of_isDigit (Decimal.isDigit_of_mem_ofNat hc)
    omega
  cases n with
  | natural n => exact hdigit hc
  | negative n =>
    rcases List.mem_cons.mp hc with rfl | hc
    · decide
    · exact hdigit hc
  | real x => cases h

theorem le_of_mem_commaSeparated {texts : List Text}
    (h : ∀ t ∈ texts, ∀ c ∈ t, 0x20 ≤ c.toNat) {c : Char} (hc : c ∈ commaSeparated texts) :
    0x20 ≤ c.toNat := by
  induction texts with
  | nil => cases hc
  | cons t ts ih =>
    rw [List.forall_mem_cons] at h
    cases ts with
    | nil => exact h.1 c hc
    | cons u us =>
      rw [commaSeparated_cons_cons, List.mem_append, List.mem_cons] at hc
      rcases hc with hc | rfl | hc
      · exact h.1 c hc
      · decide
      · exact ih h.2 hc

/-- The text of a document has no control character. -/
theorem Value.Fits.le_of_mem_text {depth : Nat} {v : Value} (h : v.Fits depth) :
    ∀ c ∈ v.text, 0x20 ≤ c.toNat := by
  induction h with
  | null => simp [Value.text]
  | bool b => cases b <;> simp [Value.text]
  | number h => exact fun c hc => h.le_of_mem_text hc
  | string s => exact fun c hc => le_of_mem_quoted hc
  | array h ih =>
    intro c hc
    simp only [Value.text, itemTexts_eq_map, List.cons_append, List.mem_cons, List.mem_append,
      List.not_mem_nil, or_false] at hc
    rcases hc with rfl | hc | rfl
    · decide
    · exact le_of_mem_commaSeparated (List.forall_mem_map.mpr ih) hc
    · decide
  | object h hkeys ih =>
    intro c hc
    simp only [Value.text, memberTexts_eq_map, List.cons_append, List.mem_cons, List.mem_append,
      List.not_mem_nil, or_false] at hc
    rcases hc with rfl | hc | rfl
    · decide
    · refine le_of_mem_commaSeparated (List.forall_mem_map.mpr fun m hm d hd => ?_) hc
      rw [memberText, List.mem_append, List.mem_cons] at hd
      rcases hd with hd | rfl | hd
      · exact le_of_mem_quoted hd
      · decide
      · exact ih m hm d hd
    · decide

end HttpJournal.Json
