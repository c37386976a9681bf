import HttpJournal.Proofs.Delimiter

namespace HttpJournal

structure IsFirstAt (sep bs : Bytes) (n : Nat) : Prop where
  found : sep <+: bs.drop n
  first : ∀ k < n, ¬sep <+: bs.drop k

/-- Parts of octets: the last has no separator, and in each of the others with the separator after
it the first separator is this one. -/
structure IsSplit (sep bs : Bytes) (parts : List Bytes) : Prop where
  ne_nil : parts ≠ []
  joined : sep.intercalate parts = bs
  last : ¬sep <:+: parts.getLast ne_nil
  closed : ∀ part ∈ parts.dropLast, IsFirstAt sep (part ++ sep) part.length

theorem closedBy_iff_isFirstAt {sep part : Bytes} :
    ClosedBy sep part ↔ IsFirstAt sep (part ++ sep) part.length := by
  constructor
  · intro h
    refine ⟨by rw [List.drop_left], ?_⟩
    rintro k hk ⟨v, hv⟩
    have hlen := h ((part ++ sep).take k) v (by
      rw [List.append_assoc, hv, List.take_append_drop])
    have hle := List.length_take_le k (part ++ sep)
    omega
  · intro h u v huv
    by_contra! hlt
    exact h.first u.length hlt ⟨v, by rw [huv, List.append_assoc, List.drop_left]⟩

theorem separated_iff_closedBy {sep : Bytes} {parts : List Bytes} (hne : parts ≠ []) :
    Separated sep parts ↔
      ¬sep <:+: parts.getLast hne ∧ ∀ part ∈ parts.dropLast, ClosedBy sep part := by
  induction parts with
  | nil => exact absurd rfl hne
  | cons part parts ih =>
    cases parts with
    | nil => simp [Separated]
    | cons p ps =>
      rw [separated_cons (List.cons_ne_nil p ps), ih (List.cons_ne_nil p ps),
        List.getLast_cons_cons, List.dropLast_cons_cons, List.forall_mem_cons]
      exact and_left_comm

theorem isSplit_iff_separated {sep bs : Bytes} {parts : List Bytes} :
    IsSplit sep bs parts ↔ sep.intercalate parts = bs ∧ Separated sep parts := by
  constructor
  · intro h
    refine ⟨h.joined, (separated_iff_closedBy h.ne_nil).mpr ⟨h.last, fun part hpart => ?_⟩⟩
    exact closedBy_iff_isFirstAt.mpr (h.closed part hpart)
  · rintro ⟨hjoined, hsep⟩
    obtain ⟨hlast, hclosed⟩ := (separated_iff_closedBy hsep.ne_nil).mp hsep
    exact ⟨hsep.ne_nil, hjoined, hlast, fun part hpart =>
      closedBy_iff_isFirstAt.mp (hclosed part hpart)⟩

/-- Octets have one split. -/
theorem isSplit_iff {sep bs : Bytes} (hsep : sep ≠ []) {parts : List Bytes} :
    IsSplit sep bs parts ↔ parts = splitOn sep bs := by
  rw [isSplit_iff_separated]
  constructor
  · rintro ⟨rfl, h⟩
    exact (splitOn_intercalate hsep h).symm
  · rintro rfl
    exact ⟨intercalate_splitOn hsep bs, separated_splitOn hsep bs⟩

def between (bs : Bytes) (i j : Nat) : Bytes := (bs.drop i).take (j - i)

/-- The same where the positions are in order and within the octets; elsewhere there is nothing to
be read. -/
def between? (bs : Bytes) (i j : Nat) : Option Bytes :=
  if i ≤ j ∧ j ≤ bs.length then some (between bs i j) else none

/-- A split under way: the parts so far, where the next one begins, and where the separator is
looked for. -/
structure Cursor where
  parts : List Bytes
  start : Nat
  pos : Nat

namespace Cursor

inductive Outcome where
  | moved (c : Cursor)
  | ended (parts : List Bytes)

/-- One step, unless it would have to read outside the octets. -/
def step (sep bs : Bytes) (c : Cursor) : Option Outcome :=
  if c.pos + sep.length ≤ bs.length then do
    let window ← between? bs c.pos (c.pos + sep.length)
    if window = sep then
      let part ← between? bs c.start c.pos
      return .moved ⟨c.parts ++ [part], c.pos + sep.length, c.pos + sep.length⟩
    else return .moved { c with pos := c.pos + 1 }
  else do
    let last ← between? bs c.start bs.length
    return .ended (c.parts ++ [last])

def run (sep bs : Bytes) : Nat → Cursor → Option Outcome
  | 0, c => some (.moved c)
  | n + 1, c =>
    match c.step sep bs with
    | some (.moved c) => run sep bs n c
    | outcome => outcome

def initial : Cursor := ⟨[], 0, 0⟩

variable {sep bs : Bytes} {c : Cursor}

/-- Octets put in front of the first part. -/
theorem foldr_consPart (u part : Bytes) (parts : List Bytes) :
    u.foldr consPart (part :: parts) = (u ++ part) :: parts := by
  induction u with
  | nil => rfl
  | cons b u ih =>
    rw [List.foldr_cons, ih]
    rfl

theorem between_self (bs : Bytes) (i : Nat) : between bs i i = [] := by
  rw [between, Nat.sub_self, List.take_zero]

theorem between_append_drop {i j : Nat} (h : i ≤ j) (bs : Bytes) :
    between bs i j ++ bs.drop j = bs.drop i := by
  rw [between, show bs.drop j = (bs.drop i).drop (j - i) by
    rw [List.drop_drop, Nat.add_sub_cancel' h], List.take_append_drop]

theorem between_succ {i j : Nat} {b : UInt8} (h : i ≤ j) (hb : bs[j]? = some b) :
    between bs i (j + 1) = between bs i j ++ [b] := by
  have hget : (bs.drop i)[j - i]? = some b := by
    rw [List.getElem?_drop, Nat.add_sub_cancel' h, hb]
  rw [between, between, Nat.succ_sub h, List.take_add_one, hget]
  rfl

/-- The cursor is within the octets, and its parts with those of what is left make up the split. -/
structure Sound (sep bs : Bytes) (c : Cursor) : Prop where
  start_le : c.start ≤ c.pos
  pos_le : c.pos ≤ bs.length
  split : splitFrom sep 0 bs =
    c.parts ++ (between bs c.start c.pos).foldr consPart (splitFrom sep 0 (bs.drop c.pos))

theorem sound_initial (sep bs : Bytes) : initial.Sound sep bs where
  start_le := Nat.le_refl 0
  pos_le := Nat.zero_le _
  split := by rw [initial, between_self]; rfl

theorem Sound.between?_start (h : c.Sound sep bs) :
    between? bs c.start c.pos = some (between bs c.start c.pos) :=
  if_pos ⟨h.start_le, h.pos_le⟩

/-- Where the separator is found, it closes a part. -/
theorem Sound.hit (hsep : sep ≠ []) (h : c.Sound sep bs)
    (hle : c.pos + sep.length ≤ bs.length)
    (hfound : between bs c.pos (c.pos + sep.length) = sep) :
    Sound sep bs ⟨c.parts ++ [between bs c.start c.pos], c.pos + sep.length,
      c.pos + sep.length⟩ where
  start_le := Nat.le_refl _
  pos_le := hle
  split := by
    have hdrop := between_append_drop (Nat.le_add_right c.pos sep.length) bs
    rw [hfound] at hdrop
    rw [h.split, ← hdrop, splitFrom_sep_append hsep, foldr_consPart, List.append_nil,
      between_self, List.append_assoc]
    rfl

/-- Where it is not, the part goes on for one more octet. -/
theorem Sound.miss (hsep : sep ≠ []) (h : c.Sound sep bs)
    (hle : c.pos + sep.length ≤ bs.length)
    (hfound : between bs c.pos (c.pos + sep.length) ≠ sep) :
    Sound sep bs { c with pos := c.pos + 1 } := by
  have hpos := List.length_pos_iff.mpr hsep
  have hlt : c.pos < bs.length := by omega
  have hdrop := List.drop_eq_getElem_cons hlt
  have hnot : ¬sep <+: bs.drop c.pos := by
    rintro ⟨v, hv⟩
    rw [between, ← hv, Nat.add_sub_cancel_left, List.take_left] at hfound
    exact hfound rfl
  refine ⟨Nat.le_succ_of_le h.start_le, hlt, ?_⟩
  rw [hdrop] at hnot
  rw [h.split, hdrop, splitFrom_cons_of_ne hnot,
    between_succ h.start_le (List.getElem?_eq_getElem hlt), List.foldr_append]
  rfl

/-- Where too few octets are left for a separator, they end the last part. -/
theorem Sound.last (h : c.Sound sep bs) (hlt : bs.length < c.pos + sep.length) :
    c.parts ++ [between bs c.start bs.length] = splitFrom sep 0 bs := by
  have hfree : ¬sep <:+: bs.drop c.pos := by
    intro hinfix
    have hlen := hinfix.length_le
    rw [List.length_drop] at hlen
    have hle := h.pos_le
    omega
  have hend : between bs c.start bs.length = bs.drop c.start := by
    have hjoin := between_append_drop (h.start_le.trans h.pos_le) bs
    rwa [List.drop_length, List.append_nil] at hjoin
  rw [h.split, splitFrom_of_free hfree, foldr_consPart, between_append_drop h.start_le, hend]

/-- A step moves the cursor on, or ends with the split; it does not read outside the octets. -/
theorem Sound.step (hsep : sep ≠ []) (h : c.Sound sep bs) :
    (∃ c', c.step sep bs = some (.moved c') ∧ c'.Sound sep bs ∧ c.pos < c'.pos) ∨
      c.step sep bs = some (.ended (splitFrom sep 0 bs)) := by
  rcases Nat.lt_or_ge bs.length (c.pos + sep.length) with hlt | hle
  · have hread : between? bs c.start bs.length = some (between bs c.start bs.length) :=
      if_pos ⟨h.start_le.trans h.pos_le, Nat.le_refl _⟩
    right
    rw [Cursor.step, if_neg (Nat.not_le.mpr hlt), hread, ← h.last hlt]
    rfl
  · have hread : between? bs c.pos (c.pos + sep.length) =
        some (between bs c.pos (c.pos + sep.length)) :=
      if_pos ⟨Nat.le_add_right _ _, hle⟩
    have hpos := List.length_pos_iff.mpr hsep
    left
    rw [Cursor.step, if_pos hle, hread, Option.bind_eq_bind, Option.bind_some]
    by_cases hfound : between bs c.pos (c.pos + sep.length) = sep
    · refine ⟨_, ?_, h.hit hsep hle hfound, Nat.lt_add_of_pos_right hpos⟩
      rw [if_pos hfound, h.between?_start]
      rfl
    · refine ⟨_, ?_, h.miss hsep hle hfound, Nat.lt_succ_self _⟩
      rw [if_neg hfound]
      rfl

/-- With each step the cursor comes nearer to the end of the octets. -/
theorem Sound.run (hsep : sep ≠ []) (h : c.Sound sep bs) {n : Nat} (hn : bs.length < c.pos + n) :
    run sep bs n c = some (.ended (splitFrom sep 0 bs)) := by
  induction n generalizing c with
  | zero =>
    have hle := h.pos_le
    omega
  | succ n ih =>
    rw [Cursor.run]
    rcases h.step hsep with ⟨c', hstep, hsound, hlt⟩ | hstep
    · rw [hstep]
      exact ih hsound (by omega)
    · rw [hstep]

end Cursor

/-- Octets have one split at a separator, the one that `splitOn` finds. A cursor over positions
comes to it too, and takes no more steps than there are positions; all that it reads is within the
octets, however long the separator is and however it overlaps itself. -/
theorem splitOn_only_split {sep : Bytes} (hsep : sep ≠ []) (bs : Bytes) :
    (∀ parts, IsSplit sep bs parts ↔ parts = splitOn sep bs) ∧
      ∀ n, bs.length < n → Cursor.initial.run sep bs n = some (.ended (splitOn sep bs)) := by
  constructor
  · intro parts
    exact isSplit_iff hsep
  · intro n hn
    rw [splitOn_eq_splitFrom hsep]
    exact (Cursor.sound_initial sep bs).run hsep (by rwa [Cursor.initial, Nat.zero_add])

/-- Where a part ends with what the delimiter repeats, the delimiter is found too early. -/
theorem splitOn_only_split_overlapping :
    let bs := Utf8.bytes "a-0" ++ Delimiter.octets ++ Utf8.bytes "b"
    Delimiter.octets ≠ [] ∧
      IsSplit Delimiter.octets bs [Utf8.bytes "a", Utf8.bytes "0-b"] ∧
      Cursor.initial.run Delimiter.octets bs 24 =
        some (.ended [Utf8.bytes "a", Utf8.bytes "0-b"]) := by
  intro bs
  obtain ⟨honly, hrun⟩ := splitOn_only_split Delimiter.octets_ne_nil bs
  have hparts : [Utf8.bytes "a", Utf8.bytes "0-b"] = splitOn Delimiter.octets bs := by decide
  refine ⟨Delimiter.octets_ne_nil, (honly _).mpr hparts, ?_⟩
  rw [hparts]
  exact hrun 24 (by decide)

end HttpJournal
