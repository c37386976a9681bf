import HttpJournal.Record
import Mathlib.Data.List.Infix
import Mathlib.Tactic.ByContra

namespace HttpJournal

/-- In a part and the separator after it, no separator begins before the end of the part. -/
def ClosedBy (sep part : Bytes) : Prop :=
  ∀ u v, part ++ sep = u ++ sep ++ v → part.length ≤ u.length

def Separated (sep : Bytes) : List Bytes → Prop
  | [] => False
  | [last] => ¬sep <:+: last
  | part :: parts => ClosedBy sep part ∧ Separated sep parts

theorem closedBy_nil (sep : Bytes) : ClosedBy sep [] := fun _ _ _ => Nat.zero_le _

theorem closedBy_cons {sep part : Bytes} {b : UInt8} :
    ClosedBy sep (b :: part) ↔ ¬sep <+: b :: (part ++ sep) ∧ ClosedBy sep part := by
  constructor
  · intro h
    constructor
    · rintro ⟨v, hv⟩
      exact absurd (h [] v hv.symm) (Nat.not_succ_le_zero _)
    · intro u v huv
      have := h (b :: u) v (congrArg (b :: ·) huv)
      exact Nat.le_of_succ_le_succ this
  · rintro ⟨hb, h⟩ u v huv
    cases u with
    | nil => exact absurd ⟨v, huv.symm⟩ hb
    | cons a u =>
      have huv' : part ++ sep = u ++ sep ++ v := (List.cons.inj huv).2
      exact Nat.succ_le_succ (h u v huv')

/-- An occurrence of the separator begins no earlier than the one after a closed part. -/
theorem ClosedBy.length_le {sep part u rest : Bytes} (h : ClosedBy sep part)
    (hu : u ++ sep <+: part ++ (sep ++ rest)) : part.length ≤ u.length := by
  by_contra! hlt
  have hpart : part ++ sep <+: part ++ (sep ++ rest) := ⟨rest, List.append_assoc _ _ _⟩
  obtain ⟨v, hv⟩ := List.prefix_of_prefix_length_le hu hpart
    (by simp only [List.length_append]; omega)
  exact absurd (h u v hv.symm) (by omega)

theorem Separated.ne_nil {sep : Bytes} {parts : List Bytes} (h : Separated sep parts) :
    parts ≠ [] := by
  rintro rfl
  exact h

theorem separated_cons {sep part : Bytes} {parts : List Bytes} (hne : parts ≠ []) :
    Separated sep (part :: parts) ↔ ClosedBy sep part ∧ Separated sep parts := by
  cases parts with
  | nil => exact absurd rfl hne
  | cons p ps => exact Iff.rfl

theorem splitFrom_eq_drop (sep : Bytes) (skip : Nat) (bs : Bytes) :
    splitFrom sep skip bs = splitFrom sep 0 (bs.drop skip) := by
  induction bs generalizing skip with
  | nil => cases skip <;> rfl
  | cons b rest ih =>
    cases skip with
    | zero => rfl
    | succ skip => exact ih skip

theorem splitFrom_sep_append {sep : Bytes} (hsep : sep ≠ []) (rest : Bytes) :
    splitFrom sep 0 (sep ++ rest) = [] :: splitFrom sep 0 rest := by
  cases sep with
  | nil => exact absurd rfl hsep
  | cons b sep =>
    have h : (b :: sep).isPrefixOf (b :: (sep ++ rest)) :=
      List.isPrefixOf_iff_prefix.mpr ⟨rest, rfl⟩
    rw [List.cons_append, splitFrom, if_pos h, splitFrom_eq_drop]
    simp

theorem splitFrom_cons_of_ne {sep rest : Bytes} {b : UInt8} (h : ¬sep <+: b :: rest) :
    splitFrom sep 0 (b :: rest) = consPart b (splitFrom sep 0 rest) := by
  rw [splitFrom, if_neg (mt List.isPrefixOf_iff_prefix.mp h)]

theorem consPart_ne_nil (b : UInt8) (parts : List Bytes) : consPart b parts ≠ [] := by
  cases parts <;> exact List.cons_ne_nil _ _

theorem splitFrom_ne_nil (sep : Bytes) (skip : Nat) (bs : Bytes) : splitFrom sep skip bs ≠ [] := by
  fun_induction splitFrom sep skip bs with
  | case1 => exact List.cons_ne_nil _ _
  | case2 skip b rest ih => exact ih
  | case3 => exact List.cons_ne_nil _ _
  | case4 => exact consPart_ne_nil _ _

theorem intercalate_consPart (sep : Bytes) (b : UInt8) (parts : List Bytes) :
    sep.intercalate (consPart b parts) = b :: sep.intercalate parts := by
  cases parts with
  | nil => rfl
  | cons p ps => exact List.intercalate_cons_cons_left

theorem intercalate_splitFrom {sep : Bytes} (hsep : sep ≠ []) (skip : Nat) (bs : Bytes) :
    sep.intercalate (splitFrom sep skip bs) = bs.drop skip := by
  fun_induction splitFrom sep skip bs with
  | case1 skip => simp
  | case2 skip b rest ih => exact ih
  | case3 b rest hp ih =>
    obtain ⟨tail, htail⟩ := List.isPrefixOf_iff_prefix.mp hp
    rw [List.intercalate_cons_of_ne_nil (splitFrom_ne_nil _ _ _), ih, List.nil_append, ← htail]
    have hdrop : rest.drop (sep.length - 1) = tail := by
      have := congrArg (List.drop sep.length) htail
      rw [List.drop_left] at this
      rw [this]
      cases sep with
      | nil => exact absurd rfl hsep
      | cons a sep => rfl
    rw [hdrop]
    rfl
  | case4 b rest hp ih =>
    rw [intercalate_consPart, ih]
    rfl

theorem separated_consPart {sep : Bytes} {b : UInt8} {parts : List Bytes}
    (h : Separated sep parts) (hb : ¬sep <+: b :: sep.intercalate parts) :
    Separated sep (consPart b parts) := by
  match parts, h with
  | [last], h =>
    show ¬sep <:+: b :: last
    rw [List.infix_cons_iff, not_or]
    exact ⟨by simpa using hb, h⟩
  | part :: p :: ps, h =>
    refine ⟨closedBy_cons.mpr ⟨?_, h.1⟩, h.2⟩
    intro hp
    apply hb
    rw [List.intercalate_cons_cons]
    exact hp.trans ⟨sep.intercalate (p :: ps), by simp⟩

theorem separated_splitFrom {sep : Bytes} (hsep : sep ≠ []) (skip : Nat) (bs : Bytes) :
    Separated sep (splitFrom sep skip bs) := by
  fun_induction splitFrom sep skip bs with
  | case1 skip =>
    intro h
    exact hsep (List.infix_nil.mp h)
  | case2 skip b rest ih => exact ih
  | case3 b rest hp ih => exact (separated_cons (splitFrom_ne_nil _ _ _)).mpr ⟨closedBy_nil sep, ih⟩
  | case4 b rest hp ih =>
    apply separated_consPart ih
    rw [intercalate_splitFrom hsep]
    exact mt List.isPrefixOf_iff_prefix.mpr hp

theorem splitFrom_of_closedBy {sep part : Bytes} (hsep : sep ≠ []) (h : ClosedBy sep part)
    (rest : Bytes) : splitFrom sep 0 (part ++ sep ++ rest) = part :: splitFrom sep 0 rest := by
  induction part with
  | nil => exact splitFrom_sep_append hsep rest
  | cons b part ih =>
    obtain ⟨hb, hpart⟩ := closedBy_cons.mp h
    -- where the separator began here it would end within the one after the part
    have hnp : ¬sep <+: b :: (part ++ sep ++ rest) := by
      intro hp
      apply hb
      refine List.prefix_of_prefix_length_le hp ⟨rest, by simp⟩ ?_
      simp only [List.length_cons, List.length_append]
      omega
    rw [List.cons_append, List.cons_append, splitFrom_cons_of_ne hnp, ih hpart]
    rfl

theorem splitFrom_of_free {sep last : Bytes} (h : ¬sep <:+: last) :
    splitFrom sep 0 last = [last] := by
  induction last with
  | nil => rfl
  | cons b last ih =>
    rw [List.infix_cons_iff, not_or] at h
    rw [splitFrom_cons_of_ne h.1, ih h.2]
    rfl

theorem splitOn_eq_splitFrom {sep : Bytes} (hsep : sep ≠ []) (bs : Bytes) :
    splitOn sep bs = splitFrom sep 0 bs := by
  rw [splitOn, if_neg]
  rwa [List.isEmpty_iff]

theorem splitOn_of_closedBy {sep part : Bytes} (hsep : sep ≠ []) (h : ClosedBy sep part)
    (rest : Bytes) : splitOn sep (part ++ sep ++ rest) = part :: splitOn sep rest := by
  rw [splitOn_eq_splitFrom hsep, splitOn_eq_splitFrom hsep, splitFrom_of_closedBy hsep h]

theorem intercalate_splitOn {sep : Bytes} (hsep : sep ≠ []) (bs : Bytes) :
    sep.intercalate (splitOn sep bs) = bs := by
  rw [splitOn_eq_splitFrom hsep, intercalate_splitFrom hsep, List.drop_zero]

theorem separated_splitOn {sep : Bytes} (hsep : sep ≠ []) (bs : Bytes) :
    Separated sep (splitOn sep bs) := by
  rw [splitOn_eq_splitFrom hsep]
  exact separated_splitFrom hsep 0 bs

theorem splitOn_intercalate {sep : Bytes} (hsep : sep ≠ []) {parts : List Bytes}
    (h : Separated sep parts) : splitOn sep (sep.intercalate parts) = parts := by
  rw [splitOn_eq_splitFrom hsep]
  induction parts with
  | nil => exact absurd rfl h.ne_nil
  | cons part parts ih =>
    cases parts with
    | nil =>
      rw [List.intercalate_singleton]
      exact splitFrom_of_free h
    | cons p ps =>
      rw [List.intercalate_cons_cons, splitFrom_of_closedBy hsep h.1, ih h.2]

theorem ClosedBy.free {sep part : Bytes} (hsep : sep ≠ []) (h : ClosedBy sep part) :
    ¬sep <:+: part := by
  rintro ⟨u, v, rfl⟩
  have hlen := h u (v ++ sep) (by simp)
  have hpos := List.length_pos_iff.mpr hsep
  simp only [List.length_append] at hlen
  omega

end HttpJournal
