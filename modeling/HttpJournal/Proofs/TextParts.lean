import HttpJournal.Text.Blank
import HttpJournal.Proofs.List

namespace HttpJournal.Text

section Cut

variable {sep c : Char} {t u v part : Text}

theorem splitOnChar_eq_splitOn (sep : Char) (t : Text) : splitOnChar sep t = t.splitOn sep := by
  induction t with
  | nil => rfl
  | cons c t ih =>
    obtain ⟨part, parts, hparts⟩ := List.exists_cons_of_ne_nil (List.splitOn_ne_nil sep t)
    rw [splitOnChar, ih, List.splitOn_cons_eq_if_modifyHead, hparts]
    simp only [beq_iff_eq, List.modifyHead_cons]

theorem splitOnChar_of_not_mem (h : sep ∉ t) : splitOnChar sep t = [t] := by
  rw [splitOnChar_eq_splitOn, List.splitOn_eq_singleton h]

theorem splitOnChar_append_cons (sep : Char) (u v : Text) :
    splitOnChar sep (u ++ sep :: v) = splitOnChar sep u ++ splitOnChar sep v := by
  simp only [splitOnChar_eq_splitOn, List.splitOn_append_cons_self]

theorem mem_of_mem_splitOnChar (hpart : part ∈ splitOnChar sep t) (hc : c ∈ part) :
    c ∈ t ∧ c ≠ sep := by
  induction t generalizing part with
  | nil =>
    obtain rfl := List.mem_singleton.mp hpart
    cases hc
  | cons a t ih =>
    rw [splitOnChar] at hpart
    split_ifs at hpart with ha
    · rcases List.mem_cons.mp hpart with rfl | hpart
      · cases hc
      · exact (ih hpart hc).imp_left (List.mem_cons_of_mem a)
    split at hpart
    · next first parts hparts =>
      rw [hparts] at ih
      rcases List.mem_cons.mp hpart with rfl | hpart
      · rcases List.mem_cons.mp hc with rfl | hc
        · exact ⟨List.mem_cons_self, ha⟩
        · exact (ih List.mem_cons_self hc).imp_left (List.mem_cons_of_mem a)
      · exact (ih (List.mem_cons_of_mem _ hpart) hc).imp_left (List.mem_cons_of_mem a)
    · obtain rfl := List.mem_singleton.mp hpart
      obtain rfl := List.mem_singleton.mp hc
      exact ⟨List.mem_cons_self, ha⟩

/-- The first part runs to the first separator, and a separator stands before each of the others. -/
theorem exists_splitOnChar (sep : Char) (t : Text) :
    ∃ first others, splitOnChar sep t = first :: others ∧ first <+: t ∧
      ∀ part ∈ others, sep :: part <:+: t := by
  induction t with
  | nil => exact ⟨[], [], rfl, List.prefix_rfl, List.forall_mem_nil _⟩
  | cons a t ih =>
    obtain ⟨first, others, hparts, hfirst, hothers⟩ := ih
    have hothers' : ∀ part ∈ others, sep :: part <:+: a :: t :=
      fun part hpart => List.infix_cons (hothers part hpart)
    by_cases ha : a = sep
    · refine ⟨[], first :: others, by rw [splitOnChar, if_pos ha, hparts], List.nil_prefix, ?_⟩
      rw [List.forall_mem_cons, ha]
      exact ⟨(List.cons_prefix_cons.mpr ⟨rfl, hfirst⟩).isInfix, ha ▸ hothers'⟩
    · exact ⟨a :: first, others, by rw [splitOnChar, if_neg ha, hparts],
        List.cons_prefix_cons.mpr ⟨rfl, hfirst⟩, hothers'⟩

theorem exists_splitOnChar_append (h : sep ∉ u) (v : Text) :
    ∃ first others, splitOnChar sep (u ++ v) = (u ++ first) :: others ∧ first <+: v ∧
      ∀ part ∈ others, sep :: part <:+: v := by
  induction u with
  | nil => exact exists_splitOnChar sep v
  | cons a u ih =>
    rw [List.mem_cons, not_or] at h
    obtain ⟨first, others, hparts, hrest⟩ := ih h.2
    refine ⟨first, others, ?_, hrest⟩
    rw [List.cons_append, splitOnChar, if_neg (Ne.symm h.1), hparts]
    rfl

theorem cutAt_append_cons (h : sep ∉ u) (v : Text) : cutAt sep (u ++ sep :: v) = some (u, v) := by
  have hu : ∀ c ∈ u, decide (c ≠ sep) = true := fun c hc => by
    simpa using ne_of_mem_of_not_mem hc h
  rw [cutAt, dropWhile_stop hu (by simp), takeWhile_stop hu (by simp)]

theorem eq_of_cutAt (h : cutAt sep t = some (u, v)) : t = u ++ sep :: v := by
  unfold cutAt at h
  split at h
  · cases h
  · next c rest hdrop =>
    obtain rfl := head_dropWhile_ne hdrop
    cases h
    rw [← hdrop, List.takeWhile_append_dropWhile]

end Cut

section Strip

variable {p : Char → Bool} {t u v : Text}

theorem dropTrailing_append (hv : ∀ c ∈ v, p c) (ht : ∀ c ∈ t.getLast?, p c = false) :
    dropTrailing p (t ++ v) = t := by
  rw [dropTrailing, List.reverse_append,
    List.dropWhile_append_of_pos fun c hc => hv c (List.mem_reverse.mp hc)]
  rw [← List.head?_reverse] at ht
  cases hreverse : t.reverse with
  | nil => rw [List.reverse_eq_nil_iff.mp hreverse]; rfl
  | cons c r =>
    rw [hreverse] at ht
    rw [List.dropWhile_cons_of_neg (by simp [ht c rfl]), ← hreverse, List.reverse_reverse]

/-- What stands around a text is taken off, up to its own first and last character. -/
theorem strip_append (hu : ∀ c ∈ u, p c) (hv : ∀ c ∈ v, p c) (hne : t ≠ [])
    (hhead : ∀ c ∈ t.head?, p c = false) (hlast : ∀ c ∈ t.getLast?, p c = false) :
    strip p (u ++ t ++ v) = t := by
  obtain ⟨c, t, rfl⟩ := List.exists_cons_of_ne_nil hne
  rw [strip, List.append_assoc, List.dropWhile_append_of_pos hu, List.cons_append,
    List.dropWhile_cons_of_neg (by simp [hhead c rfl]), ← List.cons_append]
  exact dropTrailing_append hv hlast

theorem exists_dropTrailing (p : Char → Bool) (t : Text) :
    ∃ v, (∀ c ∈ v, p c) ∧ t = dropTrailing p t ++ v := by
  refine ⟨(t.reverse.takeWhile p).reverse,
    fun c hc => List.mem_takeWhile_imp (List.mem_reverse.mp hc), ?_⟩
  rw [dropTrailing, ← List.reverse_append, List.takeWhile_append_dropWhile, List.reverse_reverse]

theorem exists_strip (p : Char → Bool) (t : Text) :
    ∃ u v, (∀ c ∈ u, p c) ∧ (∀ c ∈ v, p c) ∧ t = u ++ strip p t ++ v := by
  obtain ⟨v, hv, hdrop⟩ := exists_dropTrailing p (t.dropWhile p)
  refine ⟨t.takeWhile p, v, fun c hc => List.mem_takeWhile_imp hc, hv, ?_⟩
  rw [List.append_assoc, strip, ← hdrop, List.takeWhile_append_dropWhile]

end Strip

end HttpJournal.Text
