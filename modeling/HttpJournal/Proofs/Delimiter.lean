import HttpJournal.Proofs.Split
import HttpJournal.Template

namespace HttpJournal.Delimiter

def octets : Bytes := Utf8.bytes delimiter

/-- The octets that the delimiter repeats. -/
def half : Bytes := Utf8.bytes "-0"

theorem octets_ne_nil : octets ≠ [] := by decide

theorem half_append_octets : half ++ octets = octets ++ [0x30, 0x2D] := by decide

/-- Where the delimiter overlaps itself, what stands before the overlap ends with the repeated
octets, and what stands after it begins with a zero. -/
theorem overlap : ∀ k < octets.length, 0 < k → octets.drop k <+: octets →
    half <:+ octets.take k ∧ (octets.drop (octets.length - k)).head? = some 0x30 := by
  decide

theorem overlap_of_append {w x v : Bytes} (hw : w ≠ []) (hx : x ≠ []) (h : octets = w ++ x)
    (h' : octets = x ++ v) : half <:+ w ∧ v.head? = some 0x30 := by
  have hlen := congrArg List.length h
  rw [List.length_append] at hlen
  have hwpos := List.length_pos_iff.mpr hw
  have hxpos := List.length_pos_iff.mpr hx
  have hdrop : octets.drop w.length = x := by rw [h, List.drop_left]
  have htake : octets.take w.length = w := by rw [h, List.take_left]
  have hrest : octets.drop (octets.length - w.length) = v := by
    rw [show octets.length - w.length = x.length by omega, h', List.drop_left]
  have ho := overlap w.length (by omega) hwpos ⟨v, by rw [hdrop, ← h']⟩
  rwa [htake, hrest] at ho

/-- A part draws no delimiter to the left exactly when it neither holds one nor ends with what the
delimiter repeats. -/
theorem closedBy_iff (part : Bytes) :
    ClosedBy octets part ↔ ¬octets <:+: part ∧ ¬half <:+ part := by
  constructor
  · intro h
    refine ⟨h.free octets_ne_nil, ?_⟩
    rintro ⟨u, rfl⟩
    have hlen := h u [0x30, 0x2D] (by rw [List.append_assoc, half_append_octets, List.append_assoc])
    rw [List.length_append] at hlen
    have hpos : 0 < half.length := by decide
    omega
  · rintro ⟨hfree, hend⟩ u v huv
    by_contra! hlt
    obtain ⟨w, rfl⟩ : u <+: part := by
      apply List.prefix_of_prefix_length_le _ ⟨octets, rfl⟩ (Nat.le_of_lt hlt)
      exact ⟨octets ++ v, by rw [huv, List.append_assoc]⟩
    have hw : w ≠ [] := by
      rintro rfl
      simp at hlt
    have hwv : w ++ octets = octets ++ v := by simpa using huv
    rcases List.append_eq_append_iff.mp hwv with ⟨x, hx, hv⟩ | ⟨x, hx, hv⟩
    · by_cases hxe : x = []
      · subst hxe
        rw [List.append_nil] at hx
        exact hfree ⟨u, [], by rw [hx, List.append_nil]⟩
      · have hhalf := (overlap_of_append hw hxe hx hv).1
        exact hend (hhalf.trans (List.suffix_append u w))
    · exact hfree ⟨u, x, by rw [hx, List.append_assoc]⟩

theorem separated_iff {parts : List Bytes} (hne : parts ≠ []) :
    Separated octets parts ↔
      (∀ part ∈ parts, ¬octets <:+: part) ∧ ∀ part ∈ parts.dropLast, ¬half <:+ part := by
  induction parts with
  | nil => exact absurd rfl hne
  | cons part parts ih =>
    cases parts with
    | nil => simp [Separated]
    | cons p ps =>
      rw [separated_cons (List.cons_ne_nil p ps), closedBy_iff, ih (List.cons_ne_nil p ps),
        List.dropLast_cons_cons]
      simp only [List.forall_mem_cons]
      tauto

theorem exists_zero_head {part t : Bytes} {parts : List Bytes}
    (h : octets.intercalate (part :: parts) = 0x30 :: t) : ∃ q, part = 0x30 :: q := by
  cases part with
  | nil =>
    cases parts with
    | nil => cases h
    | cons p ps =>
      rw [List.intercalate_cons_cons, List.nil_append] at h
      exact absurd (List.cons.inj h).1 (by decide)
  | cons b q =>
    rw [List.intercalate_cons_cons_left] at h
    exact ⟨q, by rw [(List.cons.inj h).1]⟩

/-- What is left of a part that ends with the repeated octets, when the cut before `w` at its end
comes first. -/
theorem head_of_early_cut {w rest r : Bytes} (hw : w ≠ []) (hfree : ¬octets <:+: w)
    (h : w ++ (octets ++ rest) = octets ++ r) : r.head? = some 0x30 := by
  rcases List.append_eq_append_iff.mp h with ⟨x, hx, hr⟩ | ⟨x, hx, -⟩
  · have hxe : x ≠ [] := by
      rintro rfl
      rw [List.append_nil] at hx
      exact hfree ⟨[], [], by rw [hx, List.nil_append, List.append_nil]⟩
    rcases List.append_eq_append_iff.mp hr with ⟨y, hy, -⟩ | ⟨y, hy, hyr⟩
    · have hlen := congrArg List.length (hx.trans (congrArg (w ++ ·) hy))
      have hpos := List.length_pos_iff.mpr hw
      simp only [List.length_append] at hlen
      omega
    · rw [hyr, List.head?_append, (overlap_of_append hw hxe hx hy).2]
      rfl
  · exact absurd ⟨[], x, by rw [hx, List.nil_append]⟩ hfree

/-- A part that ends with the repeated octets gives some of them away: the part after it begins
with a zero. -/
theorem exists_zero_part {part : Bytes} (hfree : ¬octets <:+: part) (hend : half <:+ part)
    (rest : Bytes) :
    ∃ p q ps, splitOn octets (part ++ octets ++ rest) = p :: (0x30 :: q) :: ps := by
  have hsep := separated_splitOn octets_ne_nil (part ++ octets ++ rest)
  have hjoin := intercalate_splitOn octets_ne_nil (part ++ octets ++ rest)
  generalize splitOn octets (part ++ octets ++ rest) = parts at hsep hjoin
  obtain ⟨u, rfl⟩ := hend
  match parts, hsep, hjoin with
  | [last], hsep, hjoin =>
    rw [List.intercalate_singleton] at hjoin
    exact absurd ⟨u ++ half, rest, hjoin.symm⟩ hsep
  | p :: second :: ps, hsep, hjoin =>
    rw [List.intercalate_cons_cons, List.append_assoc, List.append_assoc] at hjoin
    have hu : u ++ octets <+: p ++ (octets ++ octets.intercalate (second :: ps)) := by
      refine ⟨[0x30, 0x2D] ++ rest, ?_⟩
      rw [hjoin, List.append_assoc, List.append_assoc, ← List.append_assoc octets,
        ← half_append_octets, List.append_assoc]
    -- the occurrence of the delimiter at `half` comes before the one put after the part
    have hlen : p.length ≤ u.length := hsep.1.length_le hu
    obtain ⟨w, hw⟩ : p <+: u ++ half := by
      apply List.prefix_of_prefix_length_le (List.prefix_append p _)
      · exact ⟨octets ++ rest, hjoin.symm⟩
      · simp only [List.length_append]
        omega
    have hwne : w ≠ [] := by
      rintro rfl
      have hl := congrArg List.length hw
      have hpos : 0 < half.length := by decide
      simp only [List.length_append, List.length_nil] at hl
      omega
    rw [← hw, List.append_assoc, List.append_cancel_left_eq] at hjoin
    have hhead := head_of_early_cut hwne
      (fun h => hfree (h.trans (hw ▸ (List.suffix_append p w).isInfix))) hjoin.symm
    obtain ⟨t, ht⟩ := List.head?_eq_some_iff.mp hhead
    obtain ⟨q, rfl⟩ := exists_zero_head ht
    exact ⟨p, q, ps, rfl⟩

theorem exists_zero_part_of_tail {parts : List Bytes} (hfree : ∀ part ∈ parts, ¬octets <:+: part)
    (hend : ∃ part ∈ parts.dropLast, half <:+ part) :
    ∃ q, 0x30 :: q ∈ splitOn octets (octets.intercalate parts) := by
  induction parts with
  | nil =>
    obtain ⟨part, hpart, -⟩ := hend
    cases hpart
  | cons part parts ih =>
    cases parts with
    | nil =>
      obtain ⟨p, hp, -⟩ := hend
      cases hp
    | cons p ps =>
      rw [List.intercalate_cons_cons]
      by_cases hpart : half <:+ part
      · obtain ⟨a, q, qs, h⟩ := exists_zero_part (hfree part List.mem_cons_self) hpart
          (octets.intercalate (p :: ps))
        rw [h]
        exact ⟨q, List.mem_cons_of_mem _ List.mem_cons_self⟩
      · have hclosed := (closedBy_iff part).mpr ⟨hfree part List.mem_cons_self, hpart⟩
        rw [splitOn_of_closedBy octets_ne_nil hclosed]
        obtain ⟨q, hq⟩ := ih (fun r hr => hfree r (List.mem_cons_of_mem _ hr)) (by
          obtain ⟨r, hr, hrend⟩ := hend
          rw [List.dropLast_cons_cons, List.mem_cons] at hr
          rcases hr with rfl | hr
          · exact absurd hrend hpart
          · exact ⟨r, hr, hrend⟩)
        exact ⟨q, List.mem_cons_of_mem _ hq⟩

end HttpJournal.Delimiter
