import HttpJournal.Proofs.Assoc
import HttpJournal.Proofs.Delimiter
import HttpJournal.Proofs.List
import HttpJournal.Proofs.Utf8

namespace HttpJournal

namespace Record

def chunk (field : String × Bytes) : Bytes := Utf8.bytes field.1 ++ comma :: field.2

/-- A name that a flat text keeps apart from its value and from its neighbours. -/
structure IsPlain (name : String) : Prop where
  comma : comma ∉ Utf8.bytes name
  free : ¬Delimiter.octets <:+: Utf8.bytes name

theorem ne_of_not_mem {u : Bytes} (hu : comma ∉ u) : ∀ b ∈ u, decide (b ≠ comma) = true := by
  intro b hb
  rw [decide_eq_true_eq]
  rintro rfl
  exact hu hb

theorem cutChunk_append {u : Bytes} (hu : comma ∉ u) (v : Bytes) :
    cutChunk (u ++ comma :: v) = (Utf8.text u, v) := by
  have hne := ne_of_not_mem hu
  rw [cutChunk, takeWhile_stop hne (by simp), dropWhile_stop hne (by simp)]
  rfl

theorem cutChunk_chunk {field : String × Bytes} (h : IsPlain field.1) :
    cutChunk (chunk field) = field := by
  rw [chunk, cutChunk_append h.comma, Utf8.text_bytes]

theorem infix_chunk_iff {field : String × Bytes} (h : IsPlain field.1) :
    Delimiter.octets <:+: chunk field ↔ Delimiter.octets <:+: field.2 := by
  rw [chunk, infix_append_cons_iff (by decide)]
  exact or_iff_right h.free

theorem suffix_chunk_iff (field : String × Bytes) :
    Delimiter.half <:+ chunk field ↔ Delimiter.half <:+ field.2 :=
  suffix_append_cons_iff (by decide)

theorem separated_chunks_iff {fields : List (String × Bytes)} (hne : fields ≠ [])
    (hplain : ∀ f ∈ fields, IsPlain f.1) :
    Separated Delimiter.octets (fields.map chunk) ↔
      (∀ f ∈ fields, ¬Delimiter.octets <:+: f.2) ∧
        ∀ f ∈ fields.dropLast, ¬Delimiter.half <:+ f.2 := by
  rw [Delimiter.separated_iff (by simpa using hne), ← List.map_dropLast]
  simp only [List.forall_mem_map, suffix_chunk_iff]
  refine and_congr_left fun _ => forall₂_congr fun f hf => ?_
  rw [infix_chunk_iff (hplain f hf)]

/-- A name that is cut off has the ASCII octets that stand before the comma. -/
theorem count_name_cutChunk {c : Char} (hc : c.toNat < 0x80) (h0 : c.toNat ≠ 0) (part : Bytes) :
    (Utf8.bytes (cutChunk part).1).count (UInt8.ofNat c.toNat) =
      (part.takeWhile (· ≠ comma)).count (UInt8.ofNat c.toNat) := by
  rw [cutChunk, Utf8.text, Utf8.bytes, String.toList_ofList]
  exact (Utf8.count_encode hc _).trans (Utf8.count_decodeFrom Utf8.sound_none hc h0 _)

/-- The octet of which the delimiter has more than any part can make up for. -/
def dash : UInt8 := 0x2D

/-- Cutting a part and writing it out again keeps its dashes. -/
theorem count_chunk_cutChunk (part : Bytes) :
    (chunk (cutChunk part)).count dash = part.count dash := by
  have hname : (Utf8.bytes (cutChunk part).1).count dash =
      (part.takeWhile (· ≠ comma)).count dash :=
    count_name_cutChunk (by decide : '-'.toNat < 0x80) (by decide) part
  have hvalue : (comma :: (cutChunk part).2).count dash =
      (part.dropWhile (· ≠ comma)).count dash := by
    rw [cutChunk]
    cases h : part.dropWhile (· ≠ comma) with
    | nil => rfl
    | cons b rest =>
      rw [head_dropWhile_ne h, List.drop_one, List.tail_cons]
  rw [chunk, List.count_append, hname, hvalue, ← List.count_append,
    List.takeWhile_append_dropWhile]

theorem count_chunks_cutChunk (parts : List Bytes) :
    ((parts.map cutChunk).flatMap chunk).count dash = parts.flatten.count dash := by
  induction parts with
  | nil => rfl
  | cons part parts ih =>
    rw [List.map_cons, List.flatMap_cons, List.flatten_cons, List.count_append, List.count_append,
      count_chunk_cutChunk, ih]

theorem takeWhile_chunk_append {field : String × Bytes} (h : IsPlain field.1) (rest : Bytes) :
    (chunk field ++ rest).takeWhile (· ≠ comma) = Utf8.bytes field.1 := by
  rw [chunk, List.append_assoc, List.cons_append]
  exact takeWhile_stop (ne_of_not_mem h.comma) (by simp)

/-- A part that is cut to a field is the field as written, if it begins a text as the field does. -/
theorem chunk_of_cut {field : String × Bytes} (h : IsPlain field.1) {part rest rest' : Bytes}
    (hcut : cutChunk part = field)
    (hjoin : part ++ Delimiter.octets ++ rest = chunk field ++ rest') : part = chunk field := by
  have hname := takeWhile_chunk_append h rest'
  rw [← hjoin] at hname
  by_cases hmem : comma ∈ part
  · obtain ⟨u, v, rfl, hu⟩ := List.eq_append_cons_of_mem hmem
    rw [List.append_assoc, List.append_assoc, List.cons_append,
      takeWhile_stop (ne_of_not_mem hu) (by simp)] at hname
    rw [cutChunk_append hu] at hcut
    rw [chunk, ← hname, ← hcut]
  · -- without a comma the name would reach over the delimiter
    have hfree : comma ∉ part ++ Delimiter.octets := by
      rw [List.mem_append, not_or]
      exact ⟨hmem, by decide⟩
    rw [List.takeWhile_append_of_pos (ne_of_not_mem hfree)] at hname
    exact absurd ⟨part, _, hname⟩ h.free

/-- Parts that are cut to fields and join to the same text as these are the fields as written. -/
theorem chunks_of_cut {parts : List Bytes} (hplain : ∀ f ∈ parts.map cutChunk, IsPlain f.1)
    (hjoin : Delimiter.octets.intercalate parts =
      Delimiter.octets.intercalate ((parts.map cutChunk).map chunk)) :
    parts = (parts.map cutChunk).map chunk := by
  induction parts with
  | nil => rfl
  | cons part parts ih =>
    cases parts with
    | nil => simpa using hjoin
    | cons p ps =>
      simp only [List.map_cons, List.intercalate_cons_cons] at hjoin
      have hpart : part = chunk (cutChunk part) :=
        chunk_of_cut (hplain _ List.mem_cons_self) rfl (by rw [hjoin, List.append_assoc])
      rw [← hpart, List.append_assoc, List.append_assoc, List.append_cancel_left_eq,
        List.append_cancel_left_eq] at hjoin
      rw [List.map_cons, List.map_cons, ← hpart,
        ← ih (fun f hf => hplain f (List.mem_cons_of_mem _ hf)) hjoin]

/-- Cutting cannot make up for a delimiter that is used up: the parts are no more than the fields
that they are cut to. -/
theorem length_parts_le {parts : List Bytes} {fields : List (String × Bytes)} (hne : fields ≠ [])
    (hparts : parts ≠ []) (hfields : Record.ofList (parts.map cutChunk) = fields)
    (hjoin : Delimiter.octets.intercalate parts =
      Delimiter.octets.intercalate (fields.map chunk)) :
    parts.length ≤ fields.length := by
  have hchunks : fields.map chunk ≠ [] := mt List.map_eq_nil_iff.mp hne
  have hleft := count_intercalate dash Delimiter.octets hparts
  have hright := count_intercalate dash Delimiter.octets hchunks
  have hcut := Assoc.count_ofList_le dash chunk (parts.map cutChunk)
  rw [show Assoc.ofList (parts.map cutChunk) = fields from hfields, count_chunks_cutChunk,
    List.flatMap_def] at hcut
  -- the delimiters make up for no dash that a part has lost
  have hten : Delimiter.octets.count dash = 10 := by decide
  rw [hjoin, hright, hten, List.length_map] at hleft
  omega

/-- The exact condition under which fields come back from their flat text. -/
theorem ofFlat_join_iff {fields : List (String × Bytes)} (hne : fields ≠ [])
    (hnames : (fields.map Prod.fst).Nodup) (hplain : ∀ f ∈ fields, IsPlain f.1) :
    ofFlat Delimiter.octets (Delimiter.octets.intercalate (fields.map chunk)) = fields ↔
      (∀ f ∈ fields, ¬Delimiter.octets <:+: f.2) ∧
        ∀ f ∈ fields.dropLast, ¬Delimiter.half <:+ f.2 := by
  rw [← separated_chunks_iff hne hplain]
  constructor
  · intro h
    rw [ofFlat] at h
    have hsep := separated_splitOn Delimiter.octets_ne_nil
      (Delimiter.octets.intercalate (fields.map chunk))
    have hjoin := intercalate_splitOn Delimiter.octets_ne_nil
      (Delimiter.octets.intercalate (fields.map chunk))
    generalize splitOn _ _ = parts at h hsep hjoin
    have hlen := length_parts_le hne hsep.ne_nil h hjoin
    -- as many fields as parts are left only when no name is written twice
    have hcut : parts.map cutChunk = fields := by
      rw [← h]
      refine (Assoc.ofList_of_length ?_).symm
      rw [List.length_map]
      exact hlen.trans_eq (congrArg List.length h.symm)
    have hparts : parts = (parts.map cutChunk).map chunk :=
      chunks_of_cut (by rwa [hcut]) (by rw [hjoin, hcut])
    rwa [hparts, hcut] at hsep
  · intro h
    have hcut : (fields.map chunk).map cutChunk = fields := by
      rw [List.map_map]
      exact (List.map_congr_left fun f hf => cutChunk_chunk (hplain f hf)).trans (List.map_id _)
    rw [ofFlat, splitOn_intercalate Delimiter.octets_ne_nil h, hcut]
    exact Assoc.ofList_of_nodup hnames

theorem head_cutChunk (q : Bytes) : (cutChunk (0x30 :: q)).1.toList.head? = some '0' := by
  have hname : (0x30 :: q).takeWhile (· ≠ comma) = 0x30 :: q.takeWhile (· ≠ comma) :=
    List.takeWhile_cons_of_pos (by decide)
  rw [cutChunk, hname, Utf8.text, String.toList_ofList]
  rfl

/-- A value that ends with what the delimiter repeats leaves a name that begins with a zero. -/
theorem exists_zero_name {fields : List (String × Bytes)} (hplain : ∀ f ∈ fields, IsPlain f.1)
    (hfree : ∀ f ∈ fields, ¬Delimiter.octets <:+: f.2)
    (hend : ∃ f ∈ fields.dropLast, Delimiter.half <:+ f.2) :
    ∃ name ∈ (ofFlat Delimiter.octets (Delimiter.octets.intercalate (fields.map chunk))).names,
      name.toList.head? = some '0' := by
  have hchunks : ∀ part ∈ fields.map chunk, ¬Delimiter.octets <:+: part := by
    rw [List.forall_mem_map]
    exact fun f hf => mt (infix_chunk_iff (hplain f hf)).mp (hfree f hf)
  obtain ⟨f, hf, hhalf⟩ := hend
  obtain ⟨q, hq⟩ := Delimiter.exists_zero_part_of_tail hchunks
    ⟨chunk f, by rw [← List.map_dropLast]; exact List.mem_map_of_mem hf,
      (suffix_chunk_iff f).mpr hhalf⟩
  refine ⟨(cutChunk (0x30 :: q)).1, ?_, head_cutChunk q⟩
  rw [names, ofFlat, ofList, Assoc.mem_names_ofList]
  exact List.mem_map_of_mem (List.mem_map_of_mem hq)

end Record

end HttpJournal
