import HttpJournal.Proofs.FlatRecord
import HttpJournal.Proofs.Placeholder

namespace HttpJournal

theorem Text.contains_iff (part t : Text) : Text.contains part t ↔ part <:+: t := by
  induction t with
  | nil => simp [Text.contains]
  | cons c t ih =>
    rw [Text.contains, Bool.or_eq_true, ih, List.isPrefixOf_iff_prefix, List.infix_cons_iff]

namespace Template

theorem check_ok_iff (accepted : List String) (fields : List (String × String)) :
    check accepted fields = .ok () ↔
      (∀ f ∈ fields, isFieldName f.1) ∧ (∀ f ∈ fields, f.1 ∉ accepted) ∧
        (fields.map Prod.fst).Nodup := by
  induction fields generalizing accepted with
  | nil => simp [check]
  | cons f rest ih =>
    obtain ⟨name, token⟩ := f
    rw [check]
    split_ifs with hname hdup
    · simp only [List.forall_mem_cons, false_iff]
      intro h
      rw [h.1.1] at hname
      cases hname
    · simp only [List.forall_mem_cons, false_iff]
      intro h
      exact h.2.1.1 (by simpa using hdup)
    · simp only [ih, List.forall_mem_cons, List.map_cons, List.nodup_cons]
      simp only [List.mem_cons, not_or, List.mem_map, not_exists, not_and]
      have hname' : isFieldName name = true := by simpa using hname
      have hdup' : name ∉ accepted := by simpa using hdup
      constructor
      · rintro ⟨hnames, hrest, hnodup⟩
        exact ⟨⟨hname', hnames⟩, ⟨hdup', fun f hf => (hrest f hf).2⟩,
          fun f hf => (hrest f hf).1, hnodup⟩
      · rintro ⟨⟨-, hnames⟩, ⟨-, hrest⟩, hne, hnodup⟩
        exact ⟨hnames, fun f hf => ⟨hne f hf, hrest f hf⟩, hnodup⟩

/-- A template is accepted when it has fields, all with names of their own that a flat text can
keep. -/
theorem ofFields_ok_iff (fields : List (String × String)) (t : Template) :
    ofFields fields = .ok t ↔
      t.fields = fields ∧ fields ≠ [] ∧ (∀ f ∈ fields, isFieldName f.1) ∧
        (fields.map Prod.fst).Nodup := by
  have hcheck := check_ok_iff [] fields
  simp only [List.not_mem_nil, not_false_eq_true, implies_true, true_and] at hcheck
  rw [ofFields, ← hcheck]
  cases check [] fields with
  | error e => simp
  | ok _ =>
    cases fields with
    | nil => simp
    | cons f rest =>
      obtain ⟨fs⟩ := t
      simp [eq_comm]

theorem isPlain_of_isFieldName {name : String} (h : isFieldName name) : Record.IsPlain name := by
  simp only [isFieldName, Bool.and_eq_true, Bool.not_eq_true', Bool.eq_false_iff,
    ne_eq, Text.contains_iff, List.contains_iff_mem] at h
  obtain ⟨⟨-, hcomma⟩, hfree⟩ := h
  constructor
  · exact mt (Utf8.mem_encode_iff (by decide : ','.toNat < 0x80)).mp hcomma
  · intro hinfix
    exact hfree (Utf8.infix_of_encode (by decide : '-'.toNat < 0x80) hinfix)

/-- A text with a comma before its first closing brace. -/
theorem shut_of_comma {u : Text} (hu : '}' ∉ u) (v : Text) : Piece.Shut (u ++ ',' :: v) := by
  have hall : ∀ c ∈ u ++ [','], decide (c ≠ '}') = true := by
    intro c hc
    rw [decide_eq_true_eq]
    rintro rfl
    rw [List.mem_append, List.mem_singleton] at hc
    exact hc.elim hu (by decide)
  right
  rw [List.append_cons, List.takeWhile_append_of_pos hall]
  simp

def filled (t : Template) (value : String → Bytes) : Record :=
  t.fields.map fun field => (field.1, Expansion.filled value field.2.toList)

theorem names_filled (t : Template) (value : String → Bytes) :
    (t.filled value).names = t.names := by
  simp [filled, Record.names, names]

theorem filled_chunk {field : String × String} (h : '{' ∉ field.1.toList) (value : String → Bytes) :
    Expansion.filled value (chunk field) =
      Record.chunk (field.1, Expansion.filled value field.2.toList) := by
  have hname : '{' ∉ field.1.toList ++ [','] := by
    rw [List.mem_append, not_or]
    exact ⟨h, by decide⟩
  rw [chunk, List.append_cons, Expansion.filled_literals hname, Utf8.encode_append,
    List.append_assoc]
  rfl

theorem joinChunks_eq_intercalate (chunks : List Text) :
    joinChunks chunks = delimiter.toList.intercalate chunks := by
  induction chunks with
  | nil => rfl
  | cons c rest ih =>
    cases rest with
    | nil => rw [joinChunks, List.intercalate_singleton]
    | cons d rest =>
      rw [joinChunks, ih, List.intercalate_cons_cons]
      intro h
      cases h

/-- No placeholder that a token leaves open is closed behind the delimiter. -/
theorem shut_chunks {field : String × String} (h : '}' ∉ field.1.toList) (rest : List Text) :
    Piece.Shut (delimiter.toList ++ delimiter.toList.intercalate (chunk field :: rest)) := by
  obtain ⟨tail, htail⟩ :
      ∃ tail, delimiter.toList.intercalate (chunk field :: rest) = chunk field ++ tail := by
    cases rest with
    | nil => exact ⟨[], by rw [List.intercalate_singleton, List.append_nil]⟩
    | cons c rest => exact ⟨_, by rw [List.intercalate_cons_cons, List.append_assoc]⟩
  rw [htail, chunk, List.append_assoc, List.cons_append, ← List.append_assoc]
  apply shut_of_comma
  rw [List.mem_append, not_or]
  exact ⟨by decide, h⟩

theorem filled_chunks {fields : List (String × String)}
    (hbraces : ∀ f ∈ fields, '{' ∉ f.1.toList ∧ '}' ∉ f.1.toList) (value : String → Bytes) :
    Expansion.filled value (delimiter.toList.intercalate (fields.map chunk)) =
      Delimiter.octets.intercalate
        ((fields.map fun f => (f.1, Expansion.filled value f.2.toList)).map Record.chunk) := by
  induction fields with
  | nil => rfl
  | cons f rest ih =>
    rw [List.forall_mem_cons] at hbraces
    have hrest := ih hbraces.2
    have hchunk := filled_chunk hbraces.1.1 value
    cases rest with
    | nil => simpa using hchunk
    | cons g rest =>
      have hshut := shut_chunks (hbraces.2 g List.mem_cons_self).2 (rest.map chunk)
      simp only [List.map_cons, List.intercalate_cons_cons] at hrest ⊢
      rw [List.append_assoc, Expansion.filled_append hshut,
        Expansion.filled_literals (by decide), hrest, hchunk, List.append_assoc]
      rfl

theorem filled_flat {t : Template}
    (hbraces : ∀ name ∈ t.names, '{' ∉ name.toList ∧ '}' ∉ name.toList) (value : String → Bytes) :
    Expansion.filled value t.flat.toList =
      Delimiter.octets.intercalate ((t.filled value).map Record.chunk) := by
  rw [flat, String.toList_ofList, joinChunks_eq_intercalate]
  exact filled_chunks (by simpa [names] using hbraces) value

/-- The fields of a template with values for tokens, joined and cut again. -/
theorem ofFlat_join_filled_iff {fields : List (String × String)} {t : Template}
    (ht : ofFields fields = .ok t) (value : String → Bytes) :
    Record.ofFlat Delimiter.octets
          (Delimiter.octets.intercalate ((t.filled value).map Record.chunk)) =
        t.filled value ↔
      (∀ f ∈ t.filled value, ¬Delimiter.octets <:+: f.2) ∧
        ∀ f ∈ (t.filled value).dropLast, ¬Delimiter.half <:+ f.2 := by
  obtain ⟨rfl, hne, hnames, hnodup⟩ := (ofFields_ok_iff fields t).mp ht
  apply Record.ofFlat_join_iff
  · simpa [filled] using hne
  · rw [show (t.filled value).map Prod.fst = t.names from names_filled t value]
    exact hnodup
  · simp only [filled, List.forall_mem_map]
    exact fun f hf => isPlain_of_isFieldName (hnames f hf)

/-- The flat text of a template with values put in is cut to its fields with these values exactly
when no expanded token holds the delimiter and none but the last ends with what the delimiter
repeats. -/
theorem ofFlat_filled_iff {fields : List (String × String)} {t : Template}
    (ht : ofFields fields = .ok t)
    (hbraces : ∀ name ∈ t.names, '{' ∉ name.toList ∧ '}' ∉ name.toList) (value : String → Bytes) :
    Record.ofFlat Delimiter.octets (Expansion.filled value t.flat.toList) = t.filled value ↔
      (∀ f ∈ t.filled value, ¬Delimiter.octets <:+: f.2) ∧
        ∀ f ∈ (t.filled value).dropLast, ¬Delimiter.half <:+ f.2 := by
  rw [filled_flat hbraces]
  exact ofFlat_join_filled_iff ht value

/-- Cutting the expanded flat text of a template gives its fields with their tokens expanded
exactly when no expanded token holds the delimiter and none but the last ends with what the
delimiter repeats. -/
theorem ofFlat_expand_iff {σ : Type} (resolve : Resolver σ) (s : σ)
    {fields : List (String × String)} {t : Template} (ht : ofFields fields = .ok t)
    (hbraces : ∀ name ∈ t.names, '{' ∉ name.toList ∧ '}' ∉ name.toList) :
    Record.ofFlat (Utf8.bytes delimiter) (expandM resolve t.flat s).1.text =
        t.filled (Expansion.calls resolve t.flat s).value ↔
      (∀ f ∈ t.filled (Expansion.calls resolve t.flat s).value,
          ¬Utf8.bytes delimiter <:+: f.2) ∧
        ∀ f ∈ (t.filled (Expansion.calls resolve t.flat s).value).dropLast,
          ¬Utf8.bytes "-0" <:+ f.2 := by
  rw [Expansion.expandM_text]
  exact ofFlat_filled_iff ht hbraces _

def numbered : Resolver Nat := fun name n =>
  (if name = "y" then none else some (Utf8.bytes name ++ [UInt8.ofNat (0x30 + n)]), n + 1)

def twoFields : Template := ⟨[("a", "\x7bx\x7d,\x7by\x7d"), ("b", "\x7b\x7bx\x7d-0")]⟩

theorem ofFlat_expand_numbered :
    ofFields twoFields.fields = .ok twoFields ∧
      (∀ name ∈ twoFields.names, '{' ∉ name.toList ∧ '}' ∉ name.toList) ∧
      Record.ofFlat (Utf8.bytes delimiter) (expandM numbered twoFields.flat 0).1.text =
        twoFields.filled (Expansion.calls numbered twoFields.flat 0).value := by
  have hfields : ofFields twoFields.fields = .ok twoFields := by decide
  have hbraces : ∀ name ∈ twoFields.names, '{' ∉ name.toList ∧ '}' ∉ name.toList := by decide
  refine ⟨hfields, hbraces, (ofFlat_expand_iff numbered 0 hfields hbraces).mpr ?_⟩
  decide +kernel

end Template

end HttpJournal
