import HttpJournal.Proofs.Expansion
import HttpJournal.Proofs.TemplateRecord

namespace HttpJournal

def brace : UInt8 := 0x7B

/-- No placeholder occurs in the text. -/
def Text.IsLiteral (t : Text) : Prop := ∀ o : Occurrence, ¬o.text <:+: t

theorem Occurrence.count_text (o : Occurrence) : o.text.count '{' = 1 := by
  rw [text, List.count_cons_self, List.count_eq_zero.mpr o.not_mem_rest]

theorem Cut.mem_placeholder_iff {t : Text} {segments : List Segment} (h : Cut t segments)
    (o : Occurrence) : .placeholder o ∈ segments ↔ o.text <:+: t := by
  constructor
  · intro ho
    obtain ⟨before, after, rfl⟩ := List.append_of_mem ho
    rw [← h.joined, List.flatMap_append, List.flatMap_cons]
    exact ⟨_, _, List.append_assoc _ _ _⟩
  · rintro ⟨u, v, rfl⟩
    obtain ⟨before, after, rfl, -, -⟩ := h.complete u o v (List.append_assoc _ _ _)
    exact List.mem_append_right before List.mem_cons_self

theorem Text.isLiteral_iff (t : Text) :
    t.IsLiteral ↔ (Piece.scan t).filterMap Piece.asked? = [] := by
  obtain ⟨segments, hcut, hscan⟩ := Cut.exists_scan t
  rw [← hscan, List.filterMap_map, List.filterMap_eq_nil_iff]
  constructor
  · intro h segment hsegment
    cases segment with
    | literal c => rfl
    | placeholder o => exact absurd ((hcut.mem_placeholder_iff o).mp hsegment) (h o)
  · intro h o ho
    cases h _ ((hcut.mem_placeholder_iff o).mpr ho)

theorem Occurrence.exists_text {t name : Text} (h : Piece.name? t = some (name, [])) :
    ∃ o : Occurrence, '{' :: t = o.text := by
  obtain ⟨body, rfl, hbody⟩ := Piece.inside_of_name? h
  exact ⟨⟨body, name, hbody⟩, rfl⟩

theorem Calls.not_mem_value {calls : Calls} {b : UInt8} (h : ∀ call ∈ calls, b ∉ call.2.getD [])
    (name : String) : b ∉ calls.value name := by
  rw [value]
  cases hlookup : calls.lookup name with
  | none => exact List.not_mem_nil
  | some answer =>
    obtain ⟨before, after, rfl, -⟩ := List.lookup_eq_some_iff.mp hlookup
    exact h (name, answer) (List.mem_append_right before List.mem_cons_self)

namespace Expansion

variable {value : String → Bytes}

theorem filled_of_isLiteral {t : Text} (h : t.IsLiteral) : filled value t = Utf8.encode t := by
  obtain ⟨segments, hcut, hscan⟩ := Cut.exists_scan t
  have hfill : ∀ segment ∈ segments,
      Piece.fill value segment.piece = Utf8.encode segment.text := by
    intro segment hsegment
    cases segment with
    | literal c => exact (List.append_nil _).symm
    | placeholder o => exact absurd ((hcut.mem_placeholder_iff o).mp hsegment) (h o)
  rw [filled, ← hscan, List.flatMap_map, List.flatMap_congr hfill, ← hcut.joined, Utf8.encode,
    List.flatMap_assoc]
  rfl

theorem count_filled_segments (hvalue : ∀ name, brace ∉ value name) (segments : List Segment) :
    ((segments.map Segment.piece).flatMap (Piece.fill value)).count brace +
        ((segments.map Segment.piece).filterMap Piece.asked?).length =
      (segments.flatMap Segment.text).count '{' := by
  induction segments with
  | nil => rfl
  | cons segment segments ih =>
    rw [List.map_cons, List.flatMap_cons, List.flatMap_cons, List.count_append, List.count_append,
      ← ih]
    cases segment with
    | literal c =>
      have hc : (String.utf8EncodeChar c).count brace = if c = '{' then 1 else 0 :=
        Utf8.count_encodeChar (by decide : '{'.toNat < 0x80) c
      change (String.utf8EncodeChar c).count brace + _ + _ = [c].count '{' + _
      rw [hc, List.count_singleton, Nat.add_assoc]
      simp only [beq_iff_eq]
      rfl
    | placeholder o =>
      have ho : (value (.ofList o.name)).count brace = 0 := List.count_eq_zero.mpr (hvalue _)
      change (value (.ofList o.name)).count brace + _ + (_ + 1) = o.text.count '{' + _
      rw [ho, o.count_text]
      omega

/-- Each placeholder takes an opening brace away, when the values bring none. -/
theorem count_filled (hvalue : ∀ name, brace ∉ value name) (t : Text) :
    (filled value t).count brace + ((Piece.scan t).filterMap Piece.asked?).length =
      t.count '{' := by
  obtain ⟨segments, hcut, hscan⟩ := Cut.exists_scan t
  rw [filled, ← hscan, count_filled_segments hvalue, hcut.joined]

theorem filled_text_append (o : Occurrence) (u : Text) :
    filled value (o.text ++ u) = value (.ofList o.name) ++ filled value u := by
  rw [o.text_append, filled, Piece.scan_placeholder (Piece.name?_of_inside o.inside u),
    List.flatMap_cons]
  rfl

theorem filled_text (o : Occurrence) : filled value o.text = value (.ofList o.name) := by
  have h : filled value (o.text ++ []) = value (.ofList o.name) ++ [] := filled_text_append o []
  rwa [List.append_nil, List.append_nil] at h

/-- No placeholder reaches over a comma. -/
theorem filled_append_comma (t u : Text) :
    filled value (t ++ ',' :: u) = filled value t ++ comma :: filled value u := by
  have hshut : Piece.Shut (',' :: u) := Template.shut_of_comma (u := []) List.not_mem_nil u
  rw [filled_append hshut, ← List.singleton_append, filled_literals (by decide)]
  rfl

end Expansion

namespace Record

/-- The names of a record have no more of an ASCII octet than the flat text it is cut from. -/
theorem count_names_ofFlat_le {c : Char} (hc : c.toNat < 0x80) (h0 : c.toNat ≠ 0) {sep : Bytes}
    (hsep : sep ≠ []) (bs : Bytes) :
    ((ofFlat sep bs).names.flatMap Utf8.bytes).count (UInt8.ofNat c.toNat) ≤
      bs.count (UInt8.ofNat c.toNat) := by
  have hparts : ∀ parts : List Bytes,
      ((parts.map cutChunk).flatMap fun f => Utf8.bytes f.1).count (UInt8.ofNat c.toNat) ≤
        parts.flatten.count (UInt8.ofNat c.toNat) := by
    intro parts
    induction parts with
    | nil => exact Nat.le_refl _
    | cons part parts ih =>
      rw [List.map_cons, List.flatMap_cons, List.flatten_cons, List.count_append,
        List.count_append, count_name_cutChunk hc h0]
      exact Nat.add_le_add ((List.takeWhile_sublist _).count_le _) ih
  have hne := (separated_splitOn hsep bs).ne_nil
  have hcount := count_intercalate (UInt8.ofNat c.toNat) sep hne
  rw [intercalate_splitOn hsep] at hcount
  have hsepCount : sep.count (UInt8.ofNat c.toNat) ≤
      sep.count (UInt8.ofNat c.toNat) * (splitOn sep bs).length :=
    Nat.le_mul_of_pos_right _ (List.length_pos_iff.mpr hne)
  have hflatten : (splitOn sep bs).flatten.count (UInt8.ofNat c.toNat) ≤
      bs.count (UInt8.ofNat c.toNat) := by omega
  rw [names, List.flatMap_map]
  exact ((Assoc.count_ofList_le _ _ _).trans (hparts _)).trans hflatten

end Record

namespace Template

/-- Each token is a placeholder and nothing else. -/
def IsWhole (t : Template) : Prop := ∀ f ∈ t.fields, ∃ o : Occurrence, f.2.toList = o.text

/-- A field in a flat text where values are put in for all placeholders, those in names too. -/
def part (value : String → Bytes) (field : String × String) : Bytes :=
  Expansion.filled value field.1.toList ++ comma :: Expansion.filled value field.2.toList

variable {value : String → Bytes}

theorem filled_chunk_append {field : String × String} {o : Occurrence}
    (ho : field.2.toList = o.text) (u : Text) :
    Expansion.filled value (chunk field ++ u) = part value field ++ Expansion.filled value u := by
  rw [chunk, List.append_assoc, List.cons_append, Expansion.filled_append_comma, part, ho,
    Expansion.filled_text_append, Expansion.filled_text, List.append_assoc, List.cons_append]

theorem filled_chunks_of_whole {fields : List (String × String)}
    (h : ∀ f ∈ fields, ∃ o : Occurrence, f.2.toList = o.text) :
    Expansion.filled value (delimiter.toList.intercalate (fields.map chunk)) =
      Delimiter.octets.intercalate (fields.map (part value)) := by
  induction fields with
  | nil => rfl
  | cons f rest ih =>
    rw [List.forall_mem_cons] at h
    obtain ⟨⟨o, ho⟩, hrest⟩ := h
    cases rest with
    | nil =>
      have hchunk : Expansion.filled value (chunk f ++ []) = part value f ++ [] :=
        filled_chunk_append ho []
      rw [List.append_nil, List.append_nil] at hchunk
      rw [List.map_singleton, List.map_singleton, List.intercalate_singleton,
        List.intercalate_singleton, hchunk]
    | cons g rest =>
      have hih := ih hrest
      simp only [List.map_cons, List.intercalate_cons_cons] at hih ⊢
      rw [List.append_assoc, filled_chunk_append ho, Expansion.filled_literals (by decide), hih,
        List.append_assoc]
      rfl

theorem filled_flat_of_whole {t : Template} (h : t.IsWhole) :
    Expansion.filled value t.flat.toList =
      Delimiter.octets.intercalate (t.fields.map (part value)) := by
  rw [flat, String.toList_ofList, joinChunks_eq_intercalate]
  exact filled_chunks_of_whole h

/-- With names that are literal, the parts are the fields as they are written. -/
theorem parts_of_isLiteral {t : Template} (h : ∀ name ∈ t.names, Text.IsLiteral name.toList) :
    t.fields.map (part value) = (t.filled value).map Record.chunk := by
  rw [filled, List.map_map]
  apply List.map_congr_left
  intro f hf
  rw [part, Expansion.filled_of_isLiteral (h f.1 (List.mem_map_of_mem hf))]
  rfl

/-- Opening braces are left in the names only, and there each placeholder takes one away. -/
theorem count_parts {fields : List (String × String)} (hvalue : ∀ name, brace ∉ value name)
    (h : ∀ f ∈ fields, ∃ o : Occurrence, f.2.toList = o.text) :
    (fields.map (part value)).flatten.count brace +
        ((fields.map Prod.fst).flatMap fun name =>
          (Piece.scan name.toList).filterMap Piece.asked?).length =
      ((fields.map Prod.fst).flatMap Utf8.bytes).count brace := by
  induction fields with
  | nil => rfl
  | cons f rest ih =>
    rw [List.forall_mem_cons] at h
    obtain ⟨⟨o, ho⟩, hrest⟩ := h
    have hname := Expansion.count_filled hvalue f.1.toList
    have htoken : (Expansion.filled value f.2.toList).count brace = 0 := by
      rw [ho, Expansion.filled_text]
      exact List.count_eq_zero.mpr (hvalue _)
    have hbytes : (Utf8.bytes f.1).count brace = f.1.toList.count '{' :=
      Utf8.count_encode (by decide : '{'.toNat < 0x80) _
    have hcomma : (comma == brace) = false := by decide
    have hih := ih hrest
    simp only [List.map_cons, List.flatten_cons, List.flatMap_cons, List.count_append,
      List.length_append, part, List.count_cons, htoken, hcomma, hbytes, Bool.false_eq_true,
      if_false] at hih ⊢
    omega

theorem not_mem_token {t : Template} (hwhole : t.IsWhole) {b : UInt8}
    (hvalue : ∀ name, b ∉ value name) : ∀ f ∈ t.filled value, b ∉ f.2 := by
  simp only [filled, List.forall_mem_map]
  intro f hf
  obtain ⟨o, ho⟩ := hwhole f hf
  rw [ho, Expansion.filled_text]
  exact hvalue _

/-- Names that come back have all their opening braces, so no placeholder has taken one away. -/
theorem isLiteral_of_names_ofFlat {t : Template} (hne : t.fields ≠ []) (hwhole : t.IsWhole)
    (hvalue : ∀ name, brace ∉ value name)
    (h : (Record.ofFlat Delimiter.octets (Expansion.filled value t.flat.toList)).names = t.names) :
    ∀ name ∈ t.names, Text.IsLiteral name.toList := by
  have hle := Record.count_names_ofFlat_le (by decide : '{'.toNat < 0x80) (by decide)
    Delimiter.octets_ne_nil (Expansion.filled value t.flat.toList)
  have hparts := count_intercalate brace Delimiter.octets
    (mt List.map_eq_nil_iff.mp hne : t.fields.map (part value) ≠ [])
  have hcount := count_parts hvalue hwhole
  have hnone : Delimiter.octets.count brace = 0 := by decide
  rw [hnone, Nat.add_zero, Nat.zero_mul, Nat.add_zero, ← filled_flat_of_whole hwhole] at hparts
  rw [h] at hle
  have hasked : (t.names.flatMap fun name =>
      (Piece.scan name.toList).filterMap Piece.asked?).length = 0 := by
    change _ + (t.names.flatMap _).length = (t.names.flatMap Utf8.bytes).count brace at hcount
    change (t.names.flatMap Utf8.bytes).count brace ≤ List.count brace _ at hle
    omega
  intro name hname
  rw [List.length_eq_zero_iff, List.flatMap_eq_nil_iff] at hasked
  exact (Text.isLiteral_iff _).mpr (hasked name hname)

/-- With names that are literal, and values without a dash, all fields come back. -/
theorem ofFlat_filled_of_isLiteral {fields : List (String × String)} {t : Template}
    (ht : ofFields fields = .ok t) (hwhole : t.IsWhole)
    (hvalue : ∀ name, Record.dash ∉ value name)
    (h : ∀ name ∈ t.names, Text.IsLiteral name.toList) :
    Record.ofFlat Delimiter.octets (Expansion.filled value t.flat.toList) = t.filled value := by
  have hfree := not_mem_token hwhole hvalue
  rw [filled_flat_of_whole hwhole, parts_of_isLiteral h, ofFlat_join_filled_iff ht]
  constructor
  · intro f hf hoctets
    exact hfree f hf (hoctets.subset (by decide))
  · intro f hf hhalf
    exact hfree f (List.mem_of_mem_dropLast hf) (hhalf.subset (by decide))

/-- When each token is a placeholder and the answers have neither a dash nor an opening brace, the
names of an accepted template are those of the record cut from its expanded flat text exactly when
no placeholder stands in a name. The check of names does not look for one. -/
theorem names_ofFlat_expand_iff {σ : Type} (resolve : Resolver σ) (s : σ)
    {fields : List (String × String)} {t : Template} (ht : ofFields fields = .ok t)
    (hwhole : t.IsWhole)
    (hdash : ∀ name, Record.dash ∉ (Expansion.calls resolve t.flat s).value name)
    (hbrace : ∀ name, brace ∉ (Expansion.calls resolve t.flat s).value name) :
    (Record.ofFlat (Utf8.bytes delimiter) (expandM resolve t.flat s).1.text).names = t.names ↔
      ∀ name ∈ t.names, Text.IsLiteral name.toList := by
  obtain ⟨rfl, hne, -, -⟩ := (ofFields_ok_iff fields t).mp ht
  rw [Expansion.expandM_text]
  change (Record.ofFlat Delimiter.octets (Expansion.filled _ t.flat.toList)).names = _ ↔ _
  constructor
  · exact isLiteral_of_names_ofFlat hne hwhole hbrace
  · intro h
    rw [ofFlat_filled_of_isLiteral ht hwhole hdash h, names_filled]

/-- Names with braces of which none makes a placeholder, also not with what stands beside it. -/
def bracedNames : Template := ⟨[("a\x7b", "\x7bx\x7d"), ("\x7d \x7bb", "\x7b y \x7d")]⟩

theorem names_ofFlat_expand_bracedNames :
    ofFields bracedNames.fields = .ok bracedNames ∧ bracedNames.IsWhole ∧
      (∀ name, Record.dash ∉ (Expansion.calls numbered bracedNames.flat 0).value name) ∧
      (∀ name, brace ∉ (Expansion.calls numbered bracedNames.flat 0).value name) ∧
      (Record.ofFlat (Utf8.bytes delimiter) (expandM numbered bracedNames.flat 0).1.text).names =
        bracedNames.names := by
  have hfields : ofFields bracedNames.fields = .ok bracedNames := by decide
  have hwhole : bracedNames.IsWhole := List.forall_mem_cons.mpr
    ⟨Occurrence.exists_text (by decide : Piece.name? ['x', '}'] = some (['x'], [])),
      List.forall_mem_singleton.mpr
        (Occurrence.exists_text (by decide : Piece.name? " y \x7d".toList = some (['y'], [])))⟩
  have hcalls : ∀ call ∈ Expansion.calls numbered bracedNames.flat 0,
      Record.dash ∉ call.2.getD [] ∧ brace ∉ call.2.getD [] := by
    decide +kernel
  have hdash := Calls.not_mem_value fun call hcall => (hcalls call hcall).1
  have hbrace := Calls.not_mem_value fun call hcall => (hcalls call hcall).2
  refine ⟨hfields, hwhole, hdash, hbrace,
    (names_ofFlat_expand_iff numbered 0 hfields hwhole hdash hbrace).mpr ?_⟩
  simp only [Text.isLiteral_iff]
  decide

def methodTwice : Template := ⟨[("\x7bmethod\x7d", "\x7bmethod\x7d")]⟩

def alwaysGet : Resolver Unit := fun _ => pure (some (Utf8.bytes "GET"))

/-- The check of names lets a placeholder through, and the record has the answer for a name. -/
theorem names_ofFlat_expand_methodTwice :
    ofFields methodTwice.fields = .ok methodTwice ∧ methodTwice.IsWhole ∧
      (∀ name, ∀ b ∈ Utf8.bytes "-,\x7b\x7d",
        b ∉ (Expansion.calls alwaysGet methodTwice.flat ()).value name) ∧
      (Record.ofFlat (Utf8.bytes delimiter) (expandM alwaysGet methodTwice.flat ()).1.text).names =
        ["GET"] ∧
      ["GET"] ≠ methodTwice.names := by
  have hmethod : Piece.name? "method\x7d".toList = some ("method".toList, []) := by decide
  have hcalls : ∀ b ∈ Utf8.bytes "-,\x7b\x7d",
      ∀ call ∈ Expansion.calls alwaysGet methodTwice.flat (), b ∉ call.2.getD [] := by
    decide +kernel
  refine ⟨by decide, ?_, ?_, by decide +kernel, by decide⟩
  · exact List.forall_mem_singleton.mpr (Occurrence.exists_text hmethod)
  · exact fun name b hb => Calls.not_mem_value (hcalls b hb) name

end Template

end HttpJournal
