import HttpJournal.Proofs.StampForm
import HttpJournal.Proofs.UnkeptBody

namespace HttpJournal

theorem Zone.localize_eq_error_iff (z : Zone) {t : Text} {e : LineError} :
    z.localize t = .error e ↔ ¬Stamp.IsTimestamp (Text.trim t) ∧
      ∃ cause, Stamp.rfc3339 (Text.trim t) = .error cause ∧ e = .timestamp (Text.trim t) cause := by
  rw [localize, Stamp.isTimestamp_iff]
  cases Stamp.rfc3339 (Text.trim t) with
  | ok i => simp
  | error cause =>
    cases Stamp.plain? (Text.trim t) with
    | some reading => simp
    | none => simp [eq_comm]

/-- A label that is not known, or that is known for a charset which is not decoded at all. -/
def Charset.IsUnsupported (label : Text) : Prop :=
  ofLabel? (.ofList label) = none ∨ ofLabel? (.ofList label) = some .replacement

theorem Charset.forBody?_eq_none_iff {label : Text} :
    forBody? label = none ↔ IsUnsupported label := by
  rw [forBody?, IsUnsupported]
  cases ofLabel? (.ofList label) <;> simp

theorem Headers.decodeBody_eq_error_iff {h : Headers} {bs : Bytes} {e : LineError} :
    h.decodeBody bs = .error e ↔
      Charset.IsUnsupported h.bodyLabel ∧ e = .unsupportedCharset h.bodyLabel := by
  rw [← Charset.forBody?_eq_none_iff]
  cases hcharset : Charset.forBody? h.bodyLabel with
  | none => simp [h.decodeBody_of_none hcharset, eq_comm]
  | some charset => simp [h.decodeBody_of_charset hcharset]

namespace Line

/-- A field that has no text, and the error for it. -/
inductive Refused (headers : Option Headers) (f : String × Bytes) (e : LineError) : Prop
  | time (t : Text) (cause : Stamp.Error) (hname : f.1 = "time")
    (ht : t = Text.trim (Utf8.decode f.2)) (hstamp : ¬Stamp.IsTimestamp t)
    (hcause : Stamp.rfc3339 t = .error cause) (he : e = .timestamp t cause)
  | body (h : Headers) (hname : f.1 = "res_body") (hheaders : headers = some h)
    (hlabel : Charset.IsUnsupported h.bodyLabel) (he : e = .unsupportedCharset h.bodyLabel)

variable {z : Zone} {headers : Option Headers} {name : String} {bs : Bytes} {r : Record}
  {e : LineError}

theorem fieldText_time (z : Zone) (headers : Option Headers) (bs : Bytes) :
    fieldText z headers "time" bs = z.localize (Utf8.decode bs) := by
  cases headers <;> rfl

def IsVerbatim (headers : Option Headers) (name : String) : Prop :=
  name ≠ "time" ∧ name ≠ "req_body" ∧ (name = "res_body" → headers = none)

theorem fieldText_of_isVerbatim (h : IsVerbatim headers name) :
    fieldText z headers name bs = .ok (Utf8.decode bs) := by
  unfold fieldText
  split
  · exact absurd rfl h.1
  · exact absurd rfl h.2.1
  · cases h.2.2 rfl
  · rfl

theorem exists_fieldText (z : Zone) (htime : name ≠ "time")
    (hbody : name = "res_body" → headers = none) (bs : Bytes) :
    ∃ t, fieldText z headers name bs = .ok t := by
  by_cases hrequest : name = "req_body"
  · subst hrequest
    cases headers <;> exact ⟨_, rfl⟩
  · exact ⟨_, fieldText_of_isVerbatim ⟨htime, hrequest, hbody⟩⟩

theorem not_refused {f : String × Bytes} (htime : f.1 ≠ "time")
    (hbody : f.1 = "res_body" → headers = none) : ¬Refused headers f e := by
  rintro (⟨t, cause, hname, -⟩ | ⟨h, hname, hheaders, -⟩)
  · exact htime hname
  · rw [hbody hname] at hheaders
    cases hheaders

theorem time_eq_error_iff :
    fieldText z headers "time" bs = .error e ↔ Refused headers ("time", bs) e := by
  rw [fieldText_time, z.localize_eq_error_iff]
  constructor
  · rintro ⟨hstamp, cause, hcause, he⟩
    exact .time _ cause rfl rfl hstamp hcause he
  · rintro (⟨t, cause, -, rfl, hstamp, hcause, he⟩ | ⟨h, hname, -⟩)
    · exact ⟨hstamp, cause, hcause, he⟩
    · simp at hname

theorem body_eq_error_iff {h : Headers} :
    fieldText z (some h) "res_body" bs = .error e ↔ Refused (some h) ("res_body", bs) e := by
  have htext : fieldText z (some h) "res_body" bs = (do return Json.readable (← h.decodeBody bs)) :=
    rfl
  have hdecode : fieldText z (some h) "res_body" bs = .error e ↔ h.decodeBody bs = .error e := by
    rw [htext]
    cases h.decodeBody bs with
    | error e' => exact Iff.rfl
    | ok t => exact ⟨nofun, nofun⟩
  rw [hdecode, Headers.decodeBody_eq_error_iff]
  constructor
  · rintro ⟨hlabel, he⟩
    exact .body h rfl rfl hlabel he
  · rintro (⟨t, cause, hname, -⟩ | ⟨h', -, hheaders, hlabel, he⟩)
    · simp at hname
    · obtain rfl := Option.some.inj hheaders
      exact ⟨hlabel, he⟩

theorem fieldText_eq_error_iff {f : String × Bytes} :
    fieldText z headers f.1 f.2 = .error e ↔ Refused headers f e := by
  obtain ⟨name, bs⟩ := f
  by_cases htime : name = "time"
  · subst htime
    exact time_eq_error_iff
  by_cases hbody : name = "res_body" → headers = none
  · obtain ⟨t, ht⟩ := exists_fieldText z htime hbody bs
    simp [ht, not_refused (f := (name, bs)) htime hbody]
  · -- what is left is a body for which there are headers
    rw [Classical.not_imp] at hbody
    obtain ⟨rfl, hheaders⟩ := hbody
    obtain ⟨h, rfl⟩ := Option.ne_none_iff_exists'.mp hheaders
    exact body_eq_error_iff

theorem exists_fieldText_iff {f : String × Bytes} :
    (∃ t, fieldText z headers f.1 f.2 = .ok t) ↔ ∀ e, ¬Refused headers f e := by
  simp only [← fieldText_eq_error_iff (z := z)]
  cases fieldText z headers f.1 f.2 <;> simp

/-- A record is refused for the first of its fields that is. -/
theorem ofRecord_eq_error_iff :
    ofRecord z headers r = .error e ↔ ∃ before f after, r = before ++ f :: after ∧
      (∀ g ∈ before, ∀ e', ¬Refused headers g e') ∧ Refused headers f e := by
  constructor
  · intro h
    induction r with
    | nil => cases h
    | cons f r ih =>
      rw [ofRecord_cons] at h
      cases ht : fieldText z headers f.1 f.2 with
      | error e' =>
        rw [ht] at h
        cases h
        exact ⟨[], f, r, rfl, List.forall_mem_nil _, fieldText_eq_error_iff.mp ht⟩
      | ok t =>
        rw [ht] at h
        cases hl : ofRecord z headers r with
        | ok l =>
          rw [hl] at h
          cases h
        | error e' =>
          rw [hl] at h
          cases h
          obtain ⟨before, g, after, rfl, hbefore, hg⟩ := ih hl
          exact ⟨f :: before, g, after, rfl,
            List.forall_mem_cons.mpr ⟨exists_fieldText_iff.mp ⟨t, ht⟩, hbefore⟩, hg⟩
  · rintro ⟨before, f, after, rfl, hbefore, hf⟩
    exact ofRecord_error (fun g hg => exists_fieldText_iff.mpr (hbefore g hg))
      (fieldText_eq_error_iff.mpr hf)

theorem exists_fieldText_of_mem {l : Line} (h : ofRecord z headers r = .ok l) :
    ∀ f ∈ r, ∃ t, fieldText z headers f.1 f.2 = .ok t := by
  induction r generalizing l with
  | nil => exact List.forall_mem_nil _
  | cons f r ih =>
    obtain ⟨t, l', ht, hl, -⟩ := ofRecord_cons_ok h
    exact List.forall_mem_cons.mpr ⟨⟨t, ht⟩, ih hl⟩

theorem exists_error_iff :
    (∃ e, ofRecord z headers r = .error e) ↔ ∃ f ∈ r, ∃ e, Refused headers f e := by
  constructor
  · rintro ⟨e, h⟩
    obtain ⟨before, f, after, rfl, -, hf⟩ := ofRecord_eq_error_iff.mp h
    exact ⟨f, List.mem_append_right _ List.mem_cons_self, e, hf⟩
  · rintro ⟨f, hmem, e, hf⟩
    cases h : ofRecord z headers r with
    | error e' => exact ⟨e', rfl⟩
    | ok l =>
      -- a line has a text for every field, and a refused one has none
      exact absurd hf (exists_fieldText_iff.mp (exists_fieldText_of_mem h f hmem) e)

theorem exists_refused_iff :
    (∃ f ∈ r, ∃ e, Refused headers f e) ↔
      (∃ bs, ("time", bs) ∈ r ∧ ¬Stamp.IsTimestamp (Text.trim (Utf8.decode bs))) ∨
        ∃ h bs, headers = some h ∧ ("res_body", bs) ∈ r ∧ Charset.IsUnsupported h.bodyLabel := by
  constructor
  · rintro ⟨⟨name, bs⟩, hmem, e, ⟨t, cause, rfl, rfl, hstamp, -⟩ | ⟨h, rfl, hheaders, hlabel, -⟩⟩
    · exact Or.inl ⟨bs, hmem, hstamp⟩
    · exact Or.inr ⟨h, bs, hheaders, hmem, hlabel⟩
  · rintro (⟨bs, hmem, hstamp⟩ | ⟨h, bs, hheaders, hmem, hlabel⟩)
    · cases hread : Stamp.rfc3339 (Text.trim (Utf8.decode bs)) with
      | ok i => exact absurd (Stamp.isTimestamp_iff.mpr (Or.inl ⟨i, hread⟩)) hstamp
      | error cause => exact ⟨_, hmem, _, .time _ cause rfl rfl hstamp hread rfl⟩
    · exact ⟨_, hmem, _, .body h rfl hheaders hlabel rfl⟩

def member (z : Zone) (headers : Option Headers) (f : String × Bytes) : String × String :=
  (f.1, .ofList ((fieldText z headers f.1 f.2).toOption.getD []))

theorem eq_map_of_ofRecord {l : Line} (h : ofRecord z headers r = .ok l) :
    l = r.map (member z headers) := by
  induction r generalizing l with
  | nil => exact (Except.ok.inj h).symm
  | cons f r ih =>
    obtain ⟨t, l', ht, hl, rfl⟩ := ofRecord_cons_ok h
    rw [List.map_cons, ← ih hl, member, ht]
    rfl

theorem getElem?_of_ofRecord {l : Line} (h : ofRecord z headers r = .ok l) (i : Nat) :
    l[i]? = r[i]?.map (member z headers) := by
  rw [eq_map_of_ofRecord h, List.getElem?_map]

/-- There is no line exactly when a time is no timestamp or a response's body has a charset that is
not supported, and the error is that of the first such field. A line has the fields of the record in
their order, those that are neither a time nor a body as they are, and equal fields of two records
have equal texts wherever they stand. -/
theorem ofRecord_refuses_first (z : Zone) (headers : Option Headers) (r : Record) :
    ((∃ e, ofRecord z headers r = .error e) ↔
      (∃ bs, ("time", bs) ∈ r ∧ ¬Stamp.IsTimestamp (Text.trim (Utf8.decode bs))) ∨
        ∃ h bs, headers = some h ∧ ("res_body", bs) ∈ r ∧ Charset.IsUnsupported h.bodyLabel) ∧
    (∀ e, ofRecord z headers r = .error e ↔ ∃ before f after, r = before ++ f :: after ∧
      (∀ g ∈ before, ∀ e', ¬Refused headers g e') ∧ Refused headers f e) ∧
    ∀ l, ofRecord z headers r = .ok l →
      l.names = r.names ∧
      (∀ (i : Nat) name bs, r[i]? = some (name, bs) → IsVerbatim headers name →
        l[i]? = some (name, Utf8.text bs)) ∧
      ∀ r' l', ofRecord z headers r' = .ok l' → ∀ i j : Nat, r[i]? = r'[j]? → l[i]? = l'[j]? := by
  refine ⟨exists_error_iff.trans exists_refused_iff, fun e => ofRecord_eq_error_iff, ?_⟩
  intro l hl
  refine ⟨names_of_ofRecord hl, ?_, ?_⟩
  · intro i name bs hfield hverbatim
    rw [getElem?_of_ofRecord hl, hfield, Option.map_some, member,
      fieldText_of_isVerbatim hverbatim]
    rfl
  · intro r' l' hl' i j hfield
    rw [getElem?_of_ofRecord hl, getElem?_of_ofRecord hl', hfield]

def klingon : Headers := [(.contentType, ⟨Utf8.bytes "text/plain;charset=klingon", by decide⟩)]

/-- A time and a body that have no text, in either order, and the same body without a response. -/
theorem ofRecord_refuses_first_klingon :
    ofRecord (.greenwich "UTC") (some klingon) [("res_body", []), ("time", Utf8.bytes "now")] =
        .error (.unsupportedCharset "klingon".toList) ∧
      ofRecord (.greenwich "UTC") (some klingon) [("time", Utf8.bytes "now"), ("res_body", [])] =
        .error (.timestamp "now".toList .tooShort) ∧
      ∃ l, ofRecord (.greenwich "UTC") none [("res_body", [0xFF])] = .ok l ∧
        l[0]? = some ("res_body", "\uFFFD") := by
  have hlabel : klingon.bodyLabel = "klingon".toList := by decide +kernel
  have hunsupported : Charset.IsUnsupported klingon.bodyLabel := by
    rw [hlabel]
    exact Charset.forBody?_eq_none_iff.mp (by decide +kernel)
  have hbody : Refused (some klingon) ("res_body", []) (.unsupportedCharset "klingon".toList) :=
    .body klingon rfl rfl hunsupported (by rw [hlabel])
  have htime : Refused (some klingon) ("time", Utf8.bytes "now")
      (.timestamp "now".toList .tooShort) :=
    .time _ .tooShort rfl rfl (by decide) (by decide) (by decide)
  obtain ⟨l, hl⟩ : ∃ l, ofRecord (.greenwich "UTC") none [("res_body", [0xFF])] = .ok l := ⟨_, rfl⟩
  have hverbatim : IsVerbatim none "res_body" := ⟨by decide, by decide, fun _ => rfl⟩
  exact ⟨((ofRecord_refuses_first _ _ _).2.1 _).mpr ⟨[], _, _, rfl, List.forall_mem_nil _, hbody⟩,
    ((ofRecord_refuses_first _ _ _).2.1 _).mpr ⟨[], _, _, rfl, List.forall_mem_nil _, htime⟩,
    l, hl, ((ofRecord_refuses_first _ _ _).2.2 l hl).2.1 0 "res_body" [0xFF] rfl hverbatim⟩

end Line

end HttpJournal
