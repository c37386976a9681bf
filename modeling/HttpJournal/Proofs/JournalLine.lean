import HttpJournal.Formatter
import HttpJournal.Proofs.JsonValue

namespace HttpJournal

namespace Line

theorem ofRecord_cons (z : Zone) (headers : Option Headers) (name : String) (bs : Bytes)
    (r : Record) :
    ofRecord z headers ((name, bs) :: r) = do
      let t ← fieldText z headers name bs
      let l ← ofRecord z headers r
      return (name, .ofList t) :: l := by
  simp only [ofRecord, List.mapM_cons]
  cases fieldText z headers name bs <;> rfl

theorem ofRecord_cons_ok {z : Zone} {headers : Option Headers} {name : String} {bs : Bytes}
    {r : Record} {l : Line} (h : ofRecord z headers ((name, bs) :: r) = .ok l) :
    ∃ t l', fieldText z headers name bs = .ok t ∧ ofRecord z headers r = .ok l' ∧
      l = (name, .ofList t) :: l' := by
  rw [ofRecord_cons] at h
  cases ht : fieldText z headers name bs with
  | error e =>
    rw [ht] at h
    cases h
  | ok t =>
    cases hl : ofRecord z headers r with
    | error e =>
      rw [ht, hl] at h
      cases h
    | ok l' =>
      rw [ht, hl] at h
      exact ⟨t, l', rfl, rfl, (Except.ok.inj h).symm⟩

theorem exists_ofRecord {z : Zone} {headers : Option Headers} {r : Record}
    (h : ∀ field ∈ r, ∃ t, fieldText z headers field.1 field.2 = .ok t) :
    ∃ l, ofRecord z headers r = .ok l := by
  induction r with
  | nil => exact ⟨[], rfl⟩
  | cons field r ih =>
    obtain ⟨name, bs⟩ := field
    obtain ⟨t, ht⟩ := h (name, bs) List.mem_cons_self
    obtain ⟨l, hl⟩ := ih fun field hfield => h field (List.mem_cons_of_mem _ hfield)
    rw [ofRecord_cons, ht, hl]
    exact ⟨(name, .ofList t) :: l, rfl⟩

theorem names_of_ofRecord {z : Zone} {headers : Option Headers} {r : Record} {l : Line}
    (h : ofRecord z headers r = .ok l) : l.names = r.names := by
  induction r generalizing l with
  | nil =>
    obtain rfl : l = [] := (Except.ok.inj h).symm
    rfl
  | cons field r ih =>
    obtain ⟨t, l', -, hl, rfl⟩ := ofRecord_cons_ok h
    exact congrArg (field.1 :: ·) (ih hl)

/-- A field of a record has its text in the line. -/
theorem lookup_of_ofRecord {z : Zone} {headers : Option Headers} {r : Record} {l : Line}
    (h : ofRecord z headers r = .ok l) {name : String} {bs : Bytes}
    (hname : r.lookup name = some bs) :
    ∃ t, fieldText z headers name bs = .ok t ∧ l.lookup name = some (.ofList t) := by
  induction r generalizing l with
  | nil => cases hname
  | cons field r ih =>
    obtain ⟨n, b⟩ := field
    obtain ⟨t, l', ht, hl, rfl⟩ := ofRecord_cons_ok h
    by_cases hn : name = n
    · subst hn
      rw [List.lookup_cons_self] at hname
      obtain rfl := Option.some.inj hname
      exact ⟨t, ht, List.lookup_cons_self⟩
    · have hne : (name == n) = false := by simpa using hn
      rw [List.lookup_cons, hne] at hname ⊢
      exact ih hl hname

def document (l : Line) : Json.Value := .object (l.map fun (name, text) => (name, .string text))

theorem names_document (l : Line) :
    (l.map fun (name, text) => (name, Json.Value.string text)).map Prod.fst = l.names := by
  simp [names, Function.comp_def]

theorem fits_document {l : Line} (h : l.names.Nodup) : l.document.Fits Json.maxDepth := by
  apply Json.Value.Fits.object
  · rw [List.forall_mem_map]
    exact fun m _ => .string m.2
  · rwa [names_document]

theorem lookup_document (l : Line) (name : String) :
    (l.map fun (name, text) => (name, Json.Value.string text)).lookup name =
      (l.lookup name).map Json.Value.string := by
  induction l with
  | nil => rfl
  | cons m l ih =>
    rw [List.map_cons, List.lookup_cons, List.lookup_cons]
    cases name == m.1
    · exact ih
    · rfl

theorem toList_json (l : Line) : l.json.toList = l.document.text := by
  rw [json, String.toList_ofList]
  rfl

end Line

namespace Formatter

variable {f : Formatter} {c : Context} {line : String}

theorem line_of_format (h : f.format c = .ok line) : ∃ l, f.line c = .ok l ∧ l.json = line := by
  rw [format] at h
  cases hl : f.line c with
  | error e =>
    rw [hl] at h
    cases h
  | ok l =>
    rw [hl] at h
    exact ⟨l, rfl, Except.ok.inj h⟩

theorem nodup_names_line {l : Line} (h : f.line c = .ok l) : l.names.Nodup := by
  rw [Line.names_of_ofRecord h]
  exact Assoc.nodup_ofList _

theorem document_of_format (h : f.format c = .ok line) :
    ∃ l, f.line c = .ok l ∧ Json.read? line.toList = some l.document := by
  obtain ⟨l, hl, rfl⟩ := line_of_format h
  rw [Line.toList_json]
  exact ⟨l, hl, (Line.fits_document (nodup_names_line hl)).read?_text⟩

/-- A journal line has no control character, and it reads as the object of the fields of the line,
in their order and each once. -/
theorem read?_format (h : f.format c = .ok line) :
    (∀ ch ∈ line.toList, 0x20 ≤ ch.toNat) ∧
      ∃ l, f.line c = .ok l ∧ l.names.Nodup ∧ Json.read? line.toList =
        some (.object (l.map fun (name, text) => (name, .string text))) := by
  obtain ⟨l, hl, rfl⟩ := line_of_format h
  have hnodup := nodup_names_line hl
  have hfits := Line.fits_document hnodup
  rw [Line.toList_json]
  exact ⟨hfits.le_of_mem_text, l, hl, hnodup, hfits.read?_text⟩

def bareRequest (uri : Uri) (body : Bytes) : Request where
  method := ⟨"GET", by decide⟩
  uri := uri
  version := .http11
  headers := []
  id := 0
  time := ⟨0, 0⟩
  body := .kept body

def atEpoch (request : Request) (response : Option Response) : Context where
  exchange := ⟨request, response, none⟩
  now := ⟨0, 0⟩
  zone := .greenwich "UTC"
  hostName := "localhost"

def bodyOnly : Formatter := ⟨⟨[("body", "\x7breq_body\x7d")]⟩, .greenwich "UTC"⟩

theorem read?_format_bodyOnly :
    ∃ line, bodyOnly.format
        (atEpoch (bareRequest ⟨.asterisk, rfl⟩ (Utf8.bytes "\"\n,")) none) = .ok line ∧
      (∀ ch ∈ line.toList, 0x20 ≤ ch.toNat) ∧
        ∃ l, bodyOnly.line
            (atEpoch (bareRequest ⟨.asterisk, rfl⟩ (Utf8.bytes "\"\n,")) none) = .ok l ∧
          l.names.Nodup ∧ Json.read? line.toList =
            some (.object (l.map fun (name, text) => (name, .string text))) := by
  have h : bodyOnly.format (atEpoch (bareRequest ⟨.asterisk, rfl⟩ (Utf8.bytes "\"\n,")) none) =
      .ok "\x7b\"body\":\"\\\"\\n,\"\x7d" := by
    decide +kernel
  exact ⟨_, h, read?_format h⟩

end Formatter

end HttpJournal
