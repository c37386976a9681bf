import HttpJournal.Proofs.StandardLine
import HttpJournal.Proofs.Timestamp

namespace HttpJournal

theorem forBody?_defaultCharset : Charset.forBody? defaultCharset = some .utf8 := by decide +kernel

def Headers.bodyLabel (h : Headers) : Text := h.charset?.getD defaultCharset

theorem Headers.decodeBody_of_charset {h : Headers} {charset : Charset}
    (hcharset : Charset.forBody? h.bodyLabel = some charset) (bs : Bytes) :
    h.decodeBody bs = .ok (charset.decode bs) := by
  rw [bodyLabel] at hcharset
  -- its equation would reduce the table of the labels
  delta decodeBody
  simp only [hcharset]

theorem Headers.forBody?_bodyLabel {h : Headers}
    (hcharset : ∀ label, h.charset? = some label → Charset.forBody? label = some .utf8) :
    Charset.forBody? h.bodyLabel = some .utf8 := by
  cases hlabel : h.charset? with
  | none =>
    rw [bodyLabel, hlabel]
    exact forBody?_defaultCharset
  | some label =>
    rw [bodyLabel, hlabel]
    exact hcharset label hlabel

/-- A member holds what some octets are as JSON, if they are a truthy document of integers. -/
def Carries (members : List (String × Json.Value)) (name : String) (bs : Bytes) : Prop :=
  ∀ t v, bs = Utf8.encode t → Json.read? t = some v → v.isTruthy → v.Integral →
    ∃ s, members.lookup name = some (.string s) ∧ Json.read? s.toList = some v

namespace Formatter

variable {z : Zone} {c : Context} {res : Response}

theorem fieldText_of_charset {headers : Headers} {charset : Charset}
    (hcharset : Charset.forBody? headers.bodyLabel = some charset) (bs : Bytes) :
    Line.fieldText z (some headers) "res_body" bs = .ok (Json.readable (charset.decode bs)) := by
  change (do return Json.readable (← headers.decodeBody bs)) = _
  rw [headers.decodeBody_of_charset hcharset]
  rfl

/-- Only a response's body can fail to be a text, in an instant of a year of four digits. -/
theorem exists_fieldText_of_ne (hnow : c.now.IsPlain) (headers : Headers) :
    ∀ f ∈ c.fields, f.1 ≠ "res_body" → ∃ t, Line.fieldText z (some headers) f.1 f.2 = .ok t := by
  have htime : Line.fieldText z (some headers) "time" c.utcTime =
      .ok (z.toLocal (Instant.ofLocal (c.now.toLocal 0) 0 0)).text := by
    rw [← z.localize_utcText hnow, ← Utf8.decode_encode (Stamp.utcText c.now)]
    rfl
  simp only [Context.fields, List.forall_mem_cons, List.not_mem_nil, false_implies, implies_true,
    and_true]
  exact ⟨fun _ => ⟨_, rfl⟩, fun _ => ⟨_, rfl⟩, fun _ => ⟨_, htime⟩, fun _ => ⟨_, rfl⟩,
    fun _ => ⟨_, rfl⟩, fun h => absurd rfl h, fun _ => ⟨_, rfl⟩⟩

theorem exists_fieldText (hnow : c.now.IsPlain) {headers : Headers} {t : Text}
    (hbody : Line.fieldText z (some headers) "res_body" c.responseBody = .ok t) :
    ∀ f ∈ c.fields, ∃ t, Line.fieldText z (some headers) f.1 f.2 = .ok t := by
  intro f hf
  by_cases hname : f.1 = "res_body"
  · have hlookup : ∀ f ∈ c.fields, f.1 = "res_body" → f.2 = c.responseBody := by
      simp [Context.fields]
    rw [hname, hlookup f hf hname]
    exact ⟨t, hbody⟩
  · exact exists_fieldText_of_ne hnow headers f hf hname

/-- With a response, the fields that come back from the flat text are made a line. -/
theorem line_of_record (hres : c.exchange.response = some res)
    (hrecord : (standard z).record c = c.fields) :
    (standard z).line c = Line.ofRecord z (some res.headers) c.fields := by
  rw [line, hrecord, hres]
  rfl

theorem exists_format_of_record (hres : c.exchange.response = some res) (hnow : c.now.IsPlain)
    (hrecord : (standard z).record c = c.fields) {t : Text}
    (hbody : Line.fieldText z (some res.headers) "res_body" c.responseBody = .ok t) :
    ∃ l, Line.ofRecord z (some res.headers) c.fields = .ok l ∧
      (standard z).format c = .ok l.json ∧
      Json.read? l.json.toList =
        some (.object (l.map fun (name, text) => (name, .string text))) := by
  have hline := line_of_record hres hrecord
  obtain ⟨l, hl⟩ := Line.exists_ofRecord (exists_fieldText hnow hbody)
  have hformat : (standard z).format c = .ok l.json := by
    rw [format, hline, hl]
    rfl
  obtain ⟨l', hl', hread⟩ := document_of_format hformat
  rw [hline, hl] at hl'
  obtain rfl := Except.ok.inj hl'
  exact ⟨l, hl, hformat, hread⟩

theorem carries_of_fieldText {headers : Option Headers} {l : Line} {r : Record} {name : String}
    {bs : Bytes} (hl : Line.ofRecord z headers r = .ok l) (hname : r.lookup name = some bs)
    (htext : Line.fieldText z headers name bs = .ok (Json.readable (Utf8.decode bs))) :
    Carries (l.map fun (name, text) => (name, .string text)) name bs := by
  rintro t v rfl hread htruthy hintegral
  obtain ⟨t', ht', hlookup⟩ := Line.lookup_of_ofRecord hl hname
  rw [htext, Utf8.decode_encode] at ht'
  obtain rfl := Except.ok.inj ht'
  refine ⟨.ofList (Json.readable t), ?_, ?_⟩
  · rw [Line.lookup_document, hlookup]
    rfl
  · rw [String.toList_ofList]
    exact Json.read?_readable hread htruthy hintegral

/-- Where the delimiter stays out of the values, a line of the standard template carries the JSON of
both bodies: reading the line, and then the member for a body, gives the document of the body. -/
theorem carries_bodies (z : Zone) (hres : c.exchange.response = some res) (hnow : c.now.IsPlain)
    (hfree : ∀ f ∈ c.fields, ¬Utf8.bytes delimiter <:+: f.2)
    (htails : ∀ value ∈ [c.method, c.uri, c.exchange.request.body.octets, c.responseBody],
      ¬Utf8.bytes "-0" <:+ value)
    (hcharset : ∀ label, res.headers.charset? = some label →
      Charset.forBody? label = some .utf8) :
    ∃ line members, (standard z).format c = .ok line ∧
      Json.read? line.toList = some (.object members) ∧
      Carries members "req_body" c.exchange.request.body.octets ∧
      Carries members "res_body" c.responseBody := by
  have hrecord : (standard z).record c = c.fields := (record_standard_iff hfree).mpr htails
  have hbody : Line.fieldText z (some res.headers) "res_body" c.responseBody =
      .ok (Json.readable (Utf8.decode c.responseBody)) :=
    fieldText_of_charset (Headers.forBody?_bodyLabel hcharset) c.responseBody
  obtain ⟨l, hl, hformat, hread⟩ := exists_format_of_record hres hnow hrecord hbody
  refine ⟨l.json, _, hformat, hread, ?_, ?_⟩
  · exact carries_of_fieldText hl rfl rfl
  · exact carries_of_fieldText hl rfl hbody

def smallDocument : Json.Value :=
  .object [("a", .array [.number (.natural 1), .number (.negative 2)]), ("\x7b", .string "-0,")]

def jsonResponse : Response where
  status := .ok
  version := .http11
  headers := [(.contentType, ⟨Utf8.bytes "text/json; charset=utf-8", by decide⟩)]
  id := 0
  time := ⟨0, 0⟩
  body := .kept (Utf8.encode smallDocument.text)

def jsonExchange : Context :=
  atEpoch (bareRequest ⟨.asterisk, rfl⟩ (Utf8.encode smallDocument.text)) (some jsonResponse)

theorem fits_smallDocument : smallDocument.Fits Json.maxDepth := by
  refine .object (List.forall_mem_cons.mpr ⟨.array (List.forall_mem_cons.mpr ⟨.number ?_,
    List.forall_mem_singleton.mpr (.number ?_)⟩), List.forall_mem_singleton.mpr (.string _)⟩) ?_
  all_goals decide

theorem integral_smallDocument : smallDocument.Integral := by
  refine .object (List.forall_mem_cons.mpr ⟨.array (List.forall_mem_cons.mpr ⟨.number ?_,
    List.forall_mem_singleton.mpr (.number ?_)⟩), List.forall_mem_singleton.mpr (.string _)⟩)
  all_goals
    intro x h
    cases h

theorem carries_bodies_jsonExchange :
    ∃ line members s t, (standard (.greenwich "UTC")).format jsonExchange = .ok line ∧
      Json.read? line.toList = some (.object members) ∧
      members.lookup "req_body" = some (.string s) ∧ Json.read? s.toList = some smallDocument ∧
      members.lookup "res_body" = some (.string t) ∧ Json.read? t.toList = some smallDocument := by
  have hnow : jsonExchange.now.IsPlain := ⟨by decide, by decide⟩
  have hfree : ∀ f ∈ jsonExchange.fields, ¬Utf8.bytes delimiter <:+: f.2 := by decide +kernel
  have htails : ∀ value ∈ [jsonExchange.method, jsonExchange.uri,
      jsonExchange.exchange.request.body.octets, jsonExchange.responseBody],
      ¬Utf8.bytes "-0" <:+ value := by
    decide +kernel
  have hcharset : ∀ label, jsonResponse.headers.charset? = some label →
      Charset.forBody? label = some .utf8 := by
    have hlabel : jsonResponse.headers.charset? = some "utf-8".toList := by decide +kernel
    rw [hlabel]
    rintro label ⟨⟩
    decide +kernel
  obtain ⟨line, members, hformat, hread, hreq, hres⟩ :=
    carries_bodies (.greenwich "UTC") rfl hnow hfree htails hcharset
  have htext := fits_smallDocument.read?_text
  obtain ⟨s, hs, hs'⟩ := hreq smallDocument.text smallDocument rfl htext rfl integral_smallDocument
  obtain ⟨t, ht, ht'⟩ := hres smallDocument.text smallDocument rfl htext rfl integral_smallDocument
  exact ⟨line, members, s, t, hformat, hread, hs, hs', ht, ht'⟩

end Formatter

end HttpJournal
