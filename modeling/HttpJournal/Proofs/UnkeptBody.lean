import HttpJournal.Proofs.Charset
import HttpJournal.Proofs.JsonBody

namespace HttpJournal

theorem Headers.decodeBody_of_none {h : Headers} (hlabel : Charset.forBody? h.bodyLabel = none)
    (bs : Bytes) : h.decodeBody bs = .error (.unsupportedCharset h.bodyLabel) := by
  rw [bodyLabel] at hlabel
  delta decodeBody
  simp only [hlabel]
  rfl

def notLoggeableText : Text := "RESPONSE_NOT_LOGGEABLE".toList

theorem decode_notLoggeable {charset : Charset}
    (hutf16 : ∀ bigEndian, charset ≠ .utf16 bigEndian) (hreplacement : charset ≠ .replacement) :
    charset.decode Context.notLoggeable = notLoggeableText := by
  have hprintable : ∀ b ∈ Context.notLoggeable, Decode.IsPrintable b := by decide +kernel
  rw [(Charset.keepsPrintable hutf16 hreplacement).eq_map hprintable]
  decide

theorem readable_notLoggeable : Json.readable notLoggeableText = notLoggeableText := by
  decide +kernel

theorem readable_utf16_ne : ∀ bigEndian,
    Json.readable (Decode.utf16 bigEndian Context.notLoggeable) ≠ notLoggeableText := by
  decide +kernel

theorem readable_decode_iff {charset : Charset} (hreplacement : charset ≠ .replacement) :
    Json.readable (charset.decode Context.notLoggeable) = notLoggeableText ↔
      ∀ bigEndian, charset ≠ .utf16 bigEndian := by
  constructor
  · rintro h bigEndian rfl
    exact readable_utf16_ne bigEndian h
  · intro hutf16
    rw [decode_notLoggeable hutf16 hreplacement, readable_notLoggeable]

theorem Line.ofRecord_error {z : Zone} {headers : Option Headers} {before after : Record}
    {name : String} {bs : Bytes} {e : LineError}
    (hbefore : ∀ f ∈ before, ∃ t, fieldText z headers f.1 f.2 = .ok t)
    (h : fieldText z headers name bs = .error e) :
    ofRecord z headers (before ++ (name, bs) :: after) = .error e := by
  induction before with
  | nil =>
    rw [List.nil_append, ofRecord_cons, h]
    rfl
  | cons f before ih =>
    rw [List.forall_mem_cons] at hbefore
    obtain ⟨t, ht⟩ := hbefore.1
    rw [List.cons_append, ofRecord_cons, ht, ih hbefore.2]
    rfl

namespace Formatter

variable {z : Zone} {c : Context} {res : Response}

theorem responseBody_notKept (hres : c.exchange.response = some res) (hbody : res.body = .notKept) :
    c.responseBody = Context.notLoggeable := by
  rw [Context.responseBody, Context.ofResponse, hres]
  simp only [hbody]
  rfl

theorem record_of_tails (hfree : ∀ f ∈ c.fields, ¬Delimiter.octets <:+: f.2)
    (htails : ∀ f ∈ c.fields, ¬Delimiter.half <:+ f.2) : (standard z).record c = c.fields :=
  (record_standard_iff hfree).mpr <|
    (tails_iff c).mp fun f hf => htails f (List.mem_of_mem_dropLast hf)

theorem fieldText_of_none {headers : Headers}
    (hlabel : Charset.forBody? headers.bodyLabel = none) (bs : Bytes) :
    Line.fieldText z (some headers) "res_body" bs =
      .error (.unsupportedCharset headers.bodyLabel) := by
  change (do return Json.readable (← headers.decodeBody bs)) = _
  rw [headers.decodeBody_of_none hlabel]
  rfl

theorem format_of_none (hres : c.exchange.response = some res) (hnow : c.now.IsPlain)
    (hrecord : (standard z).record c = c.fields)
    (hlabel : Charset.forBody? res.headers.bodyLabel = none) :
    (standard z).format c = .error (.unsupportedCharset res.headers.bodyLabel) := by
  have hfields :
      c.fields = c.fields.take 5 ++ ("res_body", c.responseBody) :: [("error", c.error)] := rfl
  have hnames : ∀ f ∈ c.fields.take 5, f.1 ≠ "res_body" := by simp [Context.fields]
  have hline : Line.ofRecord z (some res.headers) c.fields =
      .error (.unsupportedCharset res.headers.bodyLabel) := by
    rw [hfields]
    apply Line.ofRecord_error
    · exact fun f hf =>
        exists_fieldText_of_ne hnow res.headers f (List.mem_of_mem_take hf) (hnames f hf)
    · exact fieldText_of_none hlabel c.responseBody
  rw [format, line_of_record hres hrecord, hline]
  rfl

/-- A line that tells of a response's body that it was not kept. -/
def ShowsUnkept (line : String) : Prop :=
  ∃ members, Json.read? line.toList = some (.object members) ∧
    members.lookup "res_body" = some (.string "RESPONSE_NOT_LOGGEABLE")

theorem exists_format_of_charset (hres : c.exchange.response = some res)
    (hbody : res.body = .notKept) (hnow : c.now.IsPlain)
    (hrecord : (standard z).record c = c.fields) {charset : Charset}
    (hcharset : Charset.forBody? res.headers.bodyLabel = some charset) :
    ∃ line, (standard z).format c = .ok line ∧
      (ShowsUnkept line ↔ ∀ bigEndian, charset ≠ .utf16 bigEndian) := by
  have htext : Line.fieldText z (some res.headers) "res_body" c.responseBody =
      .ok (Json.readable (charset.decode Context.notLoggeable)) := by
    rw [responseBody_notKept hres hbody]
    exact fieldText_of_charset hcharset _
  obtain ⟨l, hl, hformat, hread⟩ := exists_format_of_record hres hnow hrecord htext
  obtain ⟨t, ht, hlookup⟩ := Line.lookup_of_ofRecord hl (rfl : c.fields.lookup "res_body" = _)
  rw [htext] at ht
  obtain rfl := Except.ok.inj ht
  refine ⟨l.json, hformat, ?_⟩
  rw [← readable_decode_iff (Charset.ne_replacement_of_forBody? hcharset)]
  constructor
  · rintro ⟨members, hmembers, hbodyText⟩
    rw [hread] at hmembers
    obtain rfl := Json.Value.object.inj (Option.some.inj hmembers)
    rw [Line.lookup_document, hlookup, Option.map_some] at hbodyText
    have htold := congrArg String.toList (Json.Value.string.inj (Option.some.inj hbodyText))
    rwa [String.toList_ofList] at htold
  · intro h
    refine ⟨_, hread, ?_⟩
    rw [Line.lookup_document, hlookup, h]
    rfl

/-- For a response's body that was not kept, and where the delimiter stays out of the values, there
is a line exactly when the label of the response names a charset, and the line tells that the body
was not kept exactly when this charset is not UTF-16. -/
theorem showsUnkept_iff (z : Zone) (hres : c.exchange.response = some res)
    (hbody : res.body = .notKept) (hnow : c.now.IsPlain)
    (hfree : ∀ f ∈ c.fields, ¬Utf8.bytes delimiter <:+: f.2)
    (htails : ∀ f ∈ c.fields, ¬Utf8.bytes "-0" <:+ f.2) :
    ((∃ line, (standard z).format c = .ok line) ↔
        (Charset.forBody? res.headers.bodyLabel).isSome) ∧
      ((∃ line, (standard z).format c = .ok line ∧ ShowsUnkept line) ↔
        ∃ charset, Charset.forBody? res.headers.bodyLabel = some charset ∧
          ∀ bigEndian, charset ≠ .utf16 bigEndian) := by
  have hrecord : (standard z).record c = c.fields := record_of_tails hfree htails
  cases hlabel : Charset.forBody? res.headers.bodyLabel with
  | none => simp [format_of_none hres hnow hrecord hlabel]
  | some charset =>
    obtain ⟨line, hformat, hshows⟩ := exists_format_of_charset hres hbody hnow hrecord hlabel
    simp [hformat, hshows]

def unkeptResponse (contentType : HeaderValue) : Response where
  status := .ok
  version := .http11
  headers := [(.contentType, contentType)]
  id := 0
  time := ⟨0, 0⟩
  body := .notKept

def unkeptExchange (contentType : HeaderValue) : Context :=
  atEpoch rootExchange.exchange.request (some (unkeptResponse contentType))

def shiftJisType : HeaderValue := ⟨Utf8.bytes "text/html; charset=Shift_JIS", by decide⟩

def utf16Type : HeaderValue := ⟨Utf8.bytes "text/html; charset=utf-16le", by decide⟩

def unknownType : HeaderValue := ⟨Utf8.bytes "text/html; charset=unknown", by decide⟩

theorem isPlain_unkeptExchange (contentType : HeaderValue) :
    (unkeptExchange contentType).now.IsPlain := by
  change Instant.IsPlain ⟨0, 0⟩
  exact ⟨by decide, by decide⟩

/-- The type of a response is not among the values of a line. -/
theorem fields_unkeptExchange (contentType : HeaderValue) :
    (∀ f ∈ (unkeptExchange contentType).fields, ¬Utf8.bytes delimiter <:+: f.2) ∧
      ∀ f ∈ (unkeptExchange contentType).fields, ¬Utf8.bytes "-0" <:+ f.2 := by
  change (∀ f ∈ (unkeptExchange utf16Type).fields, _) ∧ ∀ f ∈ (unkeptExchange utf16Type).fields, _
  decide +kernel

theorem showsUnkept_shiftJis :
    (∀ f ∈ (unkeptExchange shiftJisType).fields, ¬Utf8.bytes delimiter <:+: f.2) ∧
      (∀ f ∈ (unkeptExchange shiftJisType).fields, ¬Utf8.bytes "-0" <:+ f.2) ∧
      ∃ line, (standard (.greenwich "UTC")).format (unkeptExchange shiftJisType) = .ok line ∧
        ShowsUnkept line := by
  obtain ⟨hfree, htails⟩ := fields_unkeptExchange shiftJisType
  have hcharset : Charset.forBody? (unkeptResponse shiftJisType).headers.bodyLabel =
      some .shiftJis := by
    decide +kernel
  refine ⟨hfree, htails, (showsUnkept_iff (.greenwich "UTC") rfl rfl
    (isPlain_unkeptExchange shiftJisType) hfree htails).2.mpr ⟨.shiftJis, hcharset, ?_⟩⟩
  intro bigEndian h
  cases h

/-- A response that names UTF-16 has what stands in for its body read as UTF-16, and one that names
no charset has no line, although neither body was kept. -/
theorem not_showsUnkept_utf16 :
    ((unkeptExchange utf16Type).now.IsPlain ∧
        (∀ f ∈ (unkeptExchange utf16Type).fields, ¬Utf8.bytes delimiter <:+: f.2) ∧
        (∀ f ∈ (unkeptExchange utf16Type).fields, ¬Utf8.bytes "-0" <:+ f.2) ∧
        ∃ line, (standard (.greenwich "UTC")).format (unkeptExchange utf16Type) = .ok line ∧
          ¬ShowsUnkept line) ∧
      (unkeptExchange unknownType).now.IsPlain ∧
      (∀ f ∈ (unkeptExchange unknownType).fields, ¬Utf8.bytes delimiter <:+: f.2) ∧
      (∀ f ∈ (unkeptExchange unknownType).fields, ¬Utf8.bytes "-0" <:+ f.2) ∧
      (standard (.greenwich "UTC")).format (unkeptExchange unknownType) =
        .error (.unsupportedCharset "unknown".toList) := by
  have hnow := isPlain_unkeptExchange utf16Type
  have hnow' := isPlain_unkeptExchange unknownType
  have hfields := fields_unkeptExchange utf16Type
  have hfields' := fields_unkeptExchange unknownType
  have hutf16 : Charset.forBody? (unkeptResponse utf16Type).headers.bodyLabel =
      some (.utf16 false) := by
    decide +kernel
  have hunknown : (unkeptResponse unknownType).headers.bodyLabel = "unknown".toList := by
    decide +kernel
  have hnone : Charset.forBody? "unknown".toList = none := by decide +kernel
  obtain ⟨line, hformat, hshows⟩ := exists_format_of_charset (z := .greenwich "UTC") rfl rfl hnow
    (record_of_tails hfields.1 hfields.2) hutf16
  have herror := format_of_none (z := .greenwich "UTC") rfl hnow'
    (record_of_tails hfields'.1 hfields'.2) (by rw [hunknown, hnone])
  rw [hunknown] at herror
  refine ⟨⟨hnow, hfields.1, hfields.2, line, hformat, ?_⟩, hnow', hfields'.1, hfields'.2, herror⟩
  intro h
  exact hshows.mp h false rfl

end Formatter

end HttpJournal
