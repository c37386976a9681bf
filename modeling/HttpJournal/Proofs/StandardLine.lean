import HttpJournal.Proofs.Decimal
import HttpJournal.Proofs.JournalLine
import HttpJournal.Proofs.TemplateRecord

namespace HttpJournal

namespace Context

def fields (c : Context) : Record := [
  ("method", c.method), ("uri", c.uri), ("time", c.utcTime), ("status", c.status),
  ("req_body", c.exchange.request.body.octets), ("res_body", c.responseBody), ("error", c.error)]

theorem filled_standard (c : Context) :
    Template.standard.filled (fun name => (c.resolve? name).getD []) = c.fields := by
  have hscan : ∀ f ∈ Template.standard.fields, Piece.scan f.2.toList =
      [.placeholder (.ofList (f.2.toList.drop 1).dropLast)] := by
    decide
  rw [Template.filled, List.map_congr_left fun f hf => by rw [Expansion.filled, hscan f hf]]
  simp only [List.flatMap_cons, List.flatMap_nil, List.append_nil]
  rfl

theorem names_fields (c : Context) : c.fields.names = Template.standard.names := rfl

theorem isPlain_fields (c : Context) : ∀ f ∈ c.fields, Record.IsPlain f.1 := by
  have hnames : ∀ name ∈ Template.standard.names, Template.isFieldName name := by decide
  rw [← names_fields c] at hnames
  exact fun f hf => Template.isPlain_of_isFieldName (hnames f.1 (List.mem_map_of_mem hf))

theorem not_half_utcTime (c : Context) : ¬Delimiter.half <:+ c.utcTime := by
  have htail : Utf8.bytes "00" <:+ c.utcTime := by
    have hoffset : ['+', '0', '0', ':', '0', '0'] = ['+', '0', '0', ':'] ++ "00".toList := by decide
    rw [utcTime, Stamp.utcText, hoffset, ← List.append_assoc, Utf8.encode_append]
    exact List.suffix_append _ _
  intro h
  -- two suffixes of one length are the same
  have heq := (List.suffix_of_suffix_length_le h htail (by decide)).eq_of_length (by decide)
  exact absurd heq (by decide)

theorem not_half_status (c : Context) : ¬Delimiter.half <:+ c.status := by
  rw [status, ofResponse]
  split
  · rename_i r _
    intro h
    have hdash : (0x2D : UInt8) ∈ Utf8.encode (Decimal.ofNat r.status.code) :=
      h.subset (by decide)
    have hmem := (Utf8.mem_encode_iff (by decide : '-'.toNat < 0x80)).mp hdash
    exact absurd (Decimal.isDigit_of_mem_ofNat hmem) (by decide)
  · decide

end Context

namespace Formatter

variable {z : Zone} {c : Context}

theorem record_standard (z : Zone) (c : Context) :
    (standard z).record c = Record.ofFlat Delimiter.octets
      (Delimiter.octets.intercalate (c.fields.map Record.chunk)) := by
  have hbraces : ∀ name ∈ Template.standard.names, '{' ∉ name.toList ∧ '}' ∉ name.toList := by
    decide
  rw [record, expansion, expandText, Expansion.expand_text, standard,
    Template.filled_flat hbraces, Context.filled_standard]
  rfl

/-- The values of the standard template that the exchange decides, and that may end in any way. -/
theorem tails_iff (c : Context) :
    (∀ f ∈ c.fields.dropLast, ¬Delimiter.half <:+ f.2) ↔
      ∀ value ∈ [c.method, c.uri, c.exchange.request.body.octets, c.responseBody],
        ¬Delimiter.half <:+ value := by
  have htime := c.not_half_utcTime
  have hstatus := c.not_half_status
  simp [Context.fields, htime, hstatus]

/-- The record has its fields back exactly when none of these values ends with what the delimiter
repeats. -/
theorem record_standard_iff (hfree : ∀ f ∈ c.fields, ¬Delimiter.octets <:+: f.2) :
    (standard z).record c = c.fields ↔
      ∀ value ∈ [c.method, c.uri, c.exchange.request.body.octets, c.responseBody],
        ¬Delimiter.half <:+ value := by
  have hne : c.fields ≠ [] := List.cons_ne_nil _ _
  have hnames : (c.fields.map Prod.fst).Nodup := (by decide : Template.standard.names.Nodup)
  rw [record_standard, Record.ofFlat_join_iff hne hnames c.isPlain_fields, ← tails_iff]
  exact and_iff_right hfree

theorem names_record_standard (hfree : ∀ f ∈ c.fields, ¬Delimiter.octets <:+: f.2)
    (h : ((standard z).record c).names = Template.standard.names) :
    (standard z).record c = c.fields := by
  rw [record_standard_iff hfree, ← tails_iff]
  intro f hf hhalf
  -- no name of the template begins with a zero
  obtain ⟨name, hname, hzero⟩ := Record.exists_zero_name c.isPlain_fields hfree ⟨f, hf, hhalf⟩
  rw [← record_standard z c, h] at hname
  have hnames : ∀ name ∈ Template.standard.names, name.toList.head? ≠ some '0' := by decide
  exact hnames name hname hzero

/-- What a line of the standard template is to keep: the names of the fields in their order, and the
values that are neither moved into a zone nor made readable. -/
def KeepsFields (c : Context) (line : String) : Prop :=
  ∃ members, Json.read? line.toList = some (.object members) ∧
    members.map Prod.fst = Template.standard.names ∧
    ∀ name ∈ ["method", "uri", "status", "error"],
      members.lookup name = (c.fields.lookup name).map fun bs => .string (Utf8.text bs)

theorem fieldText_plain (z : Zone) (headers : Option Headers) (bs : Bytes) :
    ∀ name ∈ ["method", "uri", "status", "error"],
      Line.fieldText z headers name bs = .ok (Utf8.decode bs) := by
  simp only [List.forall_mem_cons, List.not_mem_nil, false_implies, implies_true, and_true]
  cases headers <;> exact ⟨rfl, rfl, rfl, rfl⟩

theorem tails_of_keepsFields {line : String} (h : (standard z).format c = .ok line)
    (hfree : ∀ f ∈ c.fields, ¬Delimiter.octets <:+: f.2) (hkeeps : KeepsFields c line) :
    ∀ value ∈ [c.method, c.uri, c.exchange.request.body.octets, c.responseBody],
      ¬Delimiter.half <:+ value := by
  obtain ⟨l, hl, hread⟩ := document_of_format h
  obtain ⟨members, hmembers, hkeys, -⟩ := hkeeps
  rw [hread] at hmembers
  obtain rfl := Json.Value.object.inj (Option.some.inj hmembers)
  apply (record_standard_iff (z := z) hfree).mp
  -- the names alone tell that the record is the one that was written
  apply names_record_standard hfree
  rw [← Line.names_of_ofRecord hl, ← hkeys, Line.names_document]

/-- A line of the standard template whose values do not hold the delimiter keeps its fields exactly
when neither method nor URI nor either body ends with what the delimiter repeats. -/
theorem keepsFields_iff {line : String} (h : (standard z).format c = .ok line)
    (hfree : ∀ f ∈ c.fields, ¬Utf8.bytes delimiter <:+: f.2) :
    KeepsFields c line ↔
      ∀ value ∈ [c.method, c.uri, c.exchange.request.body.octets, c.responseBody],
        ¬Utf8.bytes "-0" <:+ value := by
  constructor
  · exact tails_of_keepsFields h hfree
  · intro htails
    obtain ⟨l, hl, hread⟩ := document_of_format h
    have hrecord := (record_standard_iff (z := z) hfree).mpr htails
    have hnames := Line.names_of_ofRecord hl
    rw [hrecord] at hnames
    rw [Formatter.line, hrecord] at hl
    refine ⟨_, hread, ?_, ?_⟩
    · rw [← Context.names_fields c, ← hnames, Line.names_document]
    · intro name hname
      have hsome : (c.fields.lookup name).isSome := by
        revert name
        simp [Context.fields, List.lookup_cons]
      obtain ⟨bs, hbs⟩ := Option.isSome_iff_exists.mp hsome
      obtain ⟨t, ht, hlookup⟩ := Line.lookup_of_ofRecord hl hbs
      rw [fieldText_plain _ _ bs name hname] at ht
      rw [Line.lookup_document, hlookup, hbs, ← Except.ok.inj ht]
      rfl

def rootExchange : Context := atEpoch (bareRequest ⟨.origin ['/'], by decide⟩ []) none

theorem keepsFields_root :
    ∃ line, (standard (.greenwich "UTC")).format rootExchange = .ok line ∧
      (∀ f ∈ rootExchange.fields, ¬Utf8.bytes delimiter <:+: f.2) ∧
      KeepsFields rootExchange line := by
  have h : (standard (.greenwich "UTC")).format rootExchange = .ok
      ("\x7b\"method\":\"GET\",\"uri\":\"/\",\"time\":\"1970-01-01 00:00:00\"," ++
        "\"status\":\"NULL\",\"req_body\":\"\",\"res_body\":\"NULL\",\"error\":\"NULL\"\x7d") := by
    rw [format, line, record_standard]
    decide +kernel
  have hfree : ∀ f ∈ rootExchange.fields, ¬Utf8.bytes delimiter <:+: f.2 := by decide +kernel
  exact ⟨_, h, hfree, (keepsFields_iff h hfree).mpr (by decide +kernel)⟩

def zeroExchange : Context :=
  atEpoch (bareRequest ⟨.origin ['/', 'a', '-', '0'], by decide⟩ []) none

/-- The URI ends with what the delimiter repeats, and the time is lost with its name. -/
theorem not_keepsFields_zero :
    ∃ line, (standard (.greenwich "UTC")).format zeroExchange = .ok line ∧
      (∀ f ∈ zeroExchange.fields, ¬Utf8.bytes delimiter <:+: f.2) ∧
      ¬KeepsFields zeroExchange line := by
  have h : (standard (.greenwich "UTC")).format zeroExchange = .ok
      ("\x7b\"method\":\"GET\",\"uri\":\"/a\",\"0-time\":\"1970-01-01T00:00:00+00:00\"," ++
        "\"status\":\"NULL\",\"req_body\":\"\",\"res_body\":\"NULL\",\"error\":\"NULL\"\x7d") := by
    rw [format, line, record_standard]
    decide +kernel
  have hfree : ∀ f ∈ zeroExchange.fields, ¬Utf8.bytes delimiter <:+: f.2 := by decide +kernel
  refine ⟨_, h, hfree, fun hkeeps => ?_⟩
  have htails := tails_of_keepsFields h hfree hkeeps
  revert htails
  decide +kernel

end Formatter

end HttpJournal
