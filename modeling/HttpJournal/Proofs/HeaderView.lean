import HttpJournal.Proofs.Assoc
import HttpJournal.Proofs.JournalLine
import HttpJournal.Proofs.WireMessage

namespace HttpJournal

theorem HeaderName.octets_injective {m n : HeaderName} (h : m.octets = n.octets) : m = n := by
  obtain ⟨s, hs⟩ := m
  obtain ⟨t, ht⟩ := n
  have hname := congrArg Utf8.text h
  simp only [octets, Utf8.text_bytes] at hname
  subst hname
  rfl

theorem HeaderName.colon_not_mem (n : HeaderName) : 0x3A ∉ n.octets := by
  have hvalid := n.valid
  simp only [isHeaderName, isToken, Bool.and_eq_true, List.all_eq_true] at hvalid
  have hcolon : ':' ∉ n.name.toList := fun h => absurd (hvalid.1.1.2 _ h) (by decide)
  exact mt (Utf8.mem_encode_iff (by decide : ':'.toNat < 0x80)).mp hcolon

def valueIn? (name line : Bytes) : Option Bytes :=
  (cutFirst? (Utf8.bytes ": ") line).bind fun (n, value) => if n = name then some value else none

def valuesIn (name : Bytes) (lines : List Bytes) : List Bytes := lines.filterMap (valueIn? name)

theorem valueIn?_append (m n : HeaderName) (value : Bytes) :
    valueIn? n.octets (m.octets ++ Utf8.bytes ": " ++ value) =
      if m = n then some value else none := by
  have hcut : cutFirst? (Utf8.bytes ": ") (m.octets ++ (Utf8.bytes ": " ++ value)) =
      some (m.octets, value) :=
    cutFirst?_of_closedBy (by decide) (closedBy_of_not_mem m.colon_not_mem) value
  have hiff : m.octets = n.octets ↔ m = n := ⟨HeaderName.octets_injective, congrArg _⟩
  rw [valueIn?, List.append_assoc, hcut, Option.bind_some]
  simp only [hiff]

theorem valuesIn_append (name : Bytes) (lines lines' : List Bytes) :
    valuesIn name (lines ++ lines') = valuesIn name lines ++ valuesIn name lines' :=
  List.filterMap_append

theorem valuesIn_singleton (m n : HeaderName) (value : Bytes) :
    valuesIn n.octets [m.octets ++ Utf8.bytes ": " ++ value] = if m = n then [value] else [] := by
  rw [valuesIn, List.filterMap_cons, valueIn?_append]
  split_ifs <;> rfl

theorem valuesIn_fieldLine (m n : HeaderName) (values : List HeaderValue) :
    valuesIn n.octets [fieldLine m values] =
      if m = n then [(Utf8.bytes ", ").intercalate (values.map HeaderValue.octets)] else [] :=
  valuesIn_singleton m n _

theorem valuesIn_cookieLines (m n : HeaderName) (values : List HeaderValue) :
    valuesIn n.octets (values.map fun value => fieldLine m [value]) =
      if m = n then values.map HeaderValue.octets else [] := by
  induction values with
  | nil => split_ifs <;> rfl
  | cons value values ih =>
    rw [List.map_cons, ← List.singleton_append, valuesIn_append, valuesIn_fieldLine, ih]
    split_ifs <;> simp

namespace Headers

variable {h : Headers} {n : HeaderName}

theorem nodup_names (h : Headers) : h.names.Nodup := by
  rw [names, ← Assoc.names_ofList]
  exact Assoc.nodup_ofList h

theorem values_ne_nil_iff : h.values n ≠ [] ↔ n ∈ h.names := by
  simp [values, names, List.mem_eraseDups]

theorem names_eq_nil_iff : h.names = [] ↔ h = [] := by
  cases h with
  | nil => simp [names]
  | cons e h => simp [names, List.eraseDups_cons]

/-- Where only the lines of `n` show values of `n`, these are all the values. -/
theorem valuesIn_flatMap {lines : HeaderName → List Bytes} {shown : List Bytes}
    (hlines : ∀ m, valuesIn n.octets (lines m) = if m = n then shown else []) :
    valuesIn n.octets (h.names.flatMap lines) = if h.has n then shown else [] := by
  have hflat : valuesIn n.octets (h.names.flatMap lines) =
      h.names.flatMap fun m => if m = n then shown else [] := by
    rw [valuesIn, List.filterMap_flatMap]
    exact List.flatMap_congr fun m _ => hlines m
  rw [hflat, flatMap_ite_of_nodup h.nodup_names]
  simp only [has_iff]

/-- A header has one line in the head of a message, with all of its values. -/
theorem valuesIn_lines (h : Headers) (n : HeaderName) :
    valuesIn n.octets (h.names.map h.line) = if h.has n then [h.folded n] else [] := by
  rw [List.map_eq_flatMap]
  apply valuesIn_flatMap
  intro m
  rw [line, colonSpace, valuesIn_singleton]
  split_ifs with hm
  · rw [hm]
  · rfl

theorem break_not_mem_line (h : Headers) : ∀ l ∈ h.names.map h.line, 0x0D ∉ l := by
  intro l hl
  obtain ⟨m, -, rfl⟩ := List.mem_map.mp hl
  exact (isLine_fieldLine m (h.values m)).2

theorem splitOn_block (hne : h ≠ []) : splitOn crlf h.block = h.names.map h.line := by
  have hlines : h.names.map h.line ≠ [] := by
    rwa [Ne, List.map_eq_nil_iff, names_eq_nil_iff]
  exact splitOn_intercalate (List.cons_ne_nil _ _)
    (separated_of_not_mem hlines h.break_not_mem_line)

theorem valuesIn_block (h : Headers) (n : HeaderName) :
    valuesIn n.octets (splitOn crlf h.block) = if h.has n then [h.folded n] else [] := by
  by_cases hne : h = []
  · rw [hne]
    rfl
  · rw [splitOn_block hne, valuesIn_lines]

/-- In a message, too, a header has one line, unless it is the one for cookies. -/
theorem valuesIn_fieldLines (h : Headers) (hn : n ≠ .setCookie) :
    valuesIn n.octets h.fieldLines = if h.has n then [h.folded n] else [] := by
  apply valuesIn_flatMap
  intro m
  by_cases hcookie : m = .setCookie
  · have hm : m ≠ n := fun hm => hn (hm.symm.trans hcookie)
    rw [if_pos hcookie, if_neg hm, valuesIn_cookieLines, if_neg hm]
  · rw [if_neg hcookie, valuesIn_fieldLine]
    split_ifs with hm
    · rw [hm]
      rfl
    · rfl

/-- Each cookie has a line of its own. -/
theorem valuesIn_setCookie (h : Headers) :
    valuesIn HeaderName.setCookie.octets h.fieldLines =
      (h.values .setCookie).map HeaderValue.octets := by
  have hlines (m : HeaderName) : valuesIn HeaderName.setCookie.octets
      (if m = .setCookie then (h.values m).map fun value => fieldLine m [value]
        else [fieldLine m (h.values m)]) =
      if m = .setCookie then (h.values .setCookie).map HeaderValue.octets else [] := by
    by_cases hm : m = .setCookie
    · rw [if_pos hm, if_pos hm, valuesIn_cookieLines, if_pos hm, hm]
    · rw [if_neg hm, if_neg hm, valuesIn_fieldLine, if_neg hm]
  rw [fieldLines, valuesIn_flatMap hlines]
  split_ifs with hhas
  · rfl
  · rw [has_iff, ← values_ne_nil_iff, not_not] at hhas
    rw [hhas]
    rfl

/-- The lines of a message are those of its head where no cookies have to be set apart. -/
theorem fieldLines_of_length (hcookie : (h.values .setCookie).length ≤ 1) :
    h.fieldLines = h.names.map h.line := by
  rw [fieldLines, List.map_eq_flatMap]
  apply List.flatMap_congr
  intro m hm
  split_ifs with hset
  · rw [← values_ne_nil_iff, hset] at hm
    obtain ⟨value, hvalue⟩ := List.length_eq_one_iff.mp
      (Nat.le_antisymm hcookie (List.length_pos_iff.mpr hm))
    rw [hset, hvalue, line, folded, hvalue]
    rfl
  · rfl

theorem splitOn_block_eq (hne : h ≠ []) (hcookie : (h.values .setCookie).length ≤ 1) :
    splitOn crlf h.block = h.fieldLines := by
  rw [splitOn_block hne, fieldLines_of_length hcookie]

/-- A head has one line for all cookies. -/
theorem length_setCookie_le (others : List Bytes)
    (hlines : splitOn crlf h.block = others ++ h.fieldLines) :
    (h.values .setCookie).length ≤ 1 := by
  have hvalues := congrArg (fun lines => (valuesIn HeaderName.setCookie.octets lines).length) hlines
  simp only [valuesIn_append, valuesIn_setCookie, valuesIn_block, List.length_append,
    List.length_map] at hvalues
  split_ifs at hvalues
  · rw [List.length_singleton] at hvalues
    omega
  · rw [List.length_nil] at hvalues
    omega

theorem splitOn_block_eq_iff :
    splitOn crlf h.block = h.fieldLines ↔ h ≠ [] ∧ (h.values .setCookie).length ≤ 1 := by
  constructor
  · intro hlines
    refine ⟨?_, length_setCookie_le [] hlines⟩
    rintro rfl
    exact absurd hlines (by decide)
  · rintro ⟨hne, hcookie⟩
    exact splitOn_block_eq hne hcookie

end Headers

namespace RequestHead

/-- A message has one line for the host, which says what the placeholder for the host says. -/
theorem valuesIn_host (r : RequestHead) :
    valuesIn HeaderName.host.octets (r.hostLines ++ r.headers.fieldLines) = [r.host] := by
  rw [valuesIn_append, r.headers.valuesIn_fieldLines (by decide), hostLines, host]
  simp only [Headers.has_iff]
  split_ifs
  · rfl
  · rw [valuesIn_singleton, if_pos rfl, List.append_nil]

theorem splitOn_block_eq_iff (r : RequestHead) :
    splitOn crlf r.headers.block = r.hostLines ++ r.headers.fieldLines ↔
      r.headers.has .host ∧ (r.headers.values .setCookie).length ≤ 1 := by
  constructor
  · intro hlines
    refine ⟨?_, Headers.length_setCookie_le _ hlines⟩
    have hvalues := congrArg (valuesIn HeaderName.host.octets) hlines
    rw [r.valuesIn_host, Headers.valuesIn_block] at hvalues
    by_contra hhas
    rw [if_neg hhas] at hvalues
    cases hvalues
  · rintro ⟨hhas, hcookie⟩
    have hne : r.headers ≠ [] := by
      rintro hnil
      rw [hnil] at hhas
      cases hhas
    rw [hostLines, if_pos (r.headers.has_iff .host |>.mp hhas)]
    exact Headers.splitOn_block_eq hne hcookie

end RequestHead

/-- Lines that are each begun by a break are known by the cut at the breaks. -/
theorem flatMap_crlf_eq_iff {lines : List Bytes} (hlines : ∀ l ∈ lines, 0x0D ∉ l) (bs : Bytes) :
    lines.flatMap (crlf ++ ·) = crlf ++ bs ↔ splitOn crlf bs = lines := by
  have hcrlf : crlf ≠ [] := List.cons_ne_nil _ _
  have hjoin (parts : List Bytes) : parts.flatMap (crlf ++ ·) = crlf.intercalate ([] :: parts) := by
    rw [intercalate_eq_flatMap, List.nil_append]
  have hcut : splitOn crlf (crlf ++ bs) = [] :: splitOn crlf bs :=
    splitOn_of_closedBy hcrlf (closedBy_nil crlf) bs
  have hseparated : Separated crlf ([] :: lines) :=
    separated_of_not_mem (List.cons_ne_nil _ _)
      (List.forall_mem_cons.mpr ⟨List.not_mem_nil, hlines⟩)
  rw [hjoin]
  constructor
  · intro heq
    rw [← heq, splitOn_intercalate hcrlf hseparated] at hcut
    exact (List.cons.inj hcut).2.symm
  · rintro rfl
    rw [← hcut, intercalate_splitOn hcrlf]

theorem Request.message_eq (r : Request) :
    r.message = crlf.intercalate (r.startLine :: (r.hostLines ++ r.headers.fieldLines)) ++
      (crlf ++ crlf ++ r.body.octets) := by
  rw [message, r.hostLine_eq, r.headers.wire_eq, intercalate_eq_flatMap, List.flatMap_append]
  simp

theorem Request.isLine_lines (r : Request) :
    ∀ l ∈ r.hostLines ++ r.headers.fieldLines, IsLine l :=
  List.forall_mem_append.mpr ⟨r.isLine_hostLines, r.headers.isLine_fieldLines⟩

theorem Request.readMessage?_message (r : Request) :
    readMessage? r.message =
      some (r.startLine :: (r.hostLines ++ r.headers.fieldLines), r.body.octets) := by
  rw [r.message_eq]
  exact readMessage?_of_lines (List.cons_ne_nil _ _)
    (List.forall_mem_cons.mpr ⟨isLine_requestLine _, r.isLine_lines⟩) _

theorem Request.message_eq_iff (r : Request) :
    r.message = r.toRequestHead.text ++ (crlf ++ crlf ++ r.body.octets) ↔
      r.headers.has .host ∧ (r.headers.values .setCookie).length ≤ 1 := by
  have hlines : ∀ l ∈ r.hostLines ++ r.headers.fieldLines, 0x0D ∉ l :=
    fun l hl => (r.isLine_lines l hl).2
  rw [r.message_eq, intercalate_eq_flatMap, RequestHead.text, List.append_left_inj,
    List.append_assoc, List.append_right_inj, flatMap_crlf_eq_iff hlines, r.splitOn_block_eq_iff]

theorem Response.message_eq_iff (r : Response) :
    r.message = r.toResponseHead.text ++ (crlf ++ crlf ++ r.body.octets) ↔
      r.headers ≠ [] ∧ (r.headers.values .setCookie).length ≤ 1 := by
  have hlines : ∀ l ∈ r.headers.fieldLines, 0x0D ∉ l :=
    fun l hl => (r.headers.isLine_fieldLines l hl).2
  have hmessage : r.message = r.startLine ++ r.headers.fieldLines.flatMap (crlf ++ ·) ++
      (crlf ++ crlf ++ r.body.octets) := by
    rw [message, r.headers.wire_eq]
    simp
  rw [hmessage, ResponseHead.text, List.append_left_inj, List.append_assoc, List.append_right_inj,
    flatMap_crlf_eq_iff hlines, Headers.splitOn_block_eq_iff]

namespace Context

/-- A request is its head, a blank line and its body exactly when a header names the host and there
is at most one cookie to set, and a response exactly when it has a header and at most one cookie. -/
theorem message_eq_head_iff (c : Context) :
    (∃ message head, c.resolve? "request" = some message ∧ c.resolve? "req_headers" = some head ∧
        (message = head ++ (crlf ++ crlf ++ c.exchange.request.body.octets) ↔
          c.exchange.request.headers.has .host ∧
            (c.exchange.request.headers.values .setCookie).length ≤ 1)) ∧
      ∀ r, c.exchange.response = some r →
        ∃ message head, c.resolve? "response" = some message ∧
          c.resolve? "res_headers" = some head ∧
          (message = head ++ (crlf ++ crlf ++ r.body.octets) ↔
            r.headers ≠ [] ∧ (r.headers.values .setCookie).length ≤ 1) := by
  refine ⟨⟨_, _, rfl, rfl, Request.message_eq_iff _⟩, ?_⟩
  intro r hr
  refine ⟨r.message, r.toResponseHead.text, ?_, ?_, Response.message_eq_iff r⟩
  · change some c.responseMessage = _
    rw [responseMessage, hr]
  · change some (ofResponse _ c) = _
    rw [ofResponse, hr]

def interleavedHeaders : Headers := [
  (.host, ⟨Utf8.bytes "a.test", by decide⟩),
  (⟨"accept", by decide⟩, ⟨Utf8.bytes "text/html", by decide⟩),
  (.setCookie, ⟨Utf8.bytes "k=v", by decide⟩),
  (⟨"accept", by decide⟩, ⟨Utf8.bytes "*/*: q", by decide⟩)]

def interleaved : Context :=
  Formatter.atEpoch
    { Formatter.bareRequest ⟨.origin "/index".toList, by decide⟩ [] with
      headers := interleavedHeaders }
    (some { status := .ok, version := .http11, headers := interleavedHeaders, id := 0
            time := ⟨0, 0⟩, body := .kept (Utf8.bytes "ok") })

theorem message_eq_head_interleaved :
    ∃ message head, interleaved.resolve? "response" = some message ∧
      interleaved.resolve? "res_headers" = some head ∧
      message = head ++ (crlf ++ crlf ++ Utf8.bytes "ok") := by
  obtain ⟨message, head, hmessage, hhead, hiff⟩ := (message_eq_head_iff interleaved).2 _ rfl
  exact ⟨message, head, hmessage, hhead, hiff.mpr (by decide)⟩

theorem lookup_append_eq_none {start : String}
    (hnames : ∀ name ∈ placeholders.map Prod.fst, ¬start.toList <+: name.toList) (name : String) :
    placeholders.lookup (start ++ name) = none := by
  rw [List.lookup_eq_none_iff]
  intro e he
  rw [bne_iff_ne]
  intro heq
  apply hnames e.1 (List.mem_map_of_mem he)
  rw [← heq, String.toList_append]
  exact List.prefix_append _ _

theorem rest?_append (start name : String) :
    rest? start (start ++ name).toList = some name.toList := by
  have hprefix : start.toList.isPrefixOf (start.toList ++ name.toList) :=
    List.isPrefixOf_iff_prefix.mpr (List.prefix_append _ _)
  rw [rest?, String.toList_append, if_pos hprefix, ← String.length_toList, List.drop_left]

theorem resolve?_requestHeader (c : Context) (name : String) :
    c.resolve? ("req_header_" ++ name) =
      some (headerLine c.exchange.request.headers name.toList) := by
  rw [resolve?, lookup_append_eq_none (by decide), header?, rest?_append]

theorem resolve?_responseHeader (c : Context) (name : String) :
    c.resolve? ("res_header_" ++ name) =
      some (ofResponse (fun r => headerLine r.headers name.toList) c) := by
  have hrequest : rest? "req_header_" ("res_header_" ++ name).toList = none := by
    rw [String.toList_append]
    rfl
  rw [resolve?, lookup_append_eq_none (by decide), header?, rest?_append, hrequest]

/-- Case does not matter in the name of a header. -/
theorem headerLine_of_spelling {n : HeaderName} {name : String}
    (hname : name.toList.map Char.toLower = n.name.toList) (h : Headers) :
    headerLine h name.toList = h.folded n := by
  have hlower : String.ofList (name.toList.map Char.toLower) = n.name := by
    rw [hname, String.ofList_toList]
  have hofName : HeaderName.ofName? name = some n := by
    rw [HeaderName.ofName?]
    simp only [hlower]
    exact dif_pos n.valid
  rw [headerLine, String.ofList_toList, hofName]

end Context

/-- The head of a message shows a header that is present on one line, with the given value, which
is made of the values of the header in their order. One that is absent has no line, and the value is
empty. -/
def Headers.Shows (h : Headers) (n : HeaderName) (head value : Bytes) : Prop :=
  if h.has n then
    valuesIn n.octets ((splitOn crlf head).drop 1) = [value] ∧
      value = (Utf8.bytes ", ").intercalate ((h.values n).map HeaderValue.octets)
  else valuesIn n.octets ((splitOn crlf head).drop 1) = [] ∧ value = []

theorem Headers.shows_folded (h : Headers) (n : HeaderName) {start : Bytes}
    (hstart : IsLine start) : h.Shows n (start ++ crlf ++ h.block) (h.folded n) := by
  have hsplit : splitOn crlf (start ++ crlf ++ h.block) = start :: splitOn crlf h.block :=
    splitOn_of_closedBy (List.cons_ne_nil _ _) (closedBy_of_not_mem hstart.2) h.block
  rw [Shows, hsplit, List.drop_one, List.tail_cons, valuesIn_block]
  split_ifs with hhas
  · exact ⟨rfl, rfl⟩
  · rw [has_iff, ← values_ne_nil_iff, not_not] at hhas
    rw [folded, hhas]
    exact ⟨rfl, rfl⟩

namespace Context

/-- A placeholder for a header, in any spelling of its name, has the value of the one line for it in
the head, and the placeholder for the host that of the one line for the host in the message. -/
theorem header_lookups (c : Context) :
    (∀ (n : HeaderName) (name : String), name.toList.map Char.toLower = n.name.toList →
      (∃ head value, c.resolve? "req_headers" = some head ∧
        c.resolve? ("req_header_" ++ name) = some value ∧
          c.exchange.request.headers.Shows n head value) ∧
      ∀ r, c.exchange.response = some r →
        ∃ head value, c.resolve? "res_headers" = some head ∧
          c.resolve? ("res_header_" ++ name) = some value ∧ r.headers.Shows n head value) ∧
    ∃ message start lines body value, c.resolve? "request" = some message ∧
      readMessage? message = some (start :: lines, body) ∧ c.resolve? "host" = some value ∧
        valuesIn HeaderName.host.octets lines = [value] := by
  constructor
  · intro n name hname
    constructor
    · refine ⟨_, _, rfl, c.resolve?_requestHeader name, ?_⟩
      rw [headerLine_of_spelling hname]
      exact Headers.shows_folded _ n (isLine_requestLine _)
    · intro r hr
      refine ⟨r.toResponseHead.text, r.headers.folded n, ?_, ?_, ?_⟩
      · change some (ofResponse _ c) = _
        rw [ofResponse, hr]
      · rw [resolve?_responseHeader, ofResponse, hr]
        exact congrArg some (headerLine_of_spelling hname r.headers)
      · exact Headers.shows_folded _ n (isLine_statusLine _)
  · exact ⟨_, _, _, _, _, rfl, c.exchange.request.readMessage?_message, rfl,
      c.exchange.request.valuesIn_host⟩

theorem header_lookups_interleaved :
    interleaved.resolve? ("req_header_" ++ "ACCept") = some (Utf8.bytes "text/html, */*: q") ∧
      interleaved.resolve? ("res_header_" ++ "Content-Type") = some [] := by
  obtain ⟨_, value, -, hvalue, hshows⟩ := ((header_lookups interleaved).1 ⟨"accept", by decide⟩
    "ACCept" (by decide)).1
  obtain ⟨_, value', -, hvalue', hshows'⟩ := ((header_lookups interleaved).1 .contentType
    "Content-Type" (by decide)).2 _ rfl
  rw [Headers.Shows, if_pos (by decide)] at hshows
  rw [Headers.Shows, if_neg (by decide)] at hshows'
  rw [hvalue, hvalue', hshows.2, hshows'.2]
  exact ⟨by decide, rfl⟩

end Context

end HttpJournal
