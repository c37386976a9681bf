import HttpJournal.Http.Message
import HttpJournal.Proofs.Decimal
import HttpJournal.Proofs.Split
import HttpJournal.Proofs.Utf8

namespace HttpJournal

def cutFirst? (sep : Bytes) : Bytes → Option (Bytes × Bytes)
  | [] => none
  | b :: rest =>
    if sep.isPrefixOf (b :: rest) then some ([], (b :: rest).drop sep.length)
    else (cutFirst? sep rest).map fun (before, after) => (b :: before, after)

/-- The lines of the head of a message, and its body. -/
def readMessage? (bs : Bytes) : Option (List Bytes × Bytes) :=
  (cutFirst? (crlf ++ crlf) bs).map fun (head, body) => (splitOn crlf head, body)

def space : Bytes := [0x20]

def Version.read? (bs : Bytes) : Option Version :=
  [http09, http10, http11, http2, http3].find? fun v => Utf8.bytes ("HTTP/" ++ v.text) = bs

theorem closedBy_append {a : UInt8} {sep part rest : Bytes} (hpart : a ∉ part)
    (hrest : ClosedBy (a :: sep) rest) : ClosedBy (a :: sep) (part ++ rest) := by
  induction part with
  | nil => exact hrest
  | cons b part ih =>
    rw [List.mem_cons, not_or] at hpart
    rw [List.cons_append, closedBy_cons]
    exact ⟨fun hprefix => hpart.1 (List.cons_prefix_cons.mp hprefix).1, ih hpart.2⟩

theorem closedBy_of_not_mem {a : UInt8} {sep part : Bytes} (h : a ∉ part) :
    ClosedBy (a :: sep) part := by
  have hclosed := closedBy_append h (closedBy_nil (a :: sep))
  rwa [List.append_nil] at hclosed

theorem separated_of_not_mem {a : UInt8} {sep : Bytes} {parts : List Bytes} (hne : parts ≠ [])
    (h : ∀ part ∈ parts, a ∉ part) : Separated (a :: sep) parts := by
  induction parts with
  | nil => exact absurd rfl hne
  | cons part parts ih =>
    rw [List.forall_mem_cons] at h
    have hclosed : ClosedBy (a :: sep) part := closedBy_of_not_mem h.1
    cases parts with
    | nil => exact hclosed.free (List.cons_ne_nil _ _)
    | cons next parts => exact ⟨hclosed, ih (List.cons_ne_nil _ _) h.2⟩

theorem cutFirst?_of_closedBy {sep part : Bytes} (hsep : sep ≠ []) (h : ClosedBy sep part)
    (rest : Bytes) : cutFirst? sep (part ++ (sep ++ rest)) = some (part, rest) := by
  induction part with
  | nil =>
    cases sep with
    | nil => exact absurd rfl hsep
    | cons a sep =>
      have hprefix : (a :: sep).isPrefixOf (a :: (sep ++ rest)) :=
        List.isPrefixOf_iff_prefix.mpr ⟨rest, rfl⟩
      rw [List.nil_append, List.cons_append, cutFirst?, if_pos hprefix]
      simp
  | cons b part ih =>
    have hb : ¬sep.isPrefixOf (b :: (part ++ (sep ++ rest))) := by
      intro hprefix
      have hlen := h.length_le (u := []) (List.isPrefixOf_iff_prefix.mp hprefix)
      cases hlen
    rw [List.cons_append, cutFirst?, if_neg hb, ih (closedBy_cons.mp h).2]
    rfl

def IsLine (line : Bytes) : Prop := line ≠ [] ∧ 0x0D ∉ line

/-- No two breaks stand together in a head, nor where it meets the blank line at its end. -/
theorem closedBy_blankLine {lines : List Bytes} (hne : lines ≠ []) (h : ∀ l ∈ lines, IsLine l) :
    ClosedBy (crlf ++ crlf) (crlf.intercalate lines) := by
  induction lines with
  | nil => exact absurd rfl hne
  | cons line lines ih =>
    rw [List.forall_mem_cons] at h
    cases lines with
    | nil =>
      rw [List.intercalate_singleton]
      exact closedBy_of_not_mem h.1.2
    | cons next lines =>
      have hrest := ih (List.cons_ne_nil _ _) h.2
      obtain ⟨hnext, hbreak⟩ := h.2 next List.mem_cons_self
      rw [List.intercalate_cons_cons, List.append_assoc]
      apply closedBy_append h.1.2
      cases next with
      | nil => exact absurd rfl hnext
      | cons b next =>
        have hb : (0x0D : UInt8) ≠ b := fun heq => hbreak (heq ▸ List.mem_cons_self)
        rw [List.intercalate_cons_cons_left] at hrest ⊢
        -- a break is here, but what follows it is no second one
        refine closedBy_cons.mpr ⟨?_, closedBy_cons.mpr ⟨?_, hrest⟩⟩
        · rintro ⟨v, hv⟩
          simp [crlf, hb] at hv
        · rintro ⟨v, hv⟩
          simp [crlf] at hv

theorem readMessage?_of_lines {lines : List Bytes} (hne : lines ≠ []) (h : ∀ l ∈ lines, IsLine l)
    (body : Bytes) :
    readMessage? (crlf.intercalate lines ++ (crlf ++ crlf ++ body)) = some (lines, body) := by
  have hsplit : splitOn crlf (crlf.intercalate lines) = lines :=
    splitOn_intercalate (List.cons_ne_nil _ _) (separated_of_not_mem hne fun l hl => (h l hl).2)
  have hblank : crlf ++ crlf ≠ [] := by decide
  rw [readMessage?, cutFirst?_of_closedBy hblank (closedBy_blankLine hne h)]
  exact congrArg (fun lines => some (lines, body)) hsplit

/-- A blank line in a body stays in it. -/
example : readMessage? (Utf8.bytes "a\r\nb: c\r\n\r\nd\r\n\r\ne: f") =
    some ([Utf8.bytes "a", Utf8.bytes "b: c"], Utf8.bytes "d\r\n\r\ne: f") := by
  decide

theorem intercalate_eq_flatMap (sep part : Bytes) (parts : List Bytes) :
    sep.intercalate (part :: parts) = part ++ parts.flatMap (sep ++ ·) := by
  induction parts generalizing part with
  | nil => simp
  | cons next parts ih =>
    rw [List.intercalate_cons_cons, ih, List.flatMap_cons, List.append_assoc, List.append_assoc]

def IsVisible (t : Text) : Prop := ∀ c ∈ t, 0x20 < c.toNat

theorem isVisible_of_all {t : Text} (h : t.all fun c => 0x20 < c.toNat) : IsVisible t := by
  intro c hc
  exact of_decide_eq_true (List.all_eq_true.mp h c hc)

theorem break_not_mem {t : Text} (h : '\r' ∉ t) : 0x0D ∉ Utf8.encode t :=
  mt (Utf8.mem_encode_iff (by decide : '\r'.toNat < 0x80)).mp h

theorem break_not_mem_of_isVisible {t : Text} (h : IsVisible t) : 0x0D ∉ Utf8.encode t :=
  break_not_mem fun hbreak => absurd (h _ hbreak) (by decide)

theorem isVisible_ofNat (n : Nat) : IsVisible (Decimal.ofNat n) := by
  intro c hc
  have hbounds := Decimal.bounds_of_isDigit (Decimal.isDigit_of_mem_ofNat hc)
  omega

theorem bounds_of_isAlphanum {c : Char} (h : c.isAlphanum) : 0x20 < c.toNat ∧ c.toNat < 0x7F := by
  delta Char.isAlphanum Char.isAlpha Char.isUpper Char.isLower Char.isDigit at h
  simp only [Bool.or_eq_true, Bool.and_eq_true, decide_eq_true_eq, ge_iff_le,
    UInt32.le_iff_toNat_le] at h
  change (0x41 ≤ c.toNat ∧ c.toNat ≤ 0x5A ∨ 0x61 ≤ c.toNat ∧ c.toNat ≤ 0x7A) ∨
    0x30 ≤ c.toNat ∧ c.toNat ≤ 0x39 at h
  omega

theorem lt_of_contains {marks : List Char} (hmarks : IsVisible marks) {c : Char}
    (h : marks.contains c) : 0x20 < c.toNat := hmarks c (List.contains_iff_mem.mp h)

theorem isVisible_of_isToken {t : Text} (h : isToken t) : IsVisible t := by
  intro c hc
  simp only [isToken, Bool.and_eq_true, List.all_eq_true] at h
  have hchar := h.2 c hc
  simp only [isTokenChar, Bool.or_eq_true] at hchar
  rcases hchar with hchar | hchar
  · exact (bounds_of_isAlphanum hchar).1
  · exact lt_of_contains (isVisible_of_all (by decide)) hchar

theorem isVisible_of_isTarget {t : Text} (h : UriForm.isTarget t) : IsVisible t := by
  intro c hc
  simp only [UriForm.isTarget, Bool.and_eq_true, List.all_eq_true] at h
  obtain ⟨hpath, hquery⟩ := h
  rw [← List.takeWhile_append_dropWhile (p := (· ≠ '?')) (l := t), List.mem_append] at hc
  rcases hc with hc | hc
  · have hchar := hpath c hc
    simp only [UriForm.isPathChar, UriForm.within, Bool.or_eq_true, Bool.and_eq_true,
      decide_eq_true_eq] at hchar
    rcases hchar with ((((((rfl | h) | rfl) | h) | h) | rfl) | h)
    all_goals first | decide | omega
  · cases hrest : t.dropWhile (· ≠ '?') with
    | nil =>
      rw [hrest] at hc
      cases hc
    | cons mark query =>
      rw [hrest] at hc hquery
      rcases List.mem_cons.mp hc with rfl | hc
      · rw [head_dropWhile_ne hrest]
        decide
      · have hchar := hquery c hc
        simp only [UriForm.isQueryChar, UriForm.within, Bool.or_eq_true, Bool.and_eq_true,
          decide_eq_true_eq] at hchar
        rcases hchar with ((((rfl | h) | rfl) | h) | h)
        all_goals first | decide | omega

theorem isVisible_target (u : Uri) : IsVisible u.target := by
  obtain ⟨form, hvalid⟩ := u
  have hslash : IsVisible ['/'] := isVisible_of_all (by decide)
  change IsVisible form.target
  cases form with
  | asterisk => exact isVisible_of_all (by decide)
  | origin t =>
    simp only [UriForm.isValid, Bool.and_eq_true] at hvalid
    exact isVisible_of_isTarget hvalid.2
  | authority a => exact hslash
  | absolute scheme a t =>
    simp only [UriForm.isValid, Bool.and_eq_true] at hvalid
    change IsVisible (if t.isEmpty then ['/'] else t)
    split_ifs
    · exact hslash
    · exact isVisible_of_isTarget hvalid.2

theorem isVisible_of_scan {t : Text} {s s' : UriForm.Scan}
    (h : t.foldlM UriForm.Scan.step s = some s') : IsVisible t := by
  induction t generalizing s with
  | nil => intro c hc; cases hc
  | cons c t ih =>
    rw [List.foldlM_cons, Option.bind_eq_bind, Option.bind_eq_some_iff] at h
    obtain ⟨next, hstep, hrest⟩ := h
    refine List.forall_mem_cons.mpr ⟨?_, ih hrest⟩
    have hchar : UriForm.isAuthorityChar c := by
      by_contra hbad
      simp [UriForm.Scan.step, hbad] at hstep
    simp only [UriForm.isAuthorityChar, Bool.or_eq_true] at hchar
    rcases hchar with hchar | hchar
    · exact (bounds_of_isAlphanum hchar).1
    · exact lt_of_contains (isVisible_of_all (by decide)) hchar

theorem isVisible_of_isAuthority {a : Text} (h : UriForm.isAuthority a) : IsVisible a := by
  unfold UriForm.isAuthority at h
  split at h
  · cases h
  · next hscan => exact isVisible_of_scan hscan

theorem isVisible_authority {u : Uri} {a : Text} (h : u.form.authority? = some a) :
    IsVisible a := by
  obtain ⟨form, hvalid⟩ := u
  cases form with
  | asterisk => cases h
  | origin t => cases h
  | authority b =>
    cases h
    simp only [UriForm.isValid, Bool.and_eq_true] at hvalid
    exact isVisible_of_isAuthority hvalid.2
  | absolute scheme b t =>
    cases h
    simp only [UriForm.isValid, Bool.and_eq_true] at hvalid
    exact isVisible_of_isAuthority hvalid.1.1.2

theorem isVisible_takeWhile {t : Text} (h : IsVisible t) (p : Char → Bool) :
    IsVisible (t.takeWhile p) := fun c hc => h c (List.takeWhile_subset p hc)

theorem isVisible_reverse {t : Text} (h : IsVisible t) : IsVisible t.reverse :=
  fun c hc => h c (List.mem_reverse.mp hc)

theorem isVisible_hostOf {a : Text} (h : IsVisible a) : IsVisible (UriForm.hostOf a) := by
  have hafter : IsVisible (UriForm.afterLast '@' a) :=
    isVisible_reverse (isVisible_takeWhile (isVisible_reverse h) _)
  have hbracket : IsVisible [']'] := isVisible_of_all (by decide)
  simp only [UriForm.hostOf]
  split_ifs
  · exact List.forall_mem_append.mpr ⟨isVisible_takeWhile hafter _, hbracket⟩
  · exact isVisible_takeWhile hafter _

theorem isVisible_hostAndPort (u : Uri) : IsVisible u.hostAndPort := by
  rw [Uri.hostAndPort, UriForm.hostAndPort]
  cases hform : u.form.authority? with
  | none => exact fun c hc => by cases hc
  | some a =>
    refine List.forall_mem_append.mpr ⟨isVisible_hostOf (isVisible_authority hform), ?_⟩
    cases UriForm.portOf a with
    | none => exact fun c hc => by cases hc
    | some port => exact List.forall_mem_cons.mpr ⟨by decide, isVisible_ofNat port⟩

theorem isVisible_version (v : Version) : IsVisible ("HTTP/" ++ v.text).toList := by
  apply isVisible_of_all
  cases v <;> decide

theorem Status.break_not_mem_phrase (s : Status) : '\r' ∉ s.phrase.toList := by
  have hreasons : ∀ e ∈ reasons, '\r' ∉ e.2.toList := by decide +kernel
  rw [phrase]
  cases hlookup : reasons.lookup s.code with
  | none => decide
  | some phrase =>
    obtain ⟨before, after, heq, -⟩ := List.lookup_eq_some_iff.mp hlookup
    exact hreasons (s.code, phrase) (by simp [heq])

theorem RequestHead.startLine_eq (r : RequestHead) :
    r.startLine = Utf8.bytes r.method.name ++ (space ++ (Utf8.encode r.uri.target ++
      (space ++ Utf8.bytes ("HTTP/" ++ r.version.text)))) := by
  have hversion : Utf8.bytes (" HTTP/" ++ r.version.text) =
      space ++ Utf8.bytes ("HTTP/" ++ r.version.text) := by
    cases r.version <;> decide
  rw [startLine, hversion, Utf8.encode_append, Utf8.encode_cons]
  simp [Utf8.bytes, space]
  rfl

theorem ResponseHead.startLine_eq (r : ResponseHead) :
    r.startLine = Utf8.bytes ("HTTP/" ++ r.version.text) ++ (space ++
      (Utf8.encode (Decimal.ofNat r.status.code) ++ (space ++ Utf8.bytes r.status.phrase))) := by
  have hspace : Utf8.bytes " " = space := by decide
  rw [startLine, Utf8.bytes_append _ " ", Utf8.bytes_append " ", hspace]
  simp

theorem isLine_requestLine (r : RequestHead) : IsLine r.startLine := by
  rw [r.startLine_eq]
  constructor
  · simp [space]
  · simp only [List.mem_append, not_or]
    have hspace : 0x0D ∉ space := by decide
    exact ⟨break_not_mem_of_isVisible (isVisible_of_isToken r.method.valid), hspace,
      break_not_mem_of_isVisible (isVisible_target r.uri), hspace,
      break_not_mem_of_isVisible (isVisible_version r.version)⟩

theorem isLine_statusLine (r : ResponseHead) : IsLine r.startLine := by
  rw [r.startLine_eq]
  constructor
  · simp [space]
  · simp only [List.mem_append, not_or]
    have hspace : 0x0D ∉ space := by decide
    exact ⟨break_not_mem_of_isVisible (isVisible_version r.version), hspace,
      break_not_mem_of_isVisible (isVisible_ofNat _), hspace,
      break_not_mem r.status.break_not_mem_phrase⟩

def fieldLine (name : HeaderName) (values : List HeaderValue) : Bytes :=
  name.octets ++ Utf8.bytes ": " ++
    List.intercalate (Utf8.bytes ", ") (values.map HeaderValue.octets)

/-- Each name has a line for all of its values, but `set-cookie` has one for each. -/
def Headers.fieldLines (h : Headers) : List Bytes :=
  h.names.flatMap fun name =>
    if name = .setCookie then (h.values name).map fun value => fieldLine name [value]
    else [fieldLine name (h.values name)]

def RequestHead.hostLines (r : RequestHead) : List Bytes :=
  if HeaderName.host ∈ r.headers.names then []
  else [HeaderName.host.octets ++ Utf8.bytes ": " ++ Utf8.encode r.uri.hostAndPort]

theorem not_mem_intercalate {a : UInt8} {sep : Bytes} {parts : List Bytes} (hsep : a ∉ sep)
    (h : ∀ part ∈ parts, a ∉ part) : a ∉ sep.intercalate parts := by
  cases parts with
  | nil => simp
  | cons part parts =>
    rw [List.forall_mem_cons] at h
    simp only [intercalate_eq_flatMap, List.mem_append, List.mem_flatMap, not_or, not_exists,
      not_and]
    exact ⟨h.1, fun part' hpart => ⟨hsep, h.2 part' hpart⟩⟩

theorem HeaderName.break_not_mem (n : HeaderName) : 0x0D ∉ n.octets := by
  have hvalid := n.valid
  simp only [isHeaderName, Bool.and_eq_true] at hvalid
  exact break_not_mem_of_isVisible (isVisible_of_isToken hvalid.1.1)

theorem HeaderValue.break_not_mem (v : HeaderValue) : 0x0D ∉ v.octets := by
  intro hbreak
  have hfield := List.all_eq_true.mp v.valid _ hbreak
  exact absurd hfield (by decide)

theorem isLine_fieldLine (name : HeaderName) (values : List HeaderValue) :
    IsLine (fieldLine name values) := by
  have hcolon : 0x0D ∉ Utf8.bytes ": " := by decide
  have hvalues : 0x0D ∉
      List.intercalate (Utf8.bytes ", ") (values.map HeaderValue.octets) := by
    apply not_mem_intercalate (by decide)
    intro part hpart
    obtain ⟨value, -, rfl⟩ := List.mem_map.mp hpart
    exact value.break_not_mem
  constructor
  · have hne : Utf8.bytes ": " ≠ [] := by decide
    simp [fieldLine, hne]
  · simp only [fieldLine, List.mem_append, not_or]
    exact ⟨⟨name.break_not_mem, hcolon⟩, hvalues⟩

theorem Headers.isLine_fieldLines (h : Headers) : ∀ l ∈ h.fieldLines, IsLine l := by
  intro l hl
  obtain ⟨name, -, hl⟩ := List.mem_flatMap.mp hl
  split_ifs at hl
  · obtain ⟨value, -, rfl⟩ := List.mem_map.mp hl
    exact isLine_fieldLine name [value]
  · rw [List.mem_singleton.mp hl]
    exact isLine_fieldLine name _

theorem RequestHead.isLine_hostLines (r : RequestHead) : ∀ l ∈ r.hostLines, IsLine l := by
  have hcolon : 0x0D ∉ Utf8.bytes ": " := by decide
  intro l hl
  rw [hostLines] at hl
  split_ifs at hl
  · cases hl
  · rw [List.mem_singleton.mp hl]
    constructor
    · have hne : Utf8.bytes ": " ≠ [] := by decide
      simp [hne]
    · simp only [List.mem_append, not_or]
      exact ⟨⟨HeaderName.host.break_not_mem, hcolon⟩,
        break_not_mem_of_isVisible (isVisible_hostAndPort r.uri)⟩

theorem Headers.wire_eq (h : Headers) : h.wire = h.fieldLines.flatMap (crlf ++ ·) := by
  have hlines (name : HeaderName) : h.wireLines name =
      if name = .setCookie then (h.values name).map fun value => fieldLine name [value]
      else [fieldLine name (h.values name)] := by
    rw [wireLines]
    split_ifs
    · simp [fieldLine, colonSpace]
    · rfl
  rw [wire, fieldLines, List.flatMap_congr fun name _ => hlines name]

theorem Headers.has_iff (h : Headers) (name : HeaderName) : h.has name ↔ name ∈ h.names := by
  simp [has, names, List.mem_eraseDups]

theorem RequestHead.hostLine_eq (r : RequestHead) :
    r.hostLine = r.hostLines.flatMap (crlf ++ ·) := by
  rw [hostLine, hostLines]
  simp only [Headers.has_iff]
  split_ifs
  · rfl
  · simp [colonSpace]

end HttpJournal
