import HttpJournal.Http.ContentType
import HttpJournal.Proofs.TextParts
import HttpJournal.Proofs.WireMessage

namespace HttpJournal

/-- The white space around the semicolon before a parameter. -/
def isOws (c : Char) : Bool := c = ' ' || c = '\t'

def isQuotable (c : Char) : Bool := 0x20 ≤ c.toNat && c.toNat ≠ 0x7F && c ≠ '"' && c ≠ '\\'

namespace MediaType

inductive ParameterValue
  | token (text : Text) (valid : isToken text)
  | quoted (text : Text) (valid : text.all isQuotable)

namespace ParameterValue

def text : ParameterValue → Text
  | token t _ => t
  | quoted t _ => t

def written : ParameterValue → Text
  | token t _ => t
  | quoted t _ => '"' :: (t ++ ['"'])

end ParameterValue

structure Parameter where
  before : Text
  after : Text
  name : Text
  value : ParameterValue
  before_ows : ∀ c ∈ before, isOws c
  after_ows : ∀ c ∈ after, isOws c
  name_token : isToken name

namespace Parameter

def body (p : Parameter) : Text := p.after ++ p.name ++ '=' :: p.value.written

def text (p : Parameter) : Text := p.before ++ ';' :: p.body

def isCharset (p : Parameter) : Bool := sameIgnoringCase p.name "charset".toList

end Parameter

def charsetOf (ps : List Parameter) : Option Text :=
  (ps.find? Parameter.isCharset).map fun p => p.value.text

/-- The parameters before the one that gives the charset; all of them, when none does. -/
def beforeCharset (ps : List Parameter) : List Parameter := ps.takeWhile fun p => !p.isCharset

end MediaType

structure MediaType where
  type : Text
  subtype : Text
  parameters : List MediaType.Parameter
  type_token : isToken type
  subtype_token : isToken subtype

namespace MediaType

def essence (m : MediaType) : Text := m.type ++ '/' :: m.subtype

def text (m : MediaType) : Text := m.essence ++ m.parameters.flatMap Parameter.text

/-- What can name a charset: quotes and white space at its ends would be taken off. -/
def IsLabel (t : Text) : Prop :=
  t ≠ [] ∧ ¬t.head?.any ContentType.isQuoteOrBlank ∧ ¬t.getLast?.any ContentType.isQuoteOrBlank

instance (t : Text) : Decidable (IsLabel t) := inferInstanceAs (Decidable (_ ∧ _ ∧ _))

/-- Somewhere in the text a parameter `charset` seems to begin. -/
def HidesCharset (t : Text) : Prop :=
  ∃ name, sameIgnoringCase (Text.trim name) "charset".toList ∧ ';' :: (name ++ ['=']) <:+: t

/-- No cut goes through the charset, or through a value before it. -/
def IsClear (ps : List Parameter) : Prop :=
  ∀ label ∈ charsetOf ps, ',' ∉ label ∧ ';' ∉ label ∧ ∀ p ∈ beforeCharset ps, ',' ∉ p.value.text

instance (ps : List Parameter) : Decidable (IsClear ps) :=
  inferInstanceAs (Decidable (∀ label ∈ charsetOf ps, _ ∧ _ ∧ _))

end MediaType

theorem bounds_of_isTokenChar {c : Char} (h : isTokenChar c) : 0x20 < c.toNat ∧ c.toNat < 0x7F := by
  rw [isTokenChar, Bool.or_eq_true] at h
  rcases h with h | h
  · exact bounds_of_isAlphanum h
  · have hmarks : "!#$%&'*+-.^_`|~".toList.all fun c => 0x20 < c.toNat ∧ c.toNat < 0x7F := by decide
    exact of_decide_eq_true (List.all_eq_true.mp hmarks c (List.contains_iff_mem.mp h))

theorem isBlank_of_isTokenChar {c : Char} (h : isTokenChar c) : isBlank c = false := by
  have hbounds := bounds_of_isTokenChar h
  simp [isBlank]
  omega

theorem isTokenChar_of_mem {t : Text} (h : isToken t) {c : Char} (hc : c ∈ t) : isTokenChar c := by
  rw [isToken, Bool.and_eq_true] at h
  exact List.all_eq_true.mp h.2 c hc

theorem not_mem_of_isToken {t : Text} (h : isToken t) {c : Char} (hc : isTokenChar c = false) :
    c ∉ t := fun hmem => by
  rw [isTokenChar_of_mem h hmem] at hc
  cases hc

theorem ne_nil_of_isToken {t : Text} (h : isToken t) : t ≠ [] := by
  rintro rfl
  cases h

theorem isOws_iff {c : Char} : isOws c ↔ c = ' ' ∨ c = '\t' := by simp [isOws]

theorem isBlank_of_isOws {c : Char} (h : isOws c) : isBlank c := by
  rcases isOws_iff.mp h with rfl | rfl <;> rfl

theorem not_mem_of_sameIgnoringCase {a b : Text} (h : sameIgnoringCase a b) {c : Char}
    (hc : c.toLower ∉ b.map Char.toLower) : c ∉ a := by
  rw [sameIgnoringCase, beq_iff_eq] at h
  intro hmem
  exact hc (h ▸ List.mem_map_of_mem hmem)

namespace ContentType

def read? (t : Text) : Option Text :=
  (Text.splitOnChar ';' (t.takeWhile (· ≠ ','))).findSome? charsetParameter?

variable {t u v label : Text}

theorem takeWhile_comma (h : ',' ∉ u) (v : Text) :
    (u ++ v).takeWhile (· ≠ ',') = u ++ v.takeWhile (· ≠ ',') :=
  List.takeWhile_append_of_pos fun c hc => by simpa using ne_of_mem_of_not_mem hc h

theorem takeWhile_comma_self (h : ',' ∉ t) : t.takeWhile (· ≠ ',') = t := by
  rw [← List.append_nil t, takeWhile_comma h, List.takeWhile_nil]

theorem takeWhile_semicolon_cons (v : Text) :
    (';' :: v).takeWhile (· ≠ ',') = ';' :: v.takeWhile (· ≠ ',') :=
  List.takeWhile_cons_of_pos (by decide)

theorem charset?_append_cons (hcomma : ',' ∉ u) (hsemi : ';' ∉ u) (v : Text) :
    charset? (u ++ ';' :: v) = (read? v).filter (· ≠ []) := by
  simp only [charset?, takeWhile_comma hcomma, takeWhile_semicolon_cons,
    Text.splitOnChar_append_cons, Text.splitOnChar_of_not_mem hsemi]
  rfl

theorem charset?_of_not_mem (hcomma : ',' ∉ t) (hsemi : ';' ∉ t) : charset? t = none := by
  simp only [charset?, takeWhile_comma_self hcomma, Text.splitOnChar_of_not_mem hsemi]
  rfl

theorem read?_append_cons (u v : Text) :
    read? (u ++ ';' :: v) = (read? u).or (if ',' ∈ u then none else read? v) := by
  by_cases hcomma : ',' ∈ u
  · obtain ⟨a, b, rfl, ha⟩ := List.eq_append_cons_of_mem hcomma
    have hstop (w : Text) : (a ++ ',' :: w).takeWhile (· ≠ ',') = a :=
      takeWhile_stop (fun c hc => by simpa using ne_of_mem_of_not_mem hc ha) (by simp)
    -- up to the comma the two texts are the same
    rw [if_pos hcomma, Option.or_none, read?, read?, List.append_assoc, List.cons_append, hstop,
      hstop]
  · rw [if_neg hcomma, read?, takeWhile_comma hcomma, takeWhile_semicolon_cons,
      Text.splitOnChar_append_cons, List.findSome?_append, read?, takeWhile_comma_self hcomma,
      read?]

theorem charsetParameter?_of_cutAt {name value : Text} (h : Text.cutAt '=' t = some (name, value)) :
    charsetParameter? t = if sameIgnoringCase (Text.trim name) "charset".toList then
      some (Text.strip isQuoteOrBlank value) else none := by
  rw [charsetParameter?, h]
  dsimp only [Option.bind_eq_bind, Option.bind_some, guard]
  split_ifs <;> rfl

theorem exists_of_charsetParameter? (h : charsetParameter? t = some label) :
    ∃ name value, t = name ++ '=' :: value ∧
      sameIgnoringCase (Text.trim name) "charset".toList ∧
        label = Text.strip isQuoteOrBlank value := by
  cases hcut : Text.cutAt '=' t with
  | none =>
    rw [charsetParameter?, hcut] at h
    cases h
  | some cut =>
    obtain ⟨name, value⟩ := cut
    rw [charsetParameter?_of_cutAt hcut] at h
    split_ifs at h with hname
    exact ⟨name, value, Text.eq_of_cutAt hcut, hname, (Option.some.inj h).symm⟩

/-- What is found has no character that the text is cut at. -/
theorem not_mem_of_read? (h : read? t = some label) : ',' ∉ label ∧ ';' ∉ label := by
  obtain ⟨part, hpart, hread⟩ := List.exists_of_findSome?_eq_some h
  obtain ⟨name, value, rfl, -, rfl⟩ := exists_of_charsetParameter? hread
  obtain ⟨before, after, -, -, hvalue⟩ := Text.exists_strip isQuoteOrBlank value
  have hmem : ∀ c ∈ Text.strip isQuoteOrBlank value, c ∈ t.takeWhile (· ≠ ',') ∧ c ≠ ';' := by
    intro c hc
    apply Text.mem_of_mem_splitOnChar hpart
    rw [hvalue]
    simp [hc]
  exact ⟨fun hc => by simpa using List.mem_takeWhile_imp (hmem _ hc).1, fun hc => (hmem _ hc).2 rfl⟩

end ContentType

namespace MediaType

open ContentType

namespace ParameterValue

variable {v : ParameterValue} {c : Char}

theorem exists_written (v : ParameterValue) :
    ∃ q, (∀ c ∈ q, c = '"') ∧ v.written = q ++ v.text ++ q := by
  cases v with
  | token t _ => exact ⟨[], List.forall_mem_nil _, (List.append_nil t).symm⟩
  | quoted t _ => exact ⟨['"'], by simp, rfl⟩

theorem mem_written_iff (hc : c ≠ '"') : c ∈ v.written ↔ c ∈ v.text := by
  obtain ⟨q, hq, hwritten⟩ := v.exists_written
  have hnot : c ∉ q := fun h => hc (hq c h)
  simp [hwritten, hnot]

theorem quote_not_mem_of_trim {name : Text}
    (h : sameIgnoringCase (Text.trim name) "charset".toList) : '"' ∉ name := by
  obtain ⟨before, after, hbefore, hafter, hname⟩ := Text.exists_strip isBlank name
  have htrim : '"' ∉ Text.strip isBlank name := not_mem_of_sameIgnoringCase h (by decide)
  have hbefore' : '"' ∉ before := fun hmem => absurd (hbefore _ hmem) (by decide)
  have hafter' : '"' ∉ after := fun hmem => absurd (hafter _ hmem) (by decide)
  rw [hname]
  simp [hbefore', hafter', htrim]

/-- What seems to be a parameter in what is written stands between quotes. -/
theorem hidesCharset_of_written {name w : Text} (hw : ∀ c ∈ w, isOws c)
    (hname : sameIgnoringCase (Text.trim name) "charset".toList)
    (h : ';' :: (name ++ ['=']) <:+: v.written ++ w) : HidesCharset v.text := by
  have hsemi : ';' ∉ w := fun hmem => absurd (hw _ hmem) (by decide)
  have hstart : ';' ∈ ';' :: (name ++ ['=']) := List.mem_cons_self
  cases v with
  | token t valid =>
    have hmem := h.subset hstart
    rw [List.mem_append] at hmem
    exact absurd hmem (not_or.mpr ⟨not_mem_of_isToken valid (by decide), hsemi⟩)
  | quoted t valid =>
    have hquote : '"' ∉ ';' :: (name ++ ['=']) := by
      simpa using quote_not_mem_of_trim hname
    have h' : ';' :: (name ++ ['=']) <:+: [] ++ '"' :: (t ++ '"' :: w) := by
      simpa [written] using h
    -- without a quote in it, it goes over neither of the two quotes
    rw [infix_append_cons_iff hquote, infix_append_cons_iff hquote] at h'
    rcases h' with h' | h' | h'
    · cases List.infix_nil.mp h'
    · exact ⟨name, hname, h'⟩
    · exact absurd (h'.subset hstart) hsemi

end ParameterValue

namespace Parameter

variable {p : Parameter} {w : Text}

theorem not_mem_after {c : Char} (p : Parameter) (hows : isOws c = false)
    (htoken : isTokenChar c = false) : c ∉ p.after ++ p.name := by
  rw [List.mem_append, not_or]
  refine ⟨fun hmem => ?_, not_mem_of_isToken p.name_token htoken⟩
  rw [p.after_ows c hmem] at hows
  cases hows

theorem trim_name (p : Parameter) : Text.trim (p.after ++ p.name) = p.name := by
  have hblank : ∀ c ∈ p.name, isBlank c = false :=
    fun c hc => isBlank_of_isTokenChar (isTokenChar_of_mem p.name_token hc)
  have hstrip := Text.strip_append (fun c hc => isBlank_of_isOws (p.after_ows c hc))
    (List.forall_mem_nil _) (ne_nil_of_isToken p.name_token)
    (fun c hc => hblank c (List.mem_of_mem_head? hc))
    (fun c hc => hblank c (List.mem_of_mem_getLast? hc))
  rwa [List.append_nil] at hstrip

/-- A piece of the text that begins with the parameter's name is read by that name. -/
theorem charsetParameter?_name (p : Parameter) (value : Text) :
    charsetParameter? (p.after ++ p.name ++ '=' :: value) =
      if p.isCharset then some (Text.strip isQuoteOrBlank value) else none := by
  have hcut := Text.cutAt_append_cons (p.not_mem_after (c := '=') (by decide) (by decide)) value
  rw [charsetParameter?_of_cutAt hcut, p.trim_name, isCharset]

/-- Only the value can have a character that the text is cut at. -/
theorem mem_body_append_iff {c : Char} (p : Parameter) (hc : c = ',' ∨ c = ';')
    (hw : ∀ c ∈ w, isOws c) : c ∈ p.body ++ w ↔ c ∈ p.value.text := by
  have hows : isOws c = false := by rcases hc with rfl | rfl <;> decide
  have htoken : isTokenChar c = false := by rcases hc with rfl | rfl <;> decide
  have hne : c ≠ '=' ∧ c ≠ '"' := by rcases hc with rfl | rfl <;> decide
  have hafter := p.not_mem_after hows htoken
  have hblank : c ∉ w := fun hmem => by
    rw [hw c hmem] at hows
    cases hows
  rw [List.mem_append, or_iff_left hblank, body, List.mem_append, or_iff_right hafter,
    List.mem_cons, or_iff_right hne.1, ParameterValue.mem_written_iff hne.2]

theorem read?_body_of_not_charset (hp : p.isCharset = false) (hhides : ¬HidesCharset p.value.text)
    (hw : ∀ c ∈ w, isOws c) : read? (p.body ++ w) = none := by
  have htake : (p.body ++ w).takeWhile (· ≠ ',') =
      p.after ++ p.name ++ '=' :: (p.value.written ++ w).takeWhile (· ≠ ',') := by
    rw [body, List.append_assoc, takeWhile_comma (p.not_mem_after (by decide) (by decide))]
    simp
  have hsemi : ';' ∉ p.after ++ p.name ++ ['='] := by
    have hafter := p.not_mem_after (c := ';') (by decide) (by decide)
    simpa using hafter
  obtain ⟨first, others, hparts, -, hothers⟩ := Text.exists_splitOnChar_append hsemi
    ((p.value.written ++ w).takeWhile (· ≠ ','))
  rw [List.append_assoc _ ['='], List.append_assoc _ ['='], List.singleton_append,
    List.singleton_append] at hparts
  rw [read?, htake, hparts, List.findSome?_eq_none_iff, List.forall_mem_cons]
  -- the first piece has the name of the parameter; the others begin inside the value
  constructor
  · rw [p.charsetParameter?_name, hp]
    rfl
  intro part hpart
  by_contra hread
  obtain ⟨label, hlabel⟩ := Option.ne_none_iff_exists'.mp hread
  obtain ⟨name, value, rfl, hname, -⟩ := exists_of_charsetParameter? hlabel
  apply hhides
  apply ParameterValue.hidesCharset_of_written hw hname
  have hstart : ';' :: (name ++ ['=']) <+: ';' :: (name ++ '=' :: value) := ⟨value, by simp⟩
  exact (hstart.isInfix.trans (hothers _ hpart)).trans (List.takeWhile_prefix _).isInfix

theorem read?_body_of_charset (hp : p.isCharset) (hlabel : IsLabel p.value.text)
    (hcomma : ',' ∉ p.value.text) (hsemi : ';' ∉ p.value.text) (hw : ∀ c ∈ w, isOws c) :
    read? (p.body ++ w) = some p.value.text := by
  have hcomma' := mt (p.mem_body_append_iff (Or.inl rfl) hw).mp hcomma
  have hsemi' := mt (p.mem_body_append_iff (Or.inr rfl) hw).mp hsemi
  obtain ⟨q, hq, hwritten⟩ := p.value.exists_written
  have hq' : ∀ c ∈ q, isQuoteOrBlank c := fun c hc => by rw [hq c hc]; rfl
  have hqw : ∀ c ∈ q ++ w, isQuoteOrBlank c := by
    rw [List.forall_mem_append]
    refine ⟨hq', fun c hc => ?_⟩
    rw [isQuoteOrBlank, isBlank_of_isOws (hw c hc), Bool.or_true]
  have hends (o : Option Char) (h : ¬o.any isQuoteOrBlank) : ∀ c ∈ o, isQuoteOrBlank c = false := by
    rintro c rfl
    simpa using h
  have hstrip := Text.strip_append hq' hqw hlabel.1 (hends _ hlabel.2.1) (hends _ hlabel.2.2)
  rw [read?, takeWhile_comma_self hcomma', Text.splitOnChar_of_not_mem hsemi',
    List.findSome?_singleton, body,
    List.append_assoc, List.cons_append, p.charsetParameter?_name, if_pos hp, hwritten,
    List.append_assoc (q ++ p.value.text), hstrip]

end Parameter

section Parameters

variable {p : Parameter} {ps : List Parameter}

theorem charsetOf_cons_of_charset (hp : p.isCharset) : charsetOf (p :: ps) = some p.value.text := by
  rw [charsetOf, List.find?_cons_of_pos hp, Option.map_some]

theorem charsetOf_cons_of_not (hp : p.isCharset = false) :
    charsetOf (p :: ps) = charsetOf ps := by
  rw [charsetOf, List.find?_cons_of_neg (by simp [hp]), charsetOf]

theorem beforeCharset_cons_of_not (hp : p.isCharset = false) :
    beforeCharset (p :: ps) = p :: beforeCharset ps := by
  rw [beforeCharset, List.takeWhile_cons_of_pos (by simp [hp]), beforeCharset]

theorem isClear_of_eq_none (h : charsetOf ps = none) : IsClear ps := by
  intro label hlabel
  rw [h] at hlabel
  cases hlabel

theorem isClear_cons_of_charset (hp : p.isCharset) :
    IsClear (p :: ps) ↔ ',' ∉ p.value.text ∧ ';' ∉ p.value.text := by
  simp [IsClear, charsetOf_cons_of_charset hp, beforeCharset, hp]

theorem isClear_cons_of_not (hp : p.isCharset = false) :
    IsClear (p :: ps) ↔ IsClear ps ∧ (',' ∈ p.value.text → charsetOf ps = none) := by
  rw [IsClear, charsetOf_cons_of_not hp, beforeCharset_cons_of_not hp, IsClear]
  cases charsetOf ps with
  | none => simp
  | some label =>
    simp only [Option.mem_some_iff, forall_eq', List.forall_mem_cons, reduceCtorEq, imp_false]
    tauto

theorem body_append_text (p q : Parameter) (ps : List Parameter) :
    p.body ++ (q :: ps).flatMap Parameter.text =
      p.body ++ q.before ++ ';' :: (q.body ++ ps.flatMap Parameter.text) := by
  simp [Parameter.text]

theorem read?_of_charset (hp : p.isCharset) (hlabel : IsLabel p.value.text) :
    read? (p.body ++ ps.flatMap Parameter.text) = charsetOf (p :: ps) ↔ IsClear (p :: ps) := by
  rw [charsetOf_cons_of_charset hp, isClear_cons_of_charset hp]
  refine ⟨not_mem_of_read?, fun ⟨hcomma, hsemi⟩ => ?_⟩
  cases ps with
  | nil => exact p.read?_body_of_charset hp hlabel hcomma hsemi (List.forall_mem_nil _)
  | cons q ps =>
    rw [body_append_text, read?_append_cons,
      p.read?_body_of_charset hp hlabel hcomma hsemi q.before_ows, Option.some_or]

/-- From any parameter on, what is found is the charset exactly when no cut goes through it or
through a value before it. -/
theorem read?_eq_charsetOf_iff (hlabel : ∀ label ∈ charsetOf (p :: ps), IsLabel label)
    (hhides : ∀ q ∈ beforeCharset (p :: ps), ¬HidesCharset q.value.text) :
    read? (p.body ++ ps.flatMap Parameter.text) = charsetOf (p :: ps) ↔ IsClear (p :: ps) := by
  induction ps generalizing p with
  | nil =>
    by_cases hp : p.isCharset
    · exact read?_of_charset hp (hlabel _ (charsetOf_cons_of_charset hp))
    rw [Bool.not_eq_true] at hp
    rw [beforeCharset_cons_of_not hp, List.forall_mem_cons] at hhides
    have hnone : charsetOf [p] = none := charsetOf_cons_of_not hp
    simp only [List.flatMap_nil, p.read?_body_of_not_charset hp hhides.1 (List.forall_mem_nil _),
      hnone, isClear_of_eq_none hnone]
  | cons q ps ih =>
    by_cases hp : p.isCharset
    · exact read?_of_charset hp (hlabel _ (charsetOf_cons_of_charset hp))
    rw [Bool.not_eq_true] at hp
    rw [charsetOf_cons_of_not hp] at hlabel ⊢
    rw [beforeCharset_cons_of_not hp, List.forall_mem_cons] at hhides
    have hiff := p.mem_body_append_iff (Or.inl rfl) q.before_ows
    rw [isClear_cons_of_not hp, body_append_text, read?_append_cons,
      p.read?_body_of_not_charset hp hhides.1 q.before_ows, Option.none_or]
    by_cases hcomma : ',' ∈ p.value.text
    · -- nothing after the comma is read, so it is right only if there is no charset to be found
      rw [if_pos (hiff.mpr hcomma), eq_comm]
      exact ⟨fun hnone => ⟨isClear_of_eq_none hnone, fun _ => hnone⟩, fun h => h.2 hcomma⟩
    · rw [if_neg (mt hiff.mp hcomma), ih hlabel hhides.2]
      exact ⟨fun hclear => ⟨hclear, fun h => absurd h hcomma⟩, And.left⟩

end Parameters

def charset? (m : MediaType) : Option Text := charsetOf m.parameters

theorem not_mem_essence {c : Char} (m : MediaType) (hc : c = ',' ∨ c = ';') {w : Text}
    (hw : ∀ c ∈ w, isOws c) : c ∉ m.essence ++ w := by
  have htoken : isTokenChar c = false := by rcases hc with rfl | rfl <;> decide
  have hslash : c ≠ '/' := by rcases hc with rfl | rfl <;> decide
  have hblank : c ∉ w := fun hmem => by
    rcases hc with rfl | rfl <;> exact absurd (hw _ hmem) (by decide)
  simp [essence, not_mem_of_isToken m.type_token htoken, not_mem_of_isToken m.subtype_token htoken,
    hslash, hblank]

theorem charset?_text {m : MediaType} (hlabel : ∀ label ∈ m.charset?, IsLabel label)
    (hhides : ∀ p ∈ beforeCharset m.parameters, ¬HidesCharset p.value.text) :
    ContentType.charset? m.text = m.charset? ↔ IsClear m.parameters := by
  rw [charset?] at hlabel ⊢
  rw [text]
  cases hps : m.parameters with
  | nil =>
    rw [List.flatMap_nil, ContentType.charset?_of_not_mem
      (m.not_mem_essence (Or.inl rfl) (List.forall_mem_nil _))
      (m.not_mem_essence (Or.inr rfl) (List.forall_mem_nil _))]
    exact iff_of_true rfl (isClear_of_eq_none rfl)
  | cons p ps =>
    rw [hps] at hlabel hhides
    have htext : m.essence ++ (p :: ps).flatMap Parameter.text =
        m.essence ++ p.before ++ ';' :: (p.body ++ ps.flatMap Parameter.text) := by
      simp [Parameter.text]
    have hread := read?_eq_charsetOf_iff hlabel hhides
    rw [htext, ContentType.charset?_append_cons (m.not_mem_essence (Or.inl rfl) p.before_ows)
      (m.not_mem_essence (Or.inr rfl) p.before_ows), ← hread]
    cases hcharset : charsetOf (p :: ps) with
    | none =>
      have hnone := hread.mpr (isClear_of_eq_none hcharset)
      rw [hnone, hcharset]
      exact iff_of_true rfl rfl
    | some label =>
      have hne : label ≠ [] := (hlabel label hcharset).1
      simp [Option.filter_eq_some_iff, hne]

def IsFieldChar (c : Char) : Prop := c = '\t' ∨ 0x20 ≤ c.toNat ∧ c.toNat ≠ 0x7F

theorem isFieldOctet_of_mem_encode {t : Text} (ht : ∀ c ∈ t, IsFieldChar c) {b : UInt8}
    (hb : b ∈ Utf8.encode t) : isFieldOctet b := by
  obtain ⟨c, hc, hb⟩ := List.mem_flatMap.mp hb
  have hiff : isFieldOctet b ↔ b.toNat = 0x09 ∨ 0x20 ≤ b.toNat ∧ b.toNat ≠ 0x7F := by
    simp [isFieldOctet, ← UInt8.toNat_inj, UInt8.le_iff_toNat_le]
  rw [hiff]
  by_cases hascii : c.toNat < 0x80
  · rw [Utf8.encodeChar_of_ascii hascii, List.mem_singleton] at hb
    rw [hb, Utf8.toNat_octet (by omega)]
    exact (ht c hc).imp_left fun htab => by rw [htab]; rfl
  · have hlarge := Utf8.not_isAscii_of_mem_encodeChar (Nat.le_of_not_lt hascii) hb
    rw [Utf8.isAscii] at hlarge
    omega

theorem isFieldChar_of_isOws {c : Char} (h : isOws c) : IsFieldChar c := by
  rcases isOws_iff.mp h with rfl | rfl
  · exact Or.inr (by decide)
  · exact Or.inl rfl

theorem isFieldChar_of_isToken {t : Text} (h : isToken t) : ∀ c ∈ t, IsFieldChar c := by
  intro c hc
  have hbounds := bounds_of_isTokenChar (isTokenChar_of_mem h hc)
  exact Or.inr (by omega)

theorem ParameterValue.isFieldChar_written (v : ParameterValue) :
    ∀ c ∈ v.written, IsFieldChar c := by
  cases v with
  | token t valid => exact isFieldChar_of_isToken valid
  | quoted t valid =>
    have hquote : IsFieldChar '"' := Or.inr (by decide)
    have ht : ∀ c ∈ t, IsFieldChar c := by
      intro c hc
      have hc' := List.all_eq_true.mp valid c hc
      simp only [isQuotable, Bool.and_eq_true, decide_eq_true_eq] at hc'
      exact Or.inr hc'.1.1
    rw [written, List.forall_mem_cons, List.forall_mem_append, List.forall_mem_singleton]
    exact ⟨hquote, ht, hquote⟩

theorem Parameter.isFieldChar_text (p : Parameter) : ∀ c ∈ p.text, IsFieldChar c := by
  simp only [text, body, List.forall_mem_append, List.forall_mem_cons]
  exact ⟨fun c hc => isFieldChar_of_isOws (p.before_ows c hc), Or.inr (by decide),
    ⟨fun c hc => isFieldChar_of_isOws (p.after_ows c hc), isFieldChar_of_isToken p.name_token⟩,
    Or.inr (by decide), p.value.isFieldChar_written⟩

theorem isFieldChar_text (m : MediaType) : ∀ c ∈ m.text, IsFieldChar c := by
  simp only [text, essence, List.forall_mem_append, List.forall_mem_cons]
  refine ⟨⟨isFieldChar_of_isToken m.type_token, Or.inr (by decide),
    isFieldChar_of_isToken m.subtype_token⟩, fun c hc => ?_⟩
  obtain ⟨p, -, hc⟩ := List.mem_flatMap.mp hc
  exact p.isFieldChar_text c hc

def headerValue (m : MediaType) : HeaderValue where
  octets := Utf8.encode m.text
  valid := List.all_eq_true.mpr fun _ => isFieldOctet_of_mem_encode m.isFieldChar_text

def headers (m : MediaType) : Headers := [(.contentType, m.headerValue)]

def Parameter.ofText (name : Text) (value : ParameterValue) (h : isToken name) : Parameter where
  before := []
  after := [' ']
  name := name
  value := value
  before_ows := List.forall_mem_nil _
  after_ows := List.forall_mem_singleton.mpr rfl
  name_token := h

def html (parameters : List Parameter) : MediaType where
  type := "text".toList
  subtype := "html".toList
  parameters := parameters
  type_token := by decide
  subtype_token := by decide

def titled (title : Text) (h : title.all isQuotable) : MediaType := html [
  .ofText "title".toList (.quoted title h) (by decide),
  .ofText "charset".toList (.token "utf-8".toList (by decide)) (by decide)]

theorem mem_of_hidesCharset {t : Text} (h : HidesCharset t) : '=' ∈ t.dropWhile (· ≠ ';') := by
  obtain ⟨name, -, before, rest, rfl⟩ := h
  rw [List.append_assoc, List.dropWhile_append]
  split_ifs <;> simp

/-- `text/html; title="a=b;c"; Charset="Big5"; note="d,e"` -/
def mixed : MediaType := html [
  .ofText "title".toList (.quoted "a=b;c".toList (by decide)) (by decide),
  .ofText "Charset".toList (.quoted "Big5".toList (by decide)) (by decide),
  .ofText "note".toList (.quoted "d,e".toList (by decide)) (by decide)]

end MediaType

namespace Headers

open MediaType

/-- Of a media type, the charset is found exactly when no cut goes through it or through a value
before it, provided that none of these values looks as if it had a parameter `charset` in it. -/
theorem charset?_eq_iff {h : Headers} {m : MediaType}
    (hvalue : (h.values .contentType).head? = some m.headerValue)
    (hlabel : ∀ label ∈ m.charset?, IsLabel label)
    (hhides : ∀ p ∈ beforeCharset m.parameters, ¬HidesCharset p.value.text) :
    h.charset? = m.charset? ↔ IsClear m.parameters := by
  have hread : h.charset? = ContentType.charset? m.text := by
    rw [Headers.charset?, hvalue]
    exact congrArg ContentType.charset? (Utf8.decode_encode m.text)
  rw [hread, charset?_text hlabel hhides]

theorem charset?_eq_iff_mixed :
    (values mixed.headers .contentType).head? = some mixed.headerValue ∧
      (∀ label ∈ mixed.charset?, IsLabel label) ∧
      (∀ p ∈ beforeCharset mixed.parameters, ¬HidesCharset p.value.text) ∧
      mixed.charset? = some "Big5".toList ∧ charset? mixed.headers = mixed.charset? := by
  have hlabel : ∀ label ∈ mixed.charset?, IsLabel label := by decide
  have hhides : ∀ p ∈ beforeCharset mixed.parameters, ¬HidesCharset p.value.text := by
    intro p hp hhides
    have hequals : ∀ q ∈ beforeCharset mixed.parameters,
        '=' ∉ q.value.text.dropWhile (· ≠ ';') := by decide
    exact hequals p hp (mem_of_hidesCharset hhides)
  exact ⟨rfl, hlabel, hhides, by decide, (charset?_eq_iff rfl hlabel hhides).mpr (by decide)⟩

/-- A comma in quotes hides the charset after it, and a parameter in quotes is taken for one. -/
theorem not_charset?_titled :
    (∃ m : MediaType, m.text = "text/html; title=\"a,b\"; charset=utf-8".toList ∧
        (∀ label ∈ m.charset?, IsLabel label) ∧ m.charset? = some "utf-8".toList ∧
        charset? m.headers = none) ∧
      ∃ m : MediaType, m.text = "text/html; title=\"x; charset=big5\"; charset=utf-8".toList ∧
        (∀ label ∈ m.charset?, IsLabel label) ∧ m.charset? = some "utf-8".toList ∧
        charset? m.headers = some "big5".toList :=
  ⟨⟨titled "a,b".toList (by decide), by decide, by decide, by decide, by decide⟩,
    titled "x; charset=big5".toList (by decide), by decide, by decide, by decide, by decide⟩

end Headers

end HttpJournal
