import HttpJournal.Proofs.JsonValue
import HttpJournal.Proofs.RepeatedKeys
import HttpJournal.Text.Blank

namespace HttpJournal.Json

inductive Region where
  | outside
  | inside

/-- Compact text from a place outside or inside a string on. -/
inductive Compact : Region → Text → Prop
  | done : Compact .outside []
  | bare {c : Char} {t : Text} (hblank : isBlank c = false) (hq : c ≠ '"')
    (h : Compact .outside t) : Compact .outside (c :: t)
  | opening {t : Text} (h : Compact .inside t) : Compact .outside ('"' :: t)
  | closing {t : Text} (h : Compact .outside t) : Compact .inside ('"' :: t)
  | plain {c : Char} {t : Text} (hc : 0x20 ≤ c.toNat) (hq : c ≠ '"') (hb : c ≠ '\\')
    (h : Compact .inside t) : Compact .inside (c :: t)
  | short {c : Char} {t : Text} (hc : c ∈ ['b', 't', 'n', 'f', 'r', '"', '\\'])
    (h : Compact .inside t) : Compact .inside ('\\' :: c :: t)
  | control {a b c : Char} {t : Text} (hn : codeUnit? '0' '0' a b = some c.toNat)
    (hc : c.toNat < 0x20) (hshort : c ∉ ['\x08', '\t', '\n', '\x0c', '\r'])
    (h : Compact .inside t) : Compact .inside ('\\' :: 'u' :: '0' :: '0' :: a :: b :: t)

namespace Compact

theorem append {r : Region} {t u : Text} (ht : Compact r t) (hu : Compact .outside u) :
    Compact r (t ++ u) := by
  induction ht with
  | done => exact hu
  | bare hblank hq h ih => exact .bare hblank hq ih
  | opening h ih => exact .opening ih
  | closing h ih => exact .closing ih
  | plain hc hq hb h ih => exact .plain hc hq hb ih
  | short hc h ih => exact .short hc ih
  | control hn hc hshort h ih => exact .control hn hc hshort ih

theorem of_bare {t : Text} (h : ∀ c ∈ t, isBlank c = false ∧ c ≠ '"') : Compact .outside t := by
  induction t with
  | nil => exact .done
  | cons c t ih =>
    rw [List.forall_mem_cons] at h
    exact .bare h.1.1 h.1.2 (ih h.2)

theorem escape (c : Char) {t : Text} (h : Compact .inside t) :
    Compact .inside (escape c ++ t) := by
  unfold Json.escape
  split
  case h_8 hq hb hn hr ht hback hfeed =>
    split_ifs with hc
    · refine .control (codeUnit?_control c.toNat hc) hc ?_ h
      simp only [List.mem_cons, List.not_mem_nil, or_false, not_or]
      exact ⟨hback, ht, hn, hfeed, hr⟩
    · exact .plain (Nat.le_of_not_lt hc) hq hb h
  all_goals exact .short (by decide) h

theorem quoted (t : Text) : Compact .outside (quoted t) := by
  apply Compact.opening
  induction t with
  | nil => exact .closing .done
  | cons c t ih =>
    change Compact .inside (escaped (c :: t) ++ ['"'])
    rw [escaped_cons, List.append_assoc]
    exact escape c ih

theorem commaSeparated {texts : List Text} (h : ∀ t ∈ texts, Compact .outside t) :
    Compact .outside (commaSeparated texts) := by
  induction texts with
  | nil => exact .done
  | cons t ts ih =>
    rw [List.forall_mem_cons] at h
    cases ts with
    | nil => exact h.1
    | cons u us =>
      rw [commaSeparated_cons_cons]
      exact h.1.append (.bare (by decide) (by decide) (ih h.2))

theorem number {n : Number} (h : ∀ x, n ≠ .real x) : Compact .outside n.text := by
  have hdigits (k : Nat) : ∀ c ∈ Decimal.ofNat k, isBlank c = false ∧ c ≠ '"' := by
    intro c hc
    have hb := Decimal.bounds_of_isDigit (Decimal.isDigit_of_mem_ofNat hc)
    constructor
    · simp [isBlank]
      omega
    · rintro rfl
      exact absurd hb (by decide)
  cases n with
  | natural n => exact of_bare (hdigits n)
  | negative n => exact .bare (by decide) (by decide) (of_bare (hdigits n))
  | real x => exact absurd rfl (h x)

end Compact

/-- A document of integers is written compactly. -/
theorem Value.Integral.compact {v : Value} (h : v.Integral) : Compact .outside v.text := by
  induction h with
  | null => exact .of_bare (by simp [Value.text, isBlank])
  | bool b => cases b <;> exact .of_bare (by simp [Value.text, isBlank])
  | number h => exact .number h
  | string s => exact .quoted s.toList
  | array h ih =>
    rw [Value.text, itemTexts_eq_map]
    have hitems := Compact.commaSeparated (List.forall_mem_map.mpr ih)
    exact .bare (by decide) (by decide) (hitems.append (.bare (by decide) (by decide) .done))
  | object h ih =>
    rw [Value.text, memberTexts_eq_map]
    have hmember : ∀ m ∈ _, Compact .outside (memberText m) := fun m hm =>
      (Compact.quoted m.1.toList).append (.bare (by decide) (by decide) (ih m hm))
    have hmembers := Compact.commaSeparated (List.forall_mem_map.mpr hmember)
    exact .bare (by decide) (by decide) (hmembers.append (.bare (by decide) (by decide) .done))

/-- A truthy document of integers is made readable as compact text of the same document, in which of
a key that the first text repeats the first place and the last value are left. -/
theorem readable_document {t : Text} {v : Value} (h : read? t = some v) (htruthy : v.isTruthy)
    (hv : v.Integral) :
    read? (readable t) = some v ∧ Compact .outside (readable t) ∧
      ∃ w, readWhole? t = some w ∧ w.merged = v := by
  have hcompact : Compact .outside (readable t) := by
    rw [readable_of_truthy h htruthy]
    exact hv.compact
  have hmerged := h
  rw [read?_eq_merged] at hmerged
  exact ⟨read?_readable h htruthy hv, hcompact, Option.map_eq_some_iff.mp hmerged⟩

def loose : Text :=
  ['{', '"', 'b', '"', ':', '1', ',', ' ', '"', 'a', '"', ':', '"', '\\', '/',
    '\\', 'u', '0', '0', '0', '1', '"', ',', '"', 'b', '"', ':', '[', '2', ']', '}']

def tight : Value := .object [("b", .array [.number (.natural 2)]), ("a", .string "/\x01")]

theorem read?_loose : read? loose = some tight := by rfl

theorem integral_tight : tight.Integral := by
  refine .object (List.forall_mem_cons.mpr ⟨.array (List.forall_mem_singleton.mpr (.number ?_)),
    List.forall_mem_singleton.mpr (.string _)⟩)
  intro x h
  cases h

theorem readable_document_loose :
    read? (readable loose) = some tight ∧ Compact .outside (readable loose) ∧
      ∃ w, readWhole? loose = some w ∧ w.merged = tight :=
  readable_document read?_loose rfl integral_tight

end HttpJournal.Json
