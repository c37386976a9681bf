import HttpJournal.Proofs.JsonValue

namespace HttpJournal.Json

inductive Mark where
  | char (c : Char)
  /-- A UTF-16 code unit. -/
  | unit (n : Nat)
  deriving DecidableEq

/-- The marks of a text from left to right. A backslash that begins no escape is itself. -/
def marks : Text → List Mark
  | [] => []
  | '\\' :: 'u' :: a :: b :: c :: d :: rest =>
    match codeUnit? a b c d with
    | some n => .unit n :: marks rest
    | none => .char '\\' :: marks ('u' :: a :: b :: c :: d :: rest)
  | '\\' :: c :: rest =>
    match simpleEscape? c with
    | some e => .char e :: marks rest
    | none => .char '\\' :: marks (c :: rest)
  | c :: rest => .char c :: marks rest

/-- The characters that marks denote. A high surrogate makes one character with the low surrogate
right behind it; any other surrogate makes the whole denote nothing. -/
def joined? : List Mark → Option Text
  | [] => some []
  | .char c :: rest => (joined? rest).map (c :: ·)
  | .unit n :: rest =>
    if isHighSurrogate n then
      match rest with
      | .unit m :: rest =>
        if isLowSurrogate m then (joined? rest).map (joinSurrogates n m :: ·) else none
      | _ => none
    else if isLowSurrogate n then none
    else (joined? rest).map (Char.ofNat n :: ·)

def decoded? (t : Text) : Option Text := joined? (marks t)

theorem joined?_unit {n : Nat} (hlow : isLowSurrogate n = false) (hhigh : isHighSurrogate n = false)
    (ms : List Mark) : joined? (.unit n :: ms) = (joined? ms).map (Char.ofNat n :: ·) := by
  rw [joined?.eq_def (.unit n :: ms)]
  simp only [hlow, hhigh, Bool.false_eq_true, if_false]

section Marks

theorem marks_codeUnit {a b c d : Char} {n : Nat} (h : codeUnit? a b c d = some n) (t : Text) :
    marks ('\\' :: 'u' :: a :: b :: c :: d :: t) = .unit n :: marks t := by
  rw [marks, h]

theorem marks_simple {c e : Char} (h : simpleEscape? c = some e) (t : Text) :
    marks ('\\' :: c :: t) = .char e :: marks t := by
  rw [marks]
  · rw [h]
  · rintro _ _ _ _ _ rfl _
    cases h

theorem marks_plain {c : Char} (h : c ≠ '\\') (t : Text) : marks (c :: t) = .char c :: marks t := by
  rw [marks]
  · exact fun _ _ _ _ _ hc _ => h hc
  · exact fun _ _ hc _ => h hc

end Marks

inductive Literal : Text → List Mark → Prop
  | nil : Literal [] []
  | plain {c : Char} {t : Text} {ms : List Mark} (hq : c ≠ '"') (hb : c ≠ '\\')
    (hc : 0x20 ≤ c.toNat) (h : Literal t ms) : Literal (c :: t) (.char c :: ms)
  | simple {c e : Char} {t : Text} {ms : List Mark} (he : simpleEscape? c = some e)
    (h : Literal t ms) : Literal ('\\' :: c :: t) (.char e :: ms)
  | control {c : Char} {t : Text} {ms : List Mark} (hc : c.toNat < 0x20) (h : Literal t ms) :
    Literal (['\\', 'u', '0', '0', lowerHex (c.toNat / 16), lowerHex c.toNat] ++ t) (.char c :: ms)
  | codeUnit {a b c d : Char} {n : Nat} {t : Text} {ms : List Mark}
    (hn : codeUnit? a b c d = some n) (h : Literal t ms) :
    Literal ('\\' :: 'u' :: a :: b :: c :: d :: t) (.unit n :: ms)

/-- Guarding makes text safe between quotes and keeps its marks. -/
theorem literal_guarded (t : Text) : Literal (guarded t) (marks t) := by
  have hplain {c : Char} {rest : Text} (hpair : ∀ d r, c = '\\' → rest = d :: r → False)
      (hlast : c = '\\' → rest = [] → False) : c ≠ '\\' := by
    intro hb
    cases rest with
    | nil => exact hlast hb rfl
    | cons d r => exact hpair d r hb rfl
  fun_induction guarded t with
  | case1 => exact .nil
  | case2 a b c d rest hunit ih =>
    obtain ⟨n, hn⟩ := Option.isSome_iff_exists.mp hunit
    rw [marks_codeUnit hn]
    exact .codeUnit hn ih
  | case3 a b c d rest hunit ih =>
    rw [marks, Option.not_isSome_iff_eq_none.mp hunit]
    exact .simple rfl ih
  | case4 c rest hu hsimple ih =>
    obtain ⟨e, he⟩ := Option.isSome_iff_exists.mp hsimple
    rw [marks_simple he]
    exact .simple he ih
  | case5 c rest hu hsimple ih =>
    rw [marks, Option.not_isSome_iff_eq_none.mp hsimple]
    · exact .simple rfl ih
    · exact hu
  | case6 => exact .simple rfl .nil
  | case7 rest ih =>
    rw [marks_plain (by decide)]
    exact .simple rfl ih
  | case8 c rest hu hpair hlast hq hc ih =>
    rw [marks_plain (hplain hpair hlast)]
    exact .control hc ih
  | case9 c rest hu hpair hlast hq hc ih =>
    have hb := hplain hpair hlast
    rw [marks_plain hb]
    exact .plain hq hb (Nat.le_of_not_lt hc) ih

namespace Literal

variable {t : Text} {ms : List Mark}

/-- A character between the quotes is no low surrogate, however it is written. -/
theorem isLowSurrogate_eq_false (h : Literal t ms) (hms : ∀ m rest, ms ≠ .unit m :: rest)
    {a b c d : Char} {m : Nat} {u v : Text}
    (ht : t ++ '"' :: u = '\\' :: 'u' :: a :: b :: c :: d :: v) (hm : codeUnit? a b c d = some m) :
    isLowSurrogate m = false := by
  cases h with
  | nil => cases ht
  | plain hq hb hc h => exact absurd (List.cons.inj ht).1 hb
  | simple he h =>
    obtain ⟨rfl, -⟩ := List.cons.inj (List.cons.inj ht).2
    cases he
  | control hc h =>
    simp only [List.cons_append, List.cons.injEq] at ht
    obtain ⟨-, -, rfl, rfl, rfl, rfl, -⟩ := ht
    rw [codeUnit?_control _ hc] at hm
    rw [← Option.some.inj hm]
    exact (not_isSurrogate_of_lt hc).1
  | codeUnit hn h => exact absurd rfl (hms _ _)

theorem consTo_map (c : Char) (o : Option Text) (rest : Text) :
    consTo c (o.map (·, rest)) = (o.map (c :: ·)).map (·, rest) := by
  cases o <;> rfl

/-- The reader of strings gives what the marks denote. -/
theorem stringBody_eq (h : Literal t ms) (rest : Text) :
    stringBody (t ++ '"' :: rest) = (joined? ms).map (·, rest) := by
  -- on the marks, of which a pair of surrogates takes two
  fun_induction joined? ms generalizing t with
  | case1 =>
    cases h
    exact stringBody_quote rest
  | case2 c ms ih =>
    cases h with
    | plain hq hb hc h => rw [List.cons_append, stringBody_plain hq hb hc, ih h, consTo_map]
    | simple he h => rw [List.cons_append, List.cons_append, stringBody_simple he, ih h, consTo_map]
    | control hc h => rw [List.append_assoc, stringBody_control hc, ih h, consTo_map]
  | case3 n hhigh m ms hlow ih =>
    cases h with
    | codeUnit hn h =>
      cases h with
      | codeUnit hm h =>
        simp only [List.cons_append]
        rw [stringBody_pair hn hhigh hm, if_pos hlow, ih h, consTo_map]
  | case4 n hhigh m ms hlow =>
    cases h with
    | codeUnit hn h =>
      cases h with
      | codeUnit hm h =>
        simp only [List.cons_append]
        rw [stringBody_pair hn hhigh hm, if_neg hlow]
        rfl
  | case5 n ms hhigh hms =>
    cases h with
    | codeUnit hn h =>
      simp only [List.cons_append]
      apply stringBody_lone hn hhigh
      exact fun _ _ _ _ _ _ ht hm => h.isLowSurrogate_eq_false hms ht hm
  | case6 n ms hhigh hlow =>
    cases h with
    | codeUnit hn h =>
      simp only [List.cons_append]
      exact stringBody_low hn hlow _
  | case7 n ms hhigh hlow ih =>
    cases h with
    | codeUnit hn h =>
      simp only [List.cons_append]
      rw [stringBody_codeUnit hn (by simpa using hlow) (by simpa using hhigh), ih h, consTo_map]

end Literal

theorem unescaped?_eq_decoded? (t : Text) : unescaped? t = decoded? t := by
  rw [unescaped?, (literal_guarded t).stringBody_eq [], decoded?]
  cases joined? (marks t) <;> rfl

/-- Text that reads as another one between quotes, and is the shortest that does. -/
structure IsShortest (w d : Text) : Prop where
  reads : read? ('"' :: w ++ ['"']) = some (.string (.ofList d))
  shortest : ∀ v, read? ('"' :: v ++ ['"']) = some (.string (.ofList d)) → w.length ≤ v.length

/-- Only a string is read from text that begins with a quote. -/
theorem stringBody_of_read? {v d : Text} (h : read? ('"' :: v) = some (.string (.ofList d))) :
    ∃ rest, stringBody v = some (d, rest) := by
  rw [read?, value_scalar (by decide) (by decide) (by decide), scalar] at h
  cases hbody : stringBody v with
  | none =>
    rw [hbody] at h
    cases h
  | some p =>
    rw [hbody] at h
    obtain ⟨u, rest⟩ := p
    dsimp only [Option.map_some] at h
    split_ifs at h
    have hlist := congrArg String.toList (Value.string.inj (Option.some.inj h))
    rw [String.toList_ofList, String.toList_ofList] at hlist
    exact ⟨rest, by rw [hlist]⟩

theorem isShortest_escaped (d : Text) : IsShortest (escaped d) d where
  reads := by
    have hread := (Value.Fits.string (.ofList d)).read?_text
    rwa [Value.text, String.toList_ofList] at hread
  shortest v hv := by
    obtain ⟨rest, hbody⟩ : ∃ rest, stringBody (v ++ ['"']) = some (d, rest) :=
      stringBody_of_read? hv
    have hle := length_escaped_le hbody
    rw [List.length_append, List.length_singleton] at hle
    omega

theorem readable_of_untruthy {t : Text} (h : truthy? t = none) :
    readable t = ((decoded? t).map escaped).getD t := by
  rw [readable, h, unescaped?_eq_decoded?]
  cases decoded? t <;> rfl

/-- Text that holds no truthy document is taken for the inside of a string: what it denotes is
written anew, escaped as little as can be, and text that denotes nothing stays as it is. -/
theorem readable_inside {t : Text} (h : truthy? t = none) :
    (∀ d, decoded? t = some d → readable t = escaped d ∧ IsShortest (readable t) d) ∧
      (decoded? t = none → readable t = t) := by
  have hreadable := readable_of_untruthy h
  constructor
  · intro d hd
    rw [hd] at hreadable
    exact ⟨hreadable, hreadable ▸ isShortest_escaped d⟩
  · intro hd
    rw [hreadable, hd]
    rfl

theorem readable_inside_surrogates :
    readable "\\ud83d\\ude00\\q\"\n".toList = "😀\\\\q\\\"\\n".toList ∧
      IsShortest (readable "\\ud83d\\ude00\\q\"\n".toList) "😀\\q\"\n".toList ∧
      readable "\\ud83d\"".toList = "\\ud83d\"".toList := by
  have hpair : truthy? "\\ud83d\\ude00\\q\"\n".toList = none := by decide +kernel
  have hlone : truthy? "\\ud83d\"".toList = none := by decide +kernel
  obtain ⟨htext, hshortest⟩ :=
    (readable_inside hpair).1 "😀\\q\"\n".toList (by decide +kernel)
  have hescaped : escaped "😀\\q\"\n".toList = "😀\\\\q\\\"\\n".toList := by decide +kernel
  exact ⟨htext.trans hescaped, hshortest, (readable_inside hlone).2 (by decide +kernel)⟩

end HttpJournal.Json
