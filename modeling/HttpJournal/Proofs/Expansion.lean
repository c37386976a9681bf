import HttpJournal.Proofs.Placeholder

namespace HttpJournal

@[ext]
structure Occurrence where
  body : Text
  name : Text
  inside : Piece.Inside body name

namespace Occurrence

def text (o : Occurrence) : Text := '{' :: (o.body ++ ['}'])

theorem text_append (o : Occurrence) (v : Text) : o.text ++ v = '{' :: (o.body ++ '}' :: v) := by
  simp [text]

/-- What begins with a placeholder does so in one way. -/
theorem eq_of_append {o o' : Occurrence} {v v' : Text} (h : o.text ++ v = o'.text ++ v') :
    o = o' ∧ v = v' := by
  rw [text_append, text_append] at h
  have hbody : o.body ++ '}' :: v = o'.body ++ '}' :: v' := (List.cons.inj h).2
  have hname := Piece.name?_of_inside o.inside v
  rw [hbody, Piece.name?_of_inside o'.inside v'] at hname
  obtain ⟨hn, rfl⟩ := Prod.mk.inj (Option.some.inj hname)
  exact ⟨Occurrence.ext (List.append_cancel_right hbody) hn.symm, rfl⟩

/-- A placeholder holds no opening brace but its first. -/
theorem not_mem_rest (o : Occurrence) : '{' ∉ o.body ++ ['}'] := by
  rw [List.mem_append, not_or]
  exact ⟨o.inside.not_mem (by decide) (by decide), by decide⟩

/-- Placeholders do not overlap: one that begins behind the start of another begins behind its
end. -/
theorem text_prefix {o o' : Occurrence} {c : Char} {u v v' : Text}
    (h : o.text ++ v = c :: u ++ (o'.text ++ v')) : ∃ w, c :: u = o.text ++ w := by
  rcases List.append_eq_append_iff.mp h with ⟨w, hw, -⟩ | ⟨w, hw, hv⟩
  · exact ⟨w, hw⟩
  · cases w with
    | nil => exact ⟨[], by rw [hw, List.append_nil, List.append_nil]⟩
    | cons d w =>
      -- the opening brace of the second would stand inside the first
      rw [text, List.cons_append] at hv
      rw [text, List.cons_append] at hw
      have hmem : d ∈ o.body ++ ['}'] := by
        rw [(List.cons.inj hw).2]
        exact List.mem_append_right u List.mem_cons_self
      rw [← (List.cons.inj hv).1] at hmem
      exact absurd hmem o.not_mem_rest

end Occurrence

/-- A character that stands for itself, or a placeholder. -/
inductive Segment where
  | literal (c : Char)
  | placeholder (o : Occurrence)

namespace Segment

def text : Segment → Text
  | literal c => [c]
  | placeholder o => o.text

def piece : Segment → Piece
  | literal c => .literal c
  | placeholder o => .placeholder (.ofList o.name)

theorem text_ne_nil (s : Segment) : s.text ≠ [] := by
  cases s <;> exact List.cons_ne_nil _ _

theorem eq_nil_of_text {segments : List Segment} (h : segments.flatMap text = []) :
    segments = [] := by
  cases segments with
  | nil => rfl
  | cons s rest => exact absurd (List.append_eq_nil_iff.mp h).1 s.text_ne_nil

end Segment

/-- The segments of a text, with every placeholder that occurs anywhere in the text among them. -/
structure Cut (t : Text) (segments : List Segment) : Prop where
  joined : segments.flatMap Segment.text = t
  complete : ∀ u (o : Occurrence) v, t = u ++ (o.text ++ v) →
    ∃ before after, segments = before ++ .placeholder o :: after ∧
      before.flatMap Segment.text = u ∧ after.flatMap Segment.text = v

namespace Cut

theorem nil : Cut [] [] where
  joined := rfl
  complete u o v h := by
    have hnil := (List.append_eq_nil_iff.mp (List.append_eq_nil_iff.mp h.symm).2).1
    cases hnil

theorem placeholder (o : Occurrence) {t : Text} {segments : List Segment} (h : Cut t segments) :
    Cut (o.text ++ t) (.placeholder o :: segments) where
  joined := by rw [List.flatMap_cons, h.joined]; rfl
  complete u o' v ho' := by
    cases u with
    | nil =>
      obtain ⟨rfl, rfl⟩ := Occurrence.eq_of_append ho'
      exact ⟨[], segments, rfl, rfl, h.joined⟩
    | cons c u =>
      -- the other placeholder lies behind the first, where the cut of the rest has it
      obtain ⟨w, hw⟩ := Occurrence.text_prefix ho'
      rw [hw, List.append_assoc, List.append_cancel_left_eq] at ho'
      obtain ⟨before, after, rfl, rfl, rfl⟩ := h.complete w o' v ho'
      exact ⟨.placeholder o :: before, after, rfl, by rw [hw]; rfl, rfl⟩

theorem literal {c : Char} {t : Text} (hc : c = '{' → Piece.name? t = none)
    {segments : List Segment} (h : Cut t segments) : Cut (c :: t) (.literal c :: segments) where
  joined := by rw [List.flatMap_cons, h.joined]; rfl
  complete u o v ho := by
    cases u with
    | nil =>
      rw [List.nil_append, o.text_append] at ho
      obtain ⟨rfl, rfl⟩ := List.cons.inj ho
      have hname := hc rfl
      rw [Piece.name?_of_inside o.inside v] at hname
      cases hname
    | cons d u =>
      obtain ⟨rfl, ht⟩ := List.cons.inj ho
      obtain ⟨before, after, rfl, rfl, rfl⟩ := h.complete u o v ht
      exact ⟨.literal c :: before, after, rfl, rfl, rfl⟩

/-- What follows the first segment is cut into the others. -/
theorem tail {t : Text} {s : Segment} {segments : List Segment}
    (h : Cut (s.text ++ t) (s :: segments)) : Cut t segments where
  joined := List.append_cancel_left h.joined
  complete u o v ho := by
    obtain ⟨before, after, hsegments, hbefore, hafter⟩ :=
      h.complete (s.text ++ u) o v (by rw [ho, List.append_assoc])
    cases before with
    | nil => exact absurd (List.append_eq_nil_iff.mp hbefore.symm).1 s.text_ne_nil
    | cons s' before =>
      obtain ⟨rfl, rfl⟩ := List.cons.inj hsegments
      exact ⟨before, after, rfl, List.append_cancel_left hbefore, hafter⟩

/-- A placeholder at the start of a text is the first segment of every cut. -/
theorem head_of_placeholder {o : Occurrence} {t : Text} {segments : List Segment}
    (h : Cut (o.text ++ t) segments) : ∃ rest, segments = .placeholder o :: rest := by
  obtain ⟨before, after, rfl, hbefore, -⟩ := h.complete [] o t rfl
  obtain rfl := Segment.eq_nil_of_text hbefore
  exact ⟨after, rfl⟩

theorem eq_head {t t' : Text} {s s' : Segment} {rest rest' : List Segment}
    (ht : s.text ++ t = s'.text ++ t') (h : Cut (s.text ++ t) (s :: rest))
    (h' : Cut (s'.text ++ t') (s' :: rest')) : s = s' := by
  cases s with
  | placeholder o =>
    rw [← ht] at h'
    obtain ⟨_, hcons⟩ := h'.head_of_placeholder
    exact (List.cons.inj hcons).1.symm
  | literal c =>
    cases s' with
    | placeholder o =>
      rw [ht] at h
      obtain ⟨_, hcons⟩ := h.head_of_placeholder
      exact (List.cons.inj hcons).1
    | literal d => exact congrArg Segment.literal (List.cons.inj ht).1

theorem unique {t : Text} {segments segments' : List Segment} (h : Cut t segments)
    (h' : Cut t segments') : segments = segments' := by
  induction segments generalizing t segments' with
  | nil =>
    obtain rfl := h.joined
    exact (Segment.eq_nil_of_text h'.joined).symm
  | cons s rest ih =>
    obtain rfl := h.joined
    cases segments' with
    | nil => exact absurd (List.append_eq_nil_iff.mp h'.joined.symm).1 s.text_ne_nil
    | cons s' rest' =>
      have ht : s.text ++ rest.flatMap Segment.text = s'.text ++ rest'.flatMap Segment.text :=
        h'.joined.symm
      have hs : s = s' := eq_head ht h (by rw [← ht]; exact h')
      subst hs
      exact congrArg (s :: ·) (ih h.tail h'.tail)

/-- The scan of a text finds the cut. -/
theorem exists_scan (t : Text) :
    ∃ segments, Cut t segments ∧ segments.map Segment.piece = Piece.scan t := by
  induction hn : t.length using Nat.strongRecOn generalizing t with
  | ind n ih =>
    -- on the length, since a placeholder takes away more than one character
    cases t with
    | nil => exact ⟨[], nil, rfl⟩
    | cons c t =>
      rw [List.length_cons] at hn
      by_cases hname : c = '{' ∧ (Piece.name? t).isSome
      · obtain ⟨rfl, hsome⟩ := hname
        obtain ⟨⟨name, rest⟩, hname⟩ := Option.isSome_iff_exists.mp hsome
        obtain ⟨body, rfl, hinside⟩ := Piece.inside_of_name? hname
        rw [List.length_append, List.length_cons] at hn
        obtain ⟨segments, hcut, hscan⟩ := ih rest.length (by omega) rest rfl
        have hplaceholder := placeholder ⟨body, name, hinside⟩ hcut
        rw [Occurrence.text_append] at hplaceholder
        refine ⟨_, hplaceholder, ?_⟩
        rw [Piece.scan_placeholder hname, List.map_cons, hscan]
        rfl
      · have hnone : c = '{' → Piece.name? t = none := by
          intro hc
          rw [not_and, Bool.not_eq_true, Option.isSome_eq_false_iff, Option.isNone_iff_eq_none]
            at hname
          exact hname hc
        obtain ⟨segments, hcut, hscan⟩ := ih t.length (by omega) t rfl
        refine ⟨_, literal hnone hcut, ?_⟩
        rw [Piece.scan_literal hnone, List.map_cons, hscan]
        rfl

end Cut

def Piece.asked? : Piece → Option String
  | .literal _ => none
  | .placeholder name => some name

def Piece.names (pieces : List Piece) : List String := (pieces.filterMap asked?).eraseDups

def Calls.unknown (calls : Calls) : List String :=
  (calls.filter fun call => call.2.isNone).map Prod.fst

namespace Expansion

variable {σ : Type}

def askAll (resolve : Resolver σ) (names : List String) : StateM σ Calls :=
  names.mapM fun name => do return (name, ← resolve name)

theorem askAll_cons (resolve : Resolver σ) (name : String) (names : List String) (s : σ) :
    askAll resolve (name :: names) s =
      ((name, (resolve name s).1) :: (askAll resolve names (resolve name s).2).1,
        (askAll resolve names (resolve name s).2).2) := by
  rw [askAll, List.mapM_cons]
  rfl

theorem names_askAll (resolve : Resolver σ) (names : List String) (s : σ) :
    (askAll resolve names s).1.map Prod.fst = names := by
  induction names generalizing s with
  | nil => rfl
  | cons name names ih => rw [askAll_cons, List.map_cons, ih]

theorem askAll_logged (resolve : Resolver σ) (names : List String) (s : σ) (log : Calls) :
    askAll resolve.logged names (s, log) =
      ((askAll resolve names s).1, (askAll resolve names s).2,
        log ++ (askAll resolve names s).1) := by
  induction names generalizing s log with
  | nil => exact congrArg (fun log => ([], s, log)) (List.append_nil log).symm
  | cons name names ih =>
    rw [askAll_cons, askAll_cons, Resolver.logged, ih, List.append_assoc]
    rfl

/-- The names that pieces still ask for when `known` holds the answers so far. -/
def fresh (known : List (String × Bytes)) (pieces : List Piece) : List String :=
  ((pieces.filterMap Piece.asked?).filter fun name => (known.lookup name).isNone).eraseDups

theorem fresh_nil (pieces : List Piece) : fresh [] pieces = Piece.names pieces :=
  congrArg List.eraseDups (List.filter_eq_self.mpr fun _ _ => rfl)

theorem fresh_known {known : List (String × Bytes)} {name : String} {value : Bytes}
    (h : known.lookup name = some value) (pieces : List Piece) :
    fresh known (.placeholder name :: pieces) = fresh known pieces := by
  simp [fresh, Piece.asked?, h]

theorem fresh_ask {known : List (String × Bytes)} {name : String} (h : known.lookup name = none)
    (value : Bytes) (pieces : List Piece) :
    fresh known (.placeholder name :: pieces) = name :: fresh ((name, value) :: known) pieces := by
  have hnew : ∀ n, ((((name, value) :: known).lookup n).isNone : Bool) =
      (!n == name && (known.lookup n).isNone) := by
    intro n
    rw [List.lookup_cons]
    cases n == name <;> rfl
  simp only [fresh, hnew, List.filterMap_cons, Piece.asked?, List.filter_cons, h,
    Option.isNone_none, if_true, List.eraseDups_cons, List.filter_filter]

theorem unknown_answered (name : String) (e : Expansion) (answer : Option Bytes) (calls : Calls) :
    e.unknown = calls.unknown →
      (answered name e answer).unknown = Calls.unknown ((name, answer) :: calls) := by
  intro h
  cases answer with
  | none => exact congrArg (name :: ·) h
  | some value => exact h

/-- The resolver is asked for the fresh names, one by one, and for nothing else. -/
theorem ofPieces_askAll (resolve : Resolver σ) (pieces : List Piece)
    (known : List (String × Bytes)) (s : σ) :
    (ofPieces resolve known pieces s).2 = (askAll resolve (fresh known pieces) s).2 ∧
      (ofPieces resolve known pieces s).1.unknown =
        (askAll resolve (fresh known pieces) s).1.unknown := by
  -- an answer is known to the pieces that follow, and a fresh name is no longer fresh for them
  induction pieces generalizing known s with
  | nil => exact ⟨rfl, rfl⟩
  | cons piece pieces ih =>
    cases piece with
    | literal c => exact ih known s
    | placeholder name =>
      cases hname : known.lookup name with
      | some value =>
        rw [ofPieces_known resolve hname, fresh_known hname]
        exact ih known s
      | none =>
        rcases hanswer : resolve name s with ⟨answer, t⟩
        obtain ⟨hstate, hunknown⟩ := ih ((name, answer.getD []) :: known) t
        rw [ofPieces_ask resolve hname pieces hanswer, fresh_ask hname (answer.getD []),
          askAll_cons, hanswer]
        exact ⟨hstate, unknown_answered _ _ _ _ hunknown⟩

/-- The calls of an expansion: each name of the text once, in the order of first occurrence. -/
theorem calls_eq_askAll (resolve : Resolver σ) (template : String) (s : σ) :
    calls resolve template s =
      (askAll resolve (Piece.names (Piece.scan template.toList)) s).1 := by
  have h := (ofPieces_askAll resolve.logged (Piece.scan template.toList) [] (s, [])).1
  rw [fresh_nil, askAll_logged] at h
  exact congrArg Prod.snd h

/-- A text has one cut, and its expansion follows it: the calls are those of asking for each name of
the cut once and in the order of first occurrence, nothing else touches the resolver's state, every
placeholder is replaced by the answer to the one call for its name and all else is kept, and the
names without an answer are told in the order of the calls. -/
theorem expandM_cut (resolve : Resolver σ) (template : String) (s : σ) :
    ∃ segments, (∀ others, Cut template.toList others ↔ others = segments) ∧
      askAll resolve (Piece.names (segments.map Segment.piece)) s =
        (calls resolve template s, (expandM resolve template s).2) ∧
      (calls resolve template s).map Prod.fst = Piece.names (segments.map Segment.piece) ∧
      (expandM resolve template s).1.text =
        (segments.map Segment.piece).flatMap (Piece.fill (calls resolve template s).value) ∧
      (expandM resolve template s).1.unknown = (calls resolve template s).unknown := by
  obtain ⟨segments, hcut, hscan⟩ := Cut.exists_scan template.toList
  have hcalls := calls_eq_askAll resolve template s
  obtain ⟨hstate, hunknown⟩ := ofPieces_askAll resolve (Piece.scan template.toList) [] s
  rw [fresh_nil] at hstate hunknown
  refine ⟨segments, fun others => ⟨fun h => h.unique hcut, fun h => h ▸ hcut⟩, ?_⟩
  rw [hscan]
  refine ⟨?_, ?_, expandM_text resolve template s, ?_⟩
  · rw [hcalls]
    exact Prod.ext rfl hstate.symm
  · rw [hcalls, names_askAll]
  · rw [hcalls]
    exact hunknown

end Expansion

end HttpJournal
