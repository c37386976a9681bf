import HttpJournal.Placeholder
import HttpJournal.Proofs.List
import Mathlib.Tactic.SplitIfs

namespace HttpJournal

namespace Piece

theorem bounds_of_isNameChar {c : Char} (h : isNameChar c) : 0x2D ≤ c.toNat ∧ c.toNat ≤ 0x7A := by
  delta isNameChar Char.isAlphanum Char.isAlpha Char.isUpper Char.isLower Char.isDigit at h
  simp only [Bool.or_eq_true, Bool.and_eq_true, decide_eq_true_eq, beq_iff_eq, ge_iff_le,
    UInt32.le_iff_toNat_le] at h
  change ((((0x41 ≤ c.toNat ∧ c.toNat ≤ 0x5A ∨ 0x61 ≤ c.toNat ∧ c.toNat ≤ 0x7A) ∨
    0x30 ≤ c.toNat ∧ c.toNat ≤ 0x39) ∨ c = '_') ∨ c = '-') ∨ c = '.' at h
  rcases h with (((h | h) | rfl) | rfl) | rfl
  · omega
  · omega
  all_goals decide

theorem isBlank_of_isNameChar {c : Char} (h : isNameChar c) : isBlank c = false := by
  have hb := bounds_of_isNameChar h
  simp [isBlank]
  omega

/-- What stands between the braces of a placeholder. -/
structure Inside (body name : Text) : Prop where
  blanks : ∃ a b, body = a ++ (name ++ b) ∧ (∀ c ∈ a, isBlank c) ∧ ∀ c ∈ b, isBlank c
  name_ne_nil : name ≠ []
  name_chars : ∀ c ∈ name, isNameChar c

theorem Inside.not_mem {body name : Text} (h : Inside body name) {c : Char}
    (hb : isBlank c = false) (hn : isNameChar c = false) : c ∉ body := by
  obtain ⟨a, b, rfl, ha, hb'⟩ := h.blanks
  intro hc
  simp only [List.mem_append] at hc
  rcases hc with hc | hc | hc
  · exact absurd (ha c hc) (by simp [hb])
  · exact absurd (h.name_chars c hc) (by simp [hn])
  · exact absurd (hb' c hc) (by simp [hb])

theorem name?_of_inside {body name : Text} (h : Inside body name) (rest : Text) :
    name? (body ++ '}' :: rest) = some (name, rest) := by
  obtain ⟨a, b, rfl, ha, hb⟩ := h.blanks
  have hchars := h.name_chars
  -- what follows the name is no name character, be it a blank or the brace
  obtain ⟨d, u, hd, hdn⟩ : ∃ d u, b ++ '}' :: rest = d :: u ∧ isNameChar d = false := by
    cases b with
    | nil => exact ⟨'}', rest, rfl, by decide⟩
    | cons d b =>
      refine ⟨d, b ++ '}' :: rest, rfl, ?_⟩
      by_contra hn
      have hblank := hb d List.mem_cons_self
      rw [isBlank_of_isNameChar (by simpa using hn)] at hblank
      cases hblank
  obtain ⟨n, ns, hn⟩ := List.exists_cons_of_ne_nil h.name_ne_nil
  have hnb : isBlank n = false := isBlank_of_isNameChar (hchars n (hn ▸ List.mem_cons_self))
  have hinner : (a ++ (name ++ b) ++ '}' :: rest).dropWhile isBlank = name ++ d :: u := by
    rw [List.append_assoc, List.append_assoc, hd, hn, List.cons_append, dropWhile_stop ha hnb]
  have hempty : name.isEmpty = false := by simp [hn]
  unfold name?
  dsimp only
  rw [hinner, dropWhile_stop hchars hdn, takeWhile_stop hchars hdn, ← hd,
    dropWhile_stop hb (by decide)]
  simp only [hempty]
  rfl

theorem inside_of_name? {t name rest : Text} (h : name? t = some (name, rest)) :
    ∃ body, t = body ++ '}' :: rest ∧ Inside body name := by
  unfold name? at h
  dsimp only at h
  split at h
  case h_2 => cases h
  case h_1 tail hclose =>
    split_ifs at h with hempty
    obtain ⟨rfl, rfl⟩ := Prod.mk.inj (Option.some.inj h)
    refine ⟨t.takeWhile isBlank ++ ((t.dropWhile isBlank).takeWhile isNameChar ++
      ((t.dropWhile isBlank).dropWhile isNameChar).takeWhile isBlank), ?_, ?_⟩
    · rw [List.append_assoc, List.append_assoc, ← hclose, List.takeWhile_append_dropWhile,
        List.takeWhile_append_dropWhile, List.takeWhile_append_dropWhile]
    · refine ⟨⟨_, _, rfl, ?_, ?_⟩, ?_, ?_⟩
      · exact fun c hc => List.mem_takeWhile_imp hc
      · exact fun c hc => List.mem_takeWhile_imp hc
      · simpa [List.isEmpty_iff] using hempty
      · exact fun c hc => List.mem_takeWhile_imp hc

theorem name?_append {t name rest : Text} (h : name? t = some (name, rest)) (u : Text) :
    name? (t ++ u) = some (name, rest ++ u) := by
  obtain ⟨body, rfl, hbody⟩ := inside_of_name? h
  rw [List.append_assoc, List.cons_append]
  exact name?_of_inside hbody (rest ++ u)

/-- A comma comes before the first closing brace, so no placeholder reaches into the text. -/
def Shut (t : Text) : Prop := t = [] ∨ ',' ∈ t.takeWhile (· ≠ '}')

theorem name?_of_append {t u name rest : Text} (hu : Shut u)
    (h : name? (t ++ u) = some (name, rest)) : ∃ rest, name? t = some (name, rest) := by
  obtain ⟨body, hbody, hinside⟩ := inside_of_name? h
  have hcomma : ',' ∉ body := hinside.not_mem (by decide) (by decide)
  have hbrace : '}' ∉ body := hinside.not_mem (by decide) (by decide)
  rcases List.append_eq_append_iff.mp hbody with ⟨x, rfl, hx⟩ | ⟨x, rfl, hx⟩
  · -- the closing brace would stand in `u`, behind its comma
    rcases hu with rfl | hu
    · cases x <;> cases hx
    · rw [List.mem_append, not_or] at hcomma hbrace
      have hall : ∀ c ∈ x, decide (c ≠ '}') = true := by
        intro c hc
        rw [decide_eq_true_eq]
        rintro rfl
        exact hbrace.2 hc
      rw [hx, takeWhile_stop hall (by decide)] at hu
      exact absurd hu hcomma.2
  · cases x with
    | nil =>
      rcases hu with rfl | hu
      · cases hx
      · rw [List.nil_append] at hx
        rw [← hx, List.takeWhile_cons_of_neg (by decide)] at hu
        cases hu
    | cons c x =>
      rw [List.cons_append] at hx
      obtain ⟨rfl, -⟩ := List.cons.inj hx
      exact ⟨x, name?_of_inside hinside x⟩

theorem scanFrom_eq_drop (skip : Nat) (t : Text) : scanFrom skip t = scan (t.drop skip) := by
  induction t generalizing skip with
  | nil => cases skip <;> rfl
  | cons c t ih =>
    cases skip with
    | zero => rfl
    | succ skip => exact ih skip

theorem scan_placeholder {t name rest : Text} (h : name? t = some (name, rest)) :
    scan ('{' :: t) = .placeholder (.ofList name) :: scan rest := by
  obtain ⟨body, hbody, -⟩ := inside_of_name? h
  have hdrop : t.drop (t.length - rest.length) = rest := by
    have hlen : t.length - rest.length = (body ++ ['}']).length := by
      rw [hbody]
      simp only [List.length_append, List.length_cons, List.length_nil]
      omega
    rw [hlen, hbody, List.append_cons body '}' rest, List.drop_left]
  rw [scan, scanFrom]
  simp only [if_true, h]
  rw [scanFrom_eq_drop, hdrop]

theorem scan_literal {c : Char} {t : Text} (h : c = '{' → name? t = none) :
    scan (c :: t) = .literal c :: scan t := by
  rw [scan, scanFrom]
  by_cases hc : c = '{'
  · simp only [if_pos hc, h hc]
    rfl
  · simp only [if_neg hc]
    rfl

theorem scan_append {u : Text} (hu : Shut u) (t : Text) : scan (t ++ u) = scan t ++ scan u := by
  induction hn : t.length using Nat.strongRecOn generalizing t with
  | ind n ih =>
    -- on the length, since a placeholder takes away more than one character
    cases t with
    | nil => rfl
    | cons c t =>
      rw [List.length_cons] at hn
      by_cases hname : c = '{' ∧ (name? t).isSome
      · obtain ⟨rfl, hsome⟩ := hname
        obtain ⟨⟨name, rest⟩, hname⟩ := Option.isSome_iff_exists.mp hsome
        obtain ⟨body, hbody, -⟩ := inside_of_name? hname
        have hlen : rest.length < n := by
          rw [hbody, List.length_append, List.length_cons] at hn
          omega
        rw [List.cons_append, scan_placeholder (name?_append hname u), scan_placeholder hname,
          ih rest.length hlen rest rfl]
        rfl
      · have ht : c = '{' → name? t = none := by
          intro hc
          rw [not_and, Bool.not_eq_true, Option.isSome_eq_false_iff, Option.isNone_iff_eq_none]
            at hname
          exact hname hc
        have htu : c = '{' → name? (t ++ u) = none := by
          intro hc
          rw [Option.eq_none_iff_forall_not_mem]
          rintro ⟨name, rest⟩ h
          obtain ⟨rest, h'⟩ := name?_of_append hu h
          rw [ht hc] at h'
          cases h'
        rw [List.cons_append, scan_literal htu, scan_literal ht, ih t.length (by omega) t rfl]
        rfl

theorem scan_literals {t : Text} (ht : '{' ∉ t) (u : Text) :
    scan (t ++ u) = t.map Piece.literal ++ scan u := by
  induction t with
  | nil => rfl
  | cons c t ih =>
    rw [List.mem_cons, not_or] at ht
    rw [List.cons_append, scan_literal (fun hc => absurd hc.symm ht.1), ih ht.2]
    rfl

end Piece

/-- Names that a resolver was asked for, each with its answer, in the order of the calls. -/
abbrev Calls := List (String × Option Bytes)

/-- A resolver that answers as before and writes down its calls. -/
def Resolver.logged {σ : Type} (resolve : Resolver σ) : Resolver (σ × Calls) := fun name s =>
  ((resolve name s.1).1, ((resolve name s.1).2, s.2 ++ [(name, (resolve name s.1).1)]))

def Calls.value (calls : Calls) (name : String) : Bytes := (calls.lookup name).join.getD []

def Piece.fill (value : String → Bytes) : Piece → Bytes
  | .literal c => String.utf8EncodeChar c
  | .placeholder name => value name

namespace Expansion

variable {σ : Type}

def calls (resolve : Resolver σ) (template : String) (s : σ) : Calls :=
  (expandM resolve.logged template (s, [])).2.2

/-- A text with every placeholder replaced by the value of its name. -/
def filled (value : String → Bytes) (text : Text) : Bytes :=
  (Piece.scan text).flatMap (Piece.fill value)

theorem filled_append {u : Text} (hu : Piece.Shut u) (value : String → Bytes) (t : Text) :
    filled value (t ++ u) = filled value t ++ filled value u := by
  rw [filled, Piece.scan_append hu, List.flatMap_append]
  rfl

theorem filled_literals {t : Text} (ht : '{' ∉ t) (value : String → Bytes) (u : Text) :
    filled value (t ++ u) = Utf8.encode t ++ filled value u := by
  rw [filled, Piece.scan_literals ht, List.flatMap_append, List.flatMap_map]
  rfl

def Agree (known : List (String × Bytes)) (log : Calls) : Prop :=
  ∀ name, known.lookup name = (log.lookup name).map fun answer => answer.getD []

/-- One more answer is known. -/
theorem Agree.ask {known : List (String × Bytes)} {log : Calls} (h : Agree known log)
    {name : String} (hname : known.lookup name = none) (answer : Option Bytes) :
    Agree ((name, answer.getD []) :: known) (log ++ [(name, answer)]) := by
  intro n
  rw [List.lookup_append]
  by_cases hn : n = name
  · subst hn
    have hlog : log.lookup n = none := by
      rw [h n] at hname
      exact Option.map_eq_none_iff.mp hname
    simp [hlog]
  · have hne : (n == name) = false := by simpa using hn
    simp [List.lookup_cons, hne, h n]

theorem Agree.value {known : List (String × Bytes)} {log : Calls} (h : Agree known log)
    {name : String} {value : Bytes} (hname : known.lookup name = some value) (new : Calls) :
    Calls.value (log ++ new) name = value := by
  rw [h name] at hname
  obtain ⟨answer, hlog, rfl⟩ := Option.map_eq_some_iff.mp hname
  rw [Calls.value, List.lookup_append, hlog]
  rfl

def answered (name : String) (e : Expansion) : Option Bytes → Expansion
  | some value => e.prepend value
  | none => { e with unknown := name :: e.unknown }

theorem text_answered (name : String) (e : Expansion) (answer : Option Bytes) :
    (answered name e answer).text = answer.getD [] ++ e.text := by
  cases answer <;> rfl

theorem ofPieces_literal (resolve : Resolver σ) (known : List (String × Bytes)) (c : Char)
    (rest : List Piece) (s : σ) :
    ofPieces resolve known (.literal c :: rest) s =
      ((ofPieces resolve known rest s).1.prepend (String.utf8EncodeChar c),
        (ofPieces resolve known rest s).2) :=
  rfl

theorem ofPieces_known (resolve : Resolver σ) {known : List (String × Bytes)} {name : String}
    {value : Bytes} (h : known.lookup name = some value) (rest : List Piece) (s : σ) :
    ofPieces resolve known (.placeholder name :: rest) s =
      ((ofPieces resolve known rest s).1.prepend value, (ofPieces resolve known rest s).2) := by
  rw [ofPieces]
  simp only [h]
  rfl

theorem ofPieces_ask (resolve : Resolver σ) {known : List (String × Bytes)} {name : String}
    (h : known.lookup name = none) (rest : List Piece) {s s' : σ} {answer : Option Bytes}
    (ha : resolve name s = (answer, s')) :
    ofPieces resolve known (.placeholder name :: rest) s =
      (answered name (ofPieces resolve ((name, answer.getD []) :: known) rest s').1 answer,
        (ofPieces resolve ((name, answer.getD []) :: known) rest s').2) := by
  rw [ofPieces]
  simp only [h]
  cases answer <;> simp only [bind, StateT.bind, ha] <;> rfl

/-- The pieces from one on: the calls that are still made, whoever writes them down, and what the
answers put into the text. -/
theorem ofPieces_logged (resolve : Resolver σ) (pieces : List Piece)
    {known : List (String × Bytes)} {log : Calls} (h : Agree known log) (s : σ) :
    ∃ e s' new, ofPieces resolve.logged known pieces (s, log) = (e, s', log ++ new) ∧
      ofPieces resolve known pieces s = (e, s') ∧
      e.text = pieces.flatMap (Piece.fill (Calls.value (log ++ new))) := by
  induction pieces generalizing known log s with
  | nil => exact ⟨⟨[], []⟩, s, [], by rw [List.append_nil]; rfl, rfl, rfl⟩
  | cons piece pieces ih =>
    cases piece with
    | literal c =>
      obtain ⟨e, s', new, hlogged, hplain, htext⟩ := ih h s
      refine ⟨e.prepend (String.utf8EncodeChar c), s', new, ?_, ?_, ?_⟩
      · rw [ofPieces_literal, hlogged]
      · rw [ofPieces_literal, hplain]
      · rw [List.flatMap_cons, ← htext]
        rfl
    | placeholder name =>
      -- only a name that is not known is asked for, and then it is known
      cases hname : known.lookup name with
      | some value =>
        obtain ⟨e, s', new, hlogged, hplain, htext⟩ := ih h s
        refine ⟨e.prepend value, s', new, ?_, ?_, ?_⟩
        · rw [ofPieces_known _ hname, hlogged]
        · rw [ofPieces_known _ hname, hplain]
        · rw [List.flatMap_cons, ← htext, Piece.fill, h.value hname]
          rfl
      | none =>
        rcases hanswer : resolve name s with ⟨answer, t⟩
        have hask : resolve.logged name (s, log) = (answer, t, log ++ [(name, answer)]) := by
          rw [Resolver.logged, hanswer]
        obtain ⟨e, s', new, hlogged, hplain, htext⟩ := ih (h.ask hname answer) t
        rw [List.append_assoc] at hlogged htext
        refine ⟨answered name e answer, s', (name, answer) :: new, ?_, ?_, ?_⟩
        · rw [ofPieces_ask _ hname _ hask, hlogged]
          rfl
        · rw [ofPieces_ask _ hname _ hanswer, hplain]
        · have hvalue := (h.ask hname answer).value List.lookup_cons_self new
          rw [List.append_assoc] at hvalue
          rw [text_answered, List.flatMap_cons, htext]
          exact congrArg (· ++ _) hvalue.symm

theorem agree_nil : Agree [] [] := fun _ => rfl

/-- The text of an expansion is the template with each placeholder replaced by the answer of the
call that was made for its name. -/
theorem expandM_text (resolve : Resolver σ) (template : String) (s : σ) :
    (expandM resolve template s).1.text =
      filled (calls resolve template s).value template.toList := by
  obtain ⟨e, s', new, hlogged, hplain, htext⟩ :=
    ofPieces_logged resolve (Piece.scan template.toList) agree_nil s
  have hcalls : calls resolve template s = [] ++ new :=
    congrArg (fun r => r.2.2) hlogged
  have hexpand : (expandM resolve template s).1 = e := congrArg Prod.fst hplain
  rw [hcalls, hexpand, htext]
  rfl

theorem ofPieces_pure (resolve : String → Option Bytes) (pieces : List Piece)
    {known : List (String × Bytes)}
    (h : ∀ name value, known.lookup name = some value → value = (resolve name).getD []) :
    (ofPieces (fun name => (pure (resolve name) : StateM Unit _)) known pieces ()).1.text =
      pieces.flatMap (Piece.fill fun name => (resolve name).getD []) := by
  induction pieces generalizing known with
  | nil => rfl
  | cons piece pieces ih =>
    cases piece with
    | literal c =>
      rw [ofPieces_literal, List.flatMap_cons, ← ih h]
      rfl
    | placeholder name =>
      cases hname : known.lookup name with
      | some value =>
        rw [ofPieces_known _ hname, List.flatMap_cons, ← ih h, Piece.fill, ← h name value hname]
        rfl
      | none =>
        have hask : ∀ n value,
            ((name, (resolve name).getD []) :: known).lookup n = some value →
              value = (resolve n).getD [] := by
          intro n value hn
          by_cases hne : n = name
          · rw [hne, List.lookup_cons_self] at hn
            rw [hne, Option.some.inj hn]
          · have hbeq : (n == name) = false := by simpa using hne
            rw [List.lookup_cons, hbeq] at hn
            exact h n value hn
        rw [ofPieces_ask _ hname pieces rfl, text_answered, List.flatMap_cons, ih hask]
        rfl

/-- Without a state, the text is the template with the value of each name in its place. -/
theorem expand_text (resolve : String → Option Bytes) (template : String) :
    (expand resolve template).text =
      filled (fun name => (resolve name).getD []) template.toList := by
  apply ofPieces_pure
  intro _ _ h
  cases h

end Expansion

end HttpJournal
