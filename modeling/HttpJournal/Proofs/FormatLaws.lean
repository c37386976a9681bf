import HttpJournal.Proofs.FormatItems

namespace HttpJournal.Printf

open Json (Value)

theorem before_eq_map (t : Text) (r : Except Error Text) : before t r = r.map (t ++ ·) := by
  cases r <;> rfl

/-- What a result turns into when `more` arguments follow the `count` there were. One that was
missing may have come by, and then anything can follow. -/
inductive Persists {α : Type} (count more : Nat) : Except Error α → Except Error α → Prop
  | ok (x : α) : Persists count more (.ok x) (.ok x)
  | unknown (c : Char) :
    Persists count more (.error (.unknownConversion c)) (.error (.unknownConversion c))
  | truncated : Persists count more (.error .truncated) (.error .truncated)
  | missing {n : Nat} (h : n = 0 ∨ count + more < n) :
    Persists count more (.error (.missingArgument n count))
      (.error (.missingArgument n (count + more)))
  | found {n : Nat} (hmissing : count < n) (hfound : n ≤ count + more) (r : Except Error α) :
    Persists count more (.error (.missingArgument n count)) r

namespace Persists

variable {α β : Type} {count more : Nat} {r r' : Except Error α}

theorem bind (h : Persists count more r r') {f f' : α → Except Error β}
    (hf : ∀ x, Persists count more (f x) (f' x)) : Persists count more (r >>= f) (r' >>= f') := by
  cases h with
  | ok x => exact hf x
  | unknown c => exact .unknown c
  | truncated => exact .truncated
  | missing h => exact .missing h
  | found hmissing hfound => exact .found hmissing hfound _

theorem map (h : Persists count more r r') (f : α → β) :
    Persists count more (r.map f) (r'.map f) := by
  cases h with
  | ok x => exact .ok (f x)
  | unknown c => exact .unknown c
  | truncated => exact .truncated
  | missing h => exact .missing h
  | found hmissing hfound => exact .found hmissing hfound _

end Persists

section Append

variable {a b : List Value} {n : Nat}

theorem argument?_append (h : n ≤ a.length) : argument? (a ++ b) n = argument? a n := by
  rw [argument?, argument?]
  split_ifs
  · rfl
  · exact List.getElem?_append_left (by omega)

theorem argument?_eq_none_iff : argument? a n = none ↔ n = 0 ∨ a.length < n := by
  rw [argument?]
  split_ifs with h
  · simp [h]
  · rw [List.getElem?_eq_none_iff]
    omega

theorem substitute_of_none {c : Char} (h : n = 0 ∨ a.length < n) :
    substitute a n c = .error (.missingArgument n a.length) := by
  rw [substitute, argument?_eq_none_iff.mpr h]

theorem substitute_of_some {c : Char} {v : Value} (h : argument? a n = some v) :
    substitute a n c =
      ((conversion? c).elim (.error (.unknownConversion c)) fun write => .ok (write v)) := by
  rw [substitute, h]
  cases conversion? c <;> rfl

theorem persists_substitute (a b : List Value) (n : Nat) (c : Char) :
    Persists a.length b.length (substitute a n c) (substitute (a ++ b) n c) := by
  cases harg : argument? a n with
  | none =>
    have hn := argument?_eq_none_iff.mp harg
    rw [substitute_of_none hn]
    by_cases hstill : n = 0 ∨ a.length + b.length < n
    · rw [substitute_of_none (by rwa [List.length_append]), List.length_append]
      exact .missing hstill
    · exact .found (by omega) (by omega) _
  | some v =>
    have hn : n ≤ a.length := by
      by_contra hlt
      rw [argument?_eq_none_iff.mpr (Or.inr (Nat.lt_of_not_le hlt))] at harg
      cases harg
    have harg' : argument? (a ++ b) n = some v := (argument?_append hn).trans harg
    rw [substitute_of_some harg, substitute_of_some harg']
    cases conversion? c with
    | none => exact .unknown c
    | some write => exact .ok (write v)

theorem persists_text (a b : List Value) (passed : Nat) (item : Item) :
    Persists a.length b.length (item.text a passed) (item.text (a ++ b) passed) := by
  cases item with
  | literal t => exact .ok t
  | percent => exact .ok ['%']
  | sequential c => exact persists_substitute a b (passed + 1) c
  | positional digits c => exact persists_substitute a b (position digits) c
  | truncated => exact .truncated

/-- Item by item, since the place of a directive and not the count of arguments says which of them
it takes. -/
theorem persists_rendered (a b : List Value) (passed : Nat) (items : List Item) :
    Persists a.length b.length (rendered a passed items) (rendered (a ++ b) passed items) := by
  induction items generalizing passed with
  | nil => exact .ok []
  | cons item items ih =>
    rw [rendered_cons, rendered_cons]
    apply (persists_text a b passed item).bind
    intro t
    rw [before_eq_map, before_eq_map]
    exact (ih (item.next passed)).map (t ++ ·)

theorem persists_sprintf (format : String) (a b : List Value) :
    Persists a.length b.length (sprintf format a) (sprintf format (a ++ b)) := by
  obtain ⟨items, hitems⟩ := exists_cut format.toList
  rw [sprintf, sprintf, hitems.formatFrom_eq, hitems.formatFrom_eq]
  exact (persists_rendered a b 0 items).map String.ofList

/-- With further arguments behind its own a format gives the same message or the same error, unless
one of them is the argument that was missing. -/
theorem sprintf_append (format : String) (a b : List Value) :
    (∀ s, sprintf format a = .ok s → sprintf format (a ++ b) = .ok s) ∧
    (∀ c, sprintf format a = .error (.unknownConversion c) →
      sprintf format (a ++ b) = .error (.unknownConversion c)) ∧
    (sprintf format a = .error .truncated → sprintf format (a ++ b) = .error .truncated) ∧
    ∀ n count, sprintf format a = .error (.missingArgument n count) →
      count = a.length ∧ (n = 0 ∨ a.length < n) ∧
        (n = 0 ∨ a.length + b.length < n →
          sprintf format (a ++ b) = .error (.missingArgument n (a.length + b.length))) := by
  have h := persists_sprintf format a b
  generalize sprintf format a = r at h
  generalize sprintf format (a ++ b) = r' at h
  refine ⟨?_, ?_, ?_, ?_⟩
  · rintro s rfl
    cases h
    rfl
  · rintro c rfl
    cases h
    rfl
  · rintro rfl
    cases h
    rfl
  · rintro n count rfl
    cases h with
    | missing h => exact ⟨rfl, by omega, fun _ => rfl⟩
    | found hmissing hfound => exact ⟨rfl, Or.inr hmissing, fun h => by omega⟩

/-- One argument more, and the fourth is still missing. -/
theorem sprintf_append_fourth :
    sprintf "%2$s" [.null, .string "%"] = .ok "%" ∧
      sprintf "%2$s" [.null, .string "%", .null] = .ok "%" ∧
      sprintf "%q" [.null, .null] = .error (.unknownConversion 'q') ∧
      sprintf "%q" [.null, .null, .null] = .error (.unknownConversion 'q') ∧
      sprintf "%2$" [.null, .null] = .error .truncated ∧
      sprintf "%2$" [.null, .null, .null] = .error .truncated ∧
      sprintf "%4$d" [.null, .null] = .error (.missingArgument 4 2) ∧
      sprintf "%4$d" [.null, .null, .null] = .error (.missingArgument 4 3) := by
  have hrefused {e : Error} {t : Text} (args : List Value) (h : directive args 0 t = .error e) :
      sprintf (.ofList ('%' :: t)) args = .error e := by
    rw [sprintf, String.toList_ofList, formatFrom_error h]
    rfl
  have hsecond : sprintf "%2$s" [.null, .string "%"] = .ok "%" := by
    have hdirective : directive [.null, .string "%"] 0 ['2', '$', 's'] = .ok (['%'], 0, []) := rfl
    rw [sprintf, show "%2$s".toList = ['%', '2', '$', 's'] from rfl,
      formatFrom_directive hdirective, formatFrom]
    rfl
  have hletter : sprintf "%q" [.null, .null] = .error (.unknownConversion 'q') :=
    hrefused [.null, .null] (t := ['q']) rfl
  have hopen : sprintf "%2$" [.null, .null] = .error .truncated :=
    hrefused [.null, .null] (t := ['2', '$']) rfl
  have hfourth : sprintf "%4$d" [.null, .null] = .error (.missingArgument 4 2) :=
    hrefused [.null, .null] (t := ['4', '$', 'd']) rfl
  have hok := (sprintf_append "%2$s" [.null, .string "%"] [.null]).1 "%" hsecond
  have hunknown := (sprintf_append "%q" [.null, .null] [.null]).2.1 'q' hletter
  have htruncated := (sprintf_append "%2$" [.null, .null] [.null]).2.2.1 hopen
  obtain ⟨-, -, hmissing⟩ := (sprintf_append "%4$d" [.null, .null] [.null]).2.2.2 4 2 hfourth
  exact ⟨hsecond, hok, hletter, hunknown, hopen, htruncated, hfourth, hmissing (by decide)⟩

end Append

def doubled (t : Text) : Text := t.flatMap fun c => if c = '%' then ['%', '%'] else [c]

theorem doubled_percent (t : Text) : doubled ('%' :: t) = '%' :: '%' :: doubled t := rfl

theorem doubled_cons {c : Char} (hc : c ≠ '%') (t : Text) :
    doubled (c :: t) = c :: doubled t := by
  rw [doubled, List.flatMap_cons, if_neg hc]
  rfl

theorem before_nil (r : Except Error Text) : before [] r = r := by cases r <;> rfl

theorem before_before (t u : Text) (r : Except Error Text) :
    before t (before u r) = before (t ++ u) r := by
  cases r with
  | error e => rfl
  | ok s => exact congrArg Except.ok (List.append_assoc t u s).symm

/-- Behind each doubled character the format goes on as if nothing stood before it. -/
theorem formatFrom_doubled (args : List Value) (next : Nat) (t format : Text) :
    formatFrom args next (doubled t ++ format) = before t (formatFrom args next format) := by
  induction t with
  | nil => exact (before_nil _).symm
  | cons c t ih =>
    by_cases hc : c = '%'
    · rw [hc, doubled_percent, List.cons_append, List.cons_append,
        formatFrom_directive directive_percent, ih, before_before]
      rfl
    · rw [doubled_cons hc, List.cons_append, formatFrom, if_pos hc, ih, before_before]
      rfl

/-- A text with its percent signs doubled is written as it is, whatever follows it, and what
follows is written or refused as it is alone. -/
theorem sprintf_doubled (t format : String) (args : List Value) :
    sprintf (.ofList (doubled t.toList) ++ format) args = (sprintf format args).map (t ++ ·) ∧
      sprintf (.ofList (doubled t.toList)) args = .ok t := by
  have hwritten (r : Except Error Text) :
      (before t.toList r).map String.ofList = (r.map String.ofList).map (t ++ ·) := by
    cases r with
    | error e => rfl
    | ok s => simp [before, Except.map]
  constructor
  · rw [sprintf, String.toList_append, String.toList_ofList, formatFrom_doubled, hwritten, sprintf]
  · have hnil : formatFrom args 0 [] = .ok [] := by rw [formatFrom]
    rw [sprintf, String.toList_ofList, ← List.append_nil (doubled _), formatFrom_doubled, hnil]
    simp [before, Except.map]

end HttpJournal.Printf
