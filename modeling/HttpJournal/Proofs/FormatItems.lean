import HttpJournal.Printf
import HttpJournal.Proofs.List
import Mathlib.Data.List.Count

namespace HttpJournal.Printf

open Json (Value)

inductive Item where
  | literal (t : Text)
  | percent
  | sequential (conversion : Char)
  | positional (digits : Text) (conversion : Char)
  | truncated
  deriving DecidableEq

def IsDigits (t : Text) : Prop := t ≠ [] ∧ ∀ c ∈ t, c.isDigit

theorem IsDigits.isEmpty {t : Text} (h : IsDigits t) : t.isEmpty = false := by simpa using h.1

/-- The items of a format from left to right. Digits behind a percent sign are text unless a dollar
sign follows them. -/
inductive Cut : Text → List Item → Prop
  | nil : Cut [] []
  | plain {c : Char} {t : Text} {items : List Item} (hc : c ≠ '%') (h : Cut t items) :
    Cut (c :: t) (.literal [c] :: items)
  | width {digits t : Text} {items : List Item} (hdigits : IsDigits digits)
    (ht : ∀ c ∈ t.head?, c.isDigit = false ∧ c ≠ '$') (h : Cut t items) :
    Cut ('%' :: (digits ++ t)) (.literal ('%' :: digits) :: items)
  | percent {t : Text} {items : List Item} (h : Cut t items) :
    Cut ('%' :: '%' :: t) (.percent :: items)
  | positionPercent {digits t : Text} {items : List Item} (hdigits : IsDigits digits)
    (h : Cut t items) : Cut ('%' :: (digits ++ '$' :: '%' :: t)) (.percent :: items)
  | sequential {c : Char} {t : Text} {items : List Item} (hdigit : c.isDigit = false)
    (hc : c ≠ '%') (h : Cut t items) : Cut ('%' :: c :: t) (.sequential c :: items)
  | positional {digits t : Text} {c : Char} {items : List Item} (hdigits : IsDigits digits)
    (hc : c ≠ '%') (h : Cut t items) :
    Cut ('%' :: (digits ++ '$' :: c :: t)) (.positional digits c :: items)
  | truncated : Cut ['%'] [.truncated]
  | positionTruncated {digits : Text} (hdigits : IsDigits digits) :
    Cut ('%' :: (digits ++ ['$'])) [.truncated]

/-- The number of an argument as digits give it; zero when 64 bits do not hold it. -/
def position (digits : Text) : Nat :=
  if Decimal.value digits < wordLimit then Decimal.value digits else 0

def argument? (args : List Value) (n : Nat) : Option Value := if n = 0 then none else args[n - 1]?

def conversion? : Char → Option (Value → Text)
  | 's' => some asText
  | 'd' => some fun v => Decimal.ofInt (asInteger v)
  | 'f' => some fun v => (asReal v).fixed 6
  | _ => none

def substitute (args : List Value) (n : Nat) (conversion : Char) : Except Error Text :=
  match argument? args n, conversion? conversion with
  | none, _ => .error (.missingArgument n args.length)
  | some _, none => .error (.unknownConversion conversion)
  | some v, some write => .ok (write v)

namespace Item

def isSequential : Item → Bool
  | sequential _ => true
  | _ => false

def number? (passed : Nat) : Item → Option Nat
  | sequential _ => some (passed + 1)
  | positional digits _ => some (position digits)
  | _ => none

def text (args : List Value) (passed : Nat) : Item → Except Error Text
  | literal t => .ok t
  | percent => .ok ['%']
  | sequential c => substitute args (passed + 1) c
  | positional digits c => substitute args (position digits) c
  | truncated => .error .truncated

/-- How many sequential directives have been passed behind an item. -/
def next (passed : Nat) (item : Item) : Nat := if item.isSequential then passed + 1 else passed

end Item

/-- The texts of items, or the error of the first that has none. An item stands behind `passed`
sequential directives and those among the items before it. -/
def rendered (args : List Value) (passed : Nat) (items : List Item) : Except Error Text := do
  let texts ← (items.mapIdx fun i item =>
    item.text args (passed + (items.take i).countP Item.isSequential)).mapM id
  return texts.flatten

theorem before_flatten (t : Text) (texts : Except Error (List Text)) :
    (do let ts ← (do let rest ← texts; return t :: rest); return ts.flatten) =
      before t (do let ts ← texts; return ts.flatten) := by
  cases texts <;> rfl

theorem rendered_cons (args : List Value) (passed : Nat) (item : Item) (items : List Item) :
    rendered args passed (item :: items) = (do
      let t ← item.text args passed
      before t (rendered args (item.next passed) items)) := by
  have hnext (i : Nat) : passed + ((item :: items).take (i + 1)).countP Item.isSequential =
      item.next passed + (items.take i).countP Item.isSequential := by
    rw [List.take_succ_cons, List.countP_cons, Item.next]
    split <;> omega
  simp only [rendered, List.mapIdx_cons, List.mapM_cons, hnext]
  simp only [id, List.take_zero, List.countP_nil, Nat.add_zero]
  cases item.text args passed with
  | error e => rfl
  | ok t => exact before_flatten t _

theorem convert_eq (args : List Value) (place : Nat) (c : Char) :
    convert args place c = substitute args (place + 1) c := by
  rw [convert, substitute, argument?, if_neg (Nat.succ_ne_zero place), Nat.add_sub_cancel]
  cases args[place]? with
  | none => rfl
  | some arg =>
    unfold conversion?
    split_ifs with hs hd hf
    · subst hs; rfl
    · subst hd; rfl
    · subst hf; rfl
    · split
      all_goals simp_all

theorem convertAt_eq (args : List Value) (digits : Text) (c : Char) :
    convertAt args digits c = substitute args (position digits) c := by
  rw [convertAt, position]
  split_ifs with hnone hlt hlt
  · have hzero : Decimal.value digits = 0 := by omega
    rw [hzero]
    rfl
  · rfl
  · have hpos : Decimal.value digits - 1 + 1 = Decimal.value digits := by omega
    rw [convert_eq, hpos]
  · omega

section Directive

variable {args : List Value} {passed : Nat} {digits t : Text} {c : Char}

theorem directive_percent : directive args passed ('%' :: t) = .ok (['%'], passed, t) := rfl

theorem directive_sequential (hdigit : c.isDigit = false) (hc : c ≠ '%') :
    directive args passed (c :: t) =
      (substitute args (passed + 1) c).map (·, passed + 1, t) := by
  have htake : (c :: t).takeWhile Char.isDigit = [] := List.takeWhile_cons_of_neg (by simp [hdigit])
  have hdrop : (c :: t).dropWhile Char.isDigit = c :: t :=
    List.dropWhile_cons_of_neg (by simp [hdigit])
  rw [directive, htake, hdrop]
  simp only [List.isEmpty_nil, if_true, if_neg hc, convert_eq]
  cases substitute args (passed + 1) c <;> rfl

theorem directive_width (hdigits : IsDigits digits)
    (ht : ∀ c ∈ t.head?, c.isDigit = false ∧ c ≠ '$') :
    directive args passed (digits ++ t) = .ok ('%' :: digits, passed, t) := by
  cases t with
  | nil =>
    rw [List.append_nil, directive, List.takeWhile_eq_self_iff.mpr hdigits.2,
      List.dropWhile_eq_nil_iff.mpr hdigits.2]
    simp [hdigits.isEmpty]
  | cons c t =>
    obtain ⟨hc, hdollar⟩ := ht c rfl
    rw [directive, takeWhile_stop hdigits.2 hc, dropWhile_stop hdigits.2 hc]
    simp [hdigits.isEmpty, hdollar]

theorem directive_positional (hdigits : IsDigits digits) (hc : c ≠ '%') :
    directive args passed (digits ++ '$' :: c :: t) =
      (substitute args (position digits) c).map (·, passed, t) := by
  rw [directive, takeWhile_stop hdigits.2 (by decide), dropWhile_stop hdigits.2 (by decide)]
  simp only [hdigits.isEmpty, hc, convertAt_eq, ne_eq, not_true, Bool.false_eq_true, if_false]
  cases substitute args (position digits) c <;> rfl

theorem directive_positionPercent (hdigits : IsDigits digits) :
    directive args passed (digits ++ '$' :: '%' :: t) = .ok (['%'], passed, t) := by
  rw [directive, takeWhile_stop hdigits.2 (by decide), dropWhile_stop hdigits.2 (by decide)]
  simp [hdigits.isEmpty]

theorem directive_positionTruncated (hdigits : IsDigits digits) :
    directive args passed (digits ++ ['$']) = .error .truncated := by
  rw [directive, takeWhile_stop hdigits.2 (by decide), dropWhile_stop hdigits.2 (by decide)]
  simp [hdigits.isEmpty]

theorem formatFrom_error {e : Error} (h : directive args passed t = .error e) :
    formatFrom args passed ('%' :: t) = .error e := by
  rw [formatFrom, if_neg (by decide)]
  split <;> simp_all

/-- One item is written as the directive that it was cut from. -/
theorem formatFrom_item {item : Item} {rest : Text} {items : List Item}
    (hstep : directive args passed t = (item.text args passed).map (·, item.next passed, rest))
    (ih : formatFrom args (item.next passed) rest = rendered args (item.next passed) items) :
    formatFrom args passed ('%' :: t) = rendered args passed (item :: items) := by
  rw [rendered_cons]
  cases htext : item.text args passed with
  | error e =>
    rw [htext] at hstep
    exact formatFrom_error hstep
  | ok s =>
    rw [htext] at hstep
    rw [formatFrom_directive hstep, ih]
    rfl

end Directive

/-- A format is written item by item. -/
theorem Cut.formatFrom_eq {t : Text} {items : List Item} (h : Cut t items) (args : List Value)
    (passed : Nat) : formatFrom args passed t = rendered args passed items := by
  induction h generalizing passed with
  | nil => rw [formatFrom]; rfl
  | plain hc h ih =>
    rw [formatFrom, if_pos hc, ih, rendered_cons]
    rfl
  | width hdigits ht h ih => exact formatFrom_item (directive_width hdigits ht) (ih passed)
  | percent h ih => exact formatFrom_item directive_percent (ih passed)
  | positionPercent hdigits h ih =>
    exact formatFrom_item (directive_positionPercent hdigits) (ih passed)
  | sequential hdigit hc h ih =>
    exact formatFrom_item (directive_sequential hdigit hc) (ih (passed + 1))
  | positional hdigits hc h ih =>
    exact formatFrom_item (directive_positional hdigits hc) (ih passed)
  | truncated => exact formatFrom_error rfl
  | positionTruncated hdigits => exact formatFrom_error (directive_positionTruncated hdigits)

theorem exists_digits (t : Text) : ∃ digits u, t = digits ++ u ∧ (∀ c ∈ digits, c.isDigit) ∧
    ∀ c ∈ u.head?, c.isDigit = false := by
  refine ⟨t.takeWhile Char.isDigit, t.dropWhile Char.isDigit,
    List.takeWhile_append_dropWhile.symm, fun c hc => (List.mem_takeWhile_imp hc), ?_⟩
  intro c hc
  have hhead := List.head?_dropWhile_not Char.isDigit t
  rw [Option.mem_def.mp hc] at hhead
  simpa using hhead

/-- Every format can be cut into items. -/
theorem exists_cut (t : Text) : ∃ items, Cut t items := by
  induction h : t.length using Nat.strongRecOn generalizing t with
  | ind n ih =>
    have hshorter (u : Text) (hu : u.length < t.length) : ∃ items, Cut u items :=
      ih u.length (h ▸ hu) u rfl
    cases t with
    | nil => exact ⟨[], .nil⟩
    | cons c t =>
      by_cases hc : c = '%'
      case neg =>
        obtain ⟨items, hitems⟩ := hshorter t (Nat.lt_succ_self _)
        exact ⟨_, .plain hc hitems⟩
      subst hc
      obtain ⟨digits, u, rfl, hdigits, hu⟩ := exists_digits t
      simp only [List.length_cons, List.length_append] at hshorter
      by_cases hempty : digits = []
      · subst hempty
        cases u with
        | nil => exact ⟨_, .truncated⟩
        | cons c u =>
          obtain ⟨items, hitems⟩ := hshorter u (by simp only [List.length_cons]; omega)
          by_cases hc : c = '%'
          · subst hc
            exact ⟨_, .percent hitems⟩
          · exact ⟨_, .sequential (hu c rfl) hc hitems⟩
      have hrun : IsDigits digits := ⟨hempty, hdigits⟩
      obtain ⟨items, hitems⟩ := hshorter u (by omega)
      cases u with
      | nil => exact ⟨_, .width hrun (by simp) hitems⟩
      | cons c u =>
        by_cases hdollar : c = '$'
        case neg =>
          refine ⟨_, .width hrun ?_ hitems⟩
          rintro d ⟨⟩
          exact ⟨hu c rfl, hdollar⟩
        subst hdollar
        cases u with
        | nil => exact ⟨_, .positionTruncated hrun⟩
        | cons c u =>
          obtain ⟨rest, hrest⟩ := hshorter u (by simp only [List.length_cons]; omega)
          by_cases hc : c = '%'
          · subst hc
            exact ⟨_, .positionPercent hrun hrest⟩
          · exact ⟨_, .positional hrun hc hrest⟩

theorem rendered_cons_ok {args : List Value} {passed : Nat} {item : Item} {items : List Item}
    {s : Text} (h : rendered args passed (item :: items) = .ok s) :
    (∃ t, item.text args passed = .ok t) ∧ ∃ u, rendered args (item.next passed) items = .ok u := by
  rw [rendered_cons] at h
  cases htext : item.text args passed with
  | error e =>
    rw [htext] at h
    cases h
  | ok t =>
    cases hrest : rendered args (item.next passed) items with
    | error e =>
      rw [htext, hrest] at h
      cases h
    | ok u => exact ⟨⟨t, rfl⟩, u, rfl⟩

theorem le_of_substitute {args : List Value} {n : Nat} {c : Char} {t : Text}
    (h : substitute args n c = .ok t) : n ≤ args.length := by
  by_contra hlt
  have hnone : argument? args n = none := by
    rw [argument?, if_neg (by omega)]
    exact List.getElem?_eq_none (by omega)
  rw [substitute, hnone] at h
  cases h

/-- Every sequential directive that is written has used up an argument. -/
theorem sequentials_le {args : List Value} {passed : Nat} {items : List Item} {s : Text}
    (hpassed : passed ≤ args.length) (h : rendered args passed items = .ok s) :
    passed + items.countP Item.isSequential ≤ args.length := by
  induction items generalizing passed s with
  | nil => exact hpassed
  | cons item items ih =>
    obtain ⟨⟨t, ht⟩, u, hu⟩ := rendered_cons_ok h
    have hnext : item.next passed ≤ args.length := by
      cases item with
      | sequential c => exact le_of_substitute ht
      | _ => exact hpassed
    have hle := ih hnext hu
    rw [Item.next] at hle
    rw [List.countP_cons]
    split at hle
    · rw [if_pos ‹_›]
      omega
    · rw [if_neg ‹_›]
      omega

theorem position_lt (digits : Text) : position digits < wordLimit := by
  rw [position]
  split_ifs with h
  · exact h
  · decide

/-- What a format is written as is what its items are rendered as, and wherever this gets to, the
number of the argument fits 64 bits. A list of `signedLimit` arguments is more than memory holds. -/
theorem sprintf_items (format : String) (args : List Value) :
    (∃ items, Cut format.toList items) ∧ ∀ items, Cut format.toList items →
      sprintf format args = (rendered args 0 items).map String.ofList ∧
        (args.length < signedLimit → ∀ before item after s n, items = before ++ item :: after →
          rendered args 0 before = .ok s →
          item.number? (before.countP Item.isSequential) = some n → n < wordLimit) := by
  refine ⟨exists_cut format.toList, fun items h => ⟨?_, ?_⟩⟩
  · rw [sprintf, h.formatFrom_eq args 0]
  · intro hargs before item after s n _ hbefore hn
    have hle := sequentials_le (Nat.zero_le _) hbefore
    cases item with
    | sequential c =>
      obtain rfl := Option.some.inj hn
      have hlimit : signedLimit < wordLimit := by decide
      omega
    | positional digits c =>
      obtain rfl := Option.some.inj hn
      exact position_lt digits
    | _ => cases hn

theorem sprintf_items_mixed :
    sprintf "%2$d%5x%%%1$%%s" [.string "%s", .number (.natural 7)] = .ok "7%5x%%%s" ∧
      (Item.sequential 's').number? 0 = some 1 ∧ 1 < wordLimit := by
  have hformat : "%2$d%5x%%%1$%%s".toList =
      ['%', '2', '$', 'd', '%', '5', 'x', '%', '%', '%', '1', '$', '%', '%', 's'] := by
    decide +kernel
  have hdigits (c : Char) (hc : c.isDigit) : IsDigits [c] := by simpa [IsDigits] using hc
  have hcut : Cut "%2$d%5x%%%1$%%s".toList [.positional ['2'] 'd', .literal ['%', '5'],
      .literal ['x'], .percent, .percent, .sequential 's'] := by
    rw [hformat]
    apply Cut.positional (hdigits '2' rfl) (by decide)
    apply Cut.width (hdigits '5' rfl) (by simp)
    apply Cut.plain (by decide)
    apply Cut.percent
    apply Cut.positionPercent (hdigits '1' rfl)
    exact .sequential rfl (by decide) .nil
  obtain ⟨htext, hnumber⟩ :=
    (sprintf_items _ [.string "%s", .number (.natural 7)]).2 _ hcut
  constructor
  · rw [htext]
    rfl
  · -- the directive at the end stands behind the positional one and takes the first argument
    refine ⟨rfl, hnumber (by decide) [.positional ['2'] 'd', .literal ['%', '5'], .literal ['x'],
      .percent, .percent] (.sequential 's') [] ['7', '%', '5', 'x', '%', '%'] 1 rfl ?_ rfl⟩
    rfl

end HttpJournal.Printf
