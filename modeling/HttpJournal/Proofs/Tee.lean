import HttpJournal.Capture.Tee
import Mathlib.Data.List.Basic
import Mathlib.Tactic.SplitIfs

namespace HttpJournal

namespace Chunk

theorem octets_nil : octets [] = [] := rfl

theorem octets_failure (m : String) (rest : List Chunk) : octets (failure m :: rest) = [] := rfl

theorem octets_data_append (chunks : List Bytes) (rest : List Chunk) :
    octets (chunks.map data ++ rest) = chunks.flatten ++ octets rest := by
  induction chunks with
  | nil => rfl
  | cons bs chunks ih =>
    rw [List.map_cons, List.cons_append, octets, ih, List.flatten_cons, List.append_assoc]

theorem failure?_data_append (chunks : List Bytes) (rest : List Chunk) :
    failure? (chunks.map data ++ rest) = failure? rest := by
  induction chunks with
  | nil => rfl
  | cons bs chunks ih => exact ih

/-- Items are data up to their end or to their first failure. -/
theorem exists_data (items : List Chunk) :
    ∃ (chunks : List Bytes) (rest : List Chunk), items = chunks.map data ++ rest ∧
      (rest = [] ∨ ∃ m after, rest = failure m :: after) := by
  induction items with
  | nil => exact ⟨[], [], rfl, .inl rfl⟩
  | cons item items ih =>
    cases item with
    | data bs =>
      obtain ⟨chunks, rest, rfl, hrest⟩ := ih
      exact ⟨bs :: chunks, rest, rfl, hrest⟩
    | failure m => exact ⟨[], failure m :: items, rfl, .inr ⟨m, items, rfl⟩⟩

end Chunk

namespace Capture

variable {limit : Option Nat}

theorem exceeds_mono {m n : Nat} (h : m ≤ n) (hm : exceeds limit m) : exceeds limit n := by
  cases limit with
  | none => cases hm
  | some most =>
    have hlt : most < m := of_decide_eq_true hm
    exact decide_eq_true (Nat.lt_of_lt_of_le hlt h)

theorem exceeds_zero (limit : Option Nat) : exceeds limit 0 = false := by cases limit <;> rfl

theorem exceeds_self (n : Nat) : exceeds (some n) n = false := decide_eq_false (Nat.lt_irrefl n)

/-- What a capture comes to when a reader has pulled some items. -/
inductive Settles (limit : Option Nat) : List Chunk → Capture → Prop where
  /-- The octets pass the limit before a failure. -/
  | exceeded (chunks : List Bytes) (rest : List Chunk) (h : exceeds limit chunks.flatten.length) :
    Settles limit (chunks.map .data ++ rest) (.done .notKept)
  | failed (chunks : List Bytes) (m : String) (rest : List Chunk)
      (h : exceeds limit chunks.flatten.length = false) :
    Settles limit (chunks.map .data ++ .failure m :: rest) (.failed m)
  | kept (chunks : List Bytes) (h : exceeds limit chunks.flatten.length = false) :
    Settles limit (chunks.map .data) (.done (.kept chunks.flatten))

theorem ofItems_of_exceeds {items : List Chunk} (h : exceeds limit (Chunk.octets items).length) :
    ofItems limit items = done .notKept := if_pos h

theorem ofItems_failure {chunks : List Bytes} (h : exceeds limit chunks.flatten.length = false)
    (m : String) (rest : List Chunk) :
    ofItems limit (chunks.map .data ++ .failure m :: rest) = failed m := by
  rw [ofItems, Chunk.octets_data_append, Chunk.failure?_data_append, Chunk.octets_failure,
    List.append_nil, h]
  rfl

theorem ofItems_data (limit : Option Nat) (chunks : List Bytes) :
    ofItems limit (chunks.map .data) =
      if exceeds limit chunks.flatten.length then done .notKept
      else done (.kept chunks.flatten) := by
  have hoctets := Chunk.octets_data_append chunks []
  have hfailure := Chunk.failure?_data_append chunks []
  rw [List.append_nil] at hoctets hfailure
  rw [ofItems, hoctets, hfailure, Chunk.octets_nil, List.append_nil]
  rfl

/-- Items settle a capture in one way. -/
theorem settles_iff {items : List Chunk} {c : Capture} :
    Settles limit items c ↔ c = ofItems limit items := by
  constructor
  · rintro (⟨chunks, rest, h⟩ | ⟨chunks, m, rest, h⟩ | ⟨chunks, h⟩)
    · rw [ofItems_of_exceeds]
      rw [Chunk.octets_data_append, List.length_append]
      exact exceeds_mono (Nat.le_add_right _ _) h
    · exact (ofItems_failure h m rest).symm
    · rw [ofItems_data, h]
      rfl
  · rintro rfl
    obtain ⟨chunks, rest, rfl, hrest⟩ := Chunk.exists_data items
    by_cases h : exceeds limit chunks.flatten.length
    · rw [ofItems_of_exceeds]
      · exact .exceeded chunks rest h
      · rw [Chunk.octets_data_append, List.length_append]
        exact exceeds_mono (Nat.le_add_right _ _) h
    · rw [Bool.not_eq_true] at h
      rcases hrest with rfl | ⟨m, after, rfl⟩
      · rw [List.append_nil, ofItems_data, h]
        exact .kept chunks h
      · rw [ofItems_failure h]
        exact .failed chunks m after h

def gather (limit : Option Nat) (items : List Chunk) : Capture :=
  items.foldl (receive limit) (collecting [])

theorem gather_concat (limit : Option Nat) (items : List Chunk) (c : Chunk) :
    gather limit (items ++ [c]) = (gather limit items).receive limit c := by
  rw [gather, List.foldl_append]
  rfl

theorem foldl_receive_of_isDone {c : Capture} (h : c.isDone) (items : List Chunk) :
    items.foldl (receive limit) c = c := by
  induction items with
  | nil => rfl
  | cons item items ih =>
    have hitem : c.receive limit item = c := by
      cases c with
      | collecting kept => cases h
      | off => cases item <;> rfl
      | done body => cases item <;> rfl
      | failed m => cases item <;> rfl
    rw [List.foldl_cons, hitem, ih]

theorem gather_append_of_isDone {items : List Chunk} (h : (gather limit items).isDone)
    (more : List Chunk) : gather limit (items ++ more) = gather limit items := by
  rw [gather, List.foldl_append]
  exact foldl_receive_of_isDone h more

theorem finish_of_isDone {c : Capture} (h : c.isDone) : c.finish = c := by
  cases c with
  | collecting kept => cases h
  | off => rfl
  | done body => rfl
  | failed m => rfl

theorem isDone_finish (c : Capture) : c.finish.isDone := by cases c <;> rfl

/-- The limit is compared with the octets so far at each item, which finds out no more and no less
than their sum. -/
theorem finish_foldl_receive {kept : Bytes} (h : exceeds limit kept.length = false)
    (items : List Chunk) :
    (items.foldl (receive limit) (collecting kept)).finish =
      if exceeds limit (kept ++ Chunk.octets items).length then done .notKept
      else match Chunk.failure? items with
        | some m => failed m
        | none => done (.kept (kept ++ Chunk.octets items)) := by
  -- for any octets kept so far, since each item adds to them
  induction items generalizing kept with
  | nil =>
    rw [Chunk.octets_nil, List.append_nil, h]
    rfl
  | cons item items ih =>
    cases item with
    | failure m =>
      rw [List.foldl_cons, receive, foldl_receive_of_isDone rfl, Chunk.octets_failure,
        List.append_nil, h]
      rfl
    | data bs =>
      rw [List.foldl_cons, receive, Chunk.octets, Chunk.failure?, ← List.append_assoc]
      cases hbs : exceeds limit (kept.length + bs.length) with
      | false =>
        rw [← List.length_append] at hbs
        exact ih hbs
      | true =>
        have hall : exceeds limit (kept ++ bs ++ Chunk.octets items).length := by
          rw [List.length_append, List.length_append]
          exact exceeds_mono (Nat.le_add_right _ _) hbs
        rw [hall]
        exact congrArg finish (foldl_receive_of_isDone rfl items)

theorem finish_gather (limit : Option Nat) (items : List Chunk) :
    (gather limit items).finish = ofItems limit items :=
  finish_foldl_receive (exceeds_zero limit) items

end Capture

namespace Tee

structure Flow where
  source : List Chunk
  passed : List Chunk
  dropped : Bool

namespace Flow

def step (f : Flow) : Event → Flow
  | .pull =>
    match f.dropped, f.source with
    | false, c :: rest => { f with source := rest, passed := f.passed ++ [c] }
    | _, _ => f
  | .drop => { f with dropped := true }
  | .receive => f

def run (f : Flow) (events : List Event) : Flow := events.foldl step f

end Flow

def flow (t : Tee) : Flow := ⟨t.source, t.passed, t.dropped⟩

theorem flow_step (t : Tee) (e : Event) : (t.step e).flow = t.flow.step e := by
  obtain ⟨limit, source, passed, relayed, dropped, capture⟩ := t
  cases e with
  | pull => cases dropped <;> cases source <;> rfl
  | drop => rfl
  | receive => cases relayed <;> cases dropped <;> rfl

theorem flow_run (t : Tee) (events : List Event) : (t.run events).flow = t.flow.run events := by
  induction events generalizing t with
  | nil => rfl
  | cons e events ih =>
    have h := ih (t.step e)
    rw [flow_step] at h
    exact h

/-- How often a reader pulls before it lets go. -/
def pulls (events : List Event) : Nat := (events.takeWhile (· ≠ .drop)).count .pull

theorem pulls_pull (events : List Event) : pulls (.pull :: events) = pulls events + 1 := by
  simp [pulls]

theorem pulls_drop (events : List Event) : pulls (.drop :: events) = 0 := by simp [pulls]

theorem pulls_receive (events : List Event) : pulls (.receive :: events) = pulls events := by
  simp [pulls]

namespace Flow

theorem run_of_dropped {f : Flow} (h : f.dropped = true) (events : List Event) :
    f.run events = f := by
  induction events with
  | nil => rfl
  | cons e events ih =>
    have hstep : f.step e = f := by
      obtain ⟨source, passed, dropped⟩ := f
      obtain rfl : dropped = true := h
      cases e <;> rfl
    rw [run, List.foldl_cons, hstep]
    exact ih

/-- The reader has as many items as it pulled, as far as there are so many. -/
theorem passed_run {f : Flow} (h : f.dropped = false) (events : List Event) :
    (f.run events).passed = f.passed ++ f.source.take (pulls events) := by
  obtain ⟨source, items, dropped⟩ := f
  obtain rfl : dropped = false := h
  induction events generalizing source items with
  | nil => simp [run, pulls]
  | cons e events ih =>
    cases e with
    | pull =>
      rw [pulls_pull]
      cases source with
      | nil =>
        have h := ih [] items
        rw [List.take_nil] at h ⊢
        exact h
      | cons c rest =>
        have h := ih rest (items ++ [c])
        rw [List.append_assoc] at h
        exact h
    | drop =>
      have h := congrArg passed (run_of_dropped (f := ⟨source, items, true⟩) rfl events)
      rw [pulls_drop, List.take_zero, List.append_nil]
      exact h
    | receive =>
      rw [pulls_receive]
      exact ih source items

theorem dropped_run {events : List Event} (h : .drop ∈ events) (f : Flow) :
    (f.run events).dropped = true := by
  induction events generalizing f with
  | nil => cases h
  | cons e events ih =>
    rcases List.mem_cons.mp h with rfl | h
    · rw [run, List.foldl_cons]
      exact congrArg dropped (run_of_dropped (f := { f with dropped := true }) rfl events)
    · exact ih h (f.step e)

end Flow

/-- The capture has gathered the items received, and the others that were pulled are relayed to it.
It has ended on its own, or else when the reader had let go and nothing was relayed any more. -/
structure Sound (t : Tee) (received : List Chunk) : Prop where
  passed : t.passed = received ++ t.relayed
  capture : t.capture = .gather t.limit received ∨
    t.dropped = true ∧ t.relayed = [] ∧ t.capture = (Capture.gather t.limit received).finish

theorem limit_step (t : Tee) (e : Event) : (t.step e).limit = t.limit := by
  obtain ⟨limit, source, passed, relayed, dropped, capture⟩ := t
  cases e with
  | pull => cases dropped <;> cases source <;> rfl
  | drop => rfl
  | receive => cases relayed <;> cases dropped <;> rfl

theorem limit_run (t : Tee) (events : List Event) : (t.run events).limit = t.limit := by
  induction events generalizing t with
  | nil => rfl
  | cons e events ih => exact (ih (t.step e)).trans (limit_step t e)

theorem Sound.step {t : Tee} {received : List Chunk} (h : t.Sound received) (e : Event) :
    ∃ received, (t.step e).Sound received := by
  obtain ⟨limit, source, passed, relayed, dropped, capture⟩ := t
  obtain ⟨hpassed, hcapture⟩ := h
  dsimp only at hpassed hcapture
  cases e with
  | pull =>
    cases dropped with
    | true => exact ⟨received, hpassed, hcapture⟩
    | false =>
      cases source with
      | nil => exact ⟨received, hpassed, hcapture⟩
      | cons c rest =>
        -- only a reader that has let go can have ended the capture
        have hgathered := hcapture.resolve_right fun h => Bool.false_ne_true h.1
        exact ⟨received, by simp [Tee.step, pull, hpassed], .inl hgathered⟩
  | drop => exact ⟨received, hpassed, hcapture.imp_right fun h => ⟨rfl, h.2⟩⟩
  | receive =>
    cases relayed with
    | cons c rest =>
      -- and it has not done so while an item is relayed
      have hgathered := hcapture.resolve_right fun h => List.cons_ne_nil c rest h.2.1
      refine ⟨received ++ [c], by simp [Tee.step, receive, hpassed], .inl ?_⟩
      rw [Capture.gather_concat]
      exact congrArg (·.receive limit c) hgathered
    | nil =>
      cases dropped with
      | false => exact ⟨received, hpassed, hcapture⟩
      | true =>
        refine ⟨received, hpassed, .inr ⟨rfl, rfl, ?_⟩⟩
        rcases hcapture with hc | ⟨-, -, hc⟩
        · exact congrArg Capture.finish hc
        · -- the capture ended before
          rw [← Capture.finish_of_isDone (Capture.isDone_finish _)]
          exact congrArg Capture.finish hc

theorem sound_new (limit : Option Nat) (source : List Chunk) : (new true limit source).Sound [] :=
  ⟨rfl, .inl rfl⟩

theorem Sound.run {t : Tee} {received : List Chunk} (h : t.Sound received) (events : List Event) :
    ∃ received, (t.run events).Sound received := by
  induction events generalizing t received with
  | nil => exact ⟨received, h⟩
  | cons e events ih =>
    obtain ⟨received', h'⟩ := h.step e
    exact ih h'

/-- A capture that has ended did so as all items together would have it. -/
theorem Sound.capture_eq {t : Tee} {received : List Chunk} (h : t.Sound received)
    (hdone : t.capture.isDone) : t.capture = .ofItems t.limit t.passed := by
  rw [← Capture.finish_gather, h.passed]
  rcases h.capture with hc | ⟨-, hrelayed, hc⟩
  · rw [hc] at hdone ⊢
    rw [Capture.gather_append_of_isDone hdone, Capture.finish_of_isDone hdone]
  · rw [hc, hrelayed, List.append_nil]

/-- A capture that has ended stays as it is. -/
theorem capture_step_of_isDone {t : Tee} (h : t.capture.isDone) (e : Event) :
    (t.step e).capture = t.capture := by
  obtain ⟨limit, source, passed, relayed, dropped, capture⟩ := t
  cases e with
  | pull => cases dropped <;> cases source <;> rfl
  | drop => rfl
  | receive =>
    cases relayed with
    | cons c rest => exact Capture.foldl_receive_of_isDone h [c]
    | nil =>
      cases dropped with
      | false => rfl
      | true => exact Capture.finish_of_isDone h

theorem capture_run_of_isDone {t : Tee} (h : t.capture.isDone) (events : List Event) :
    (t.run events).capture = t.capture := by
  induction events generalizing t with
  | nil => rfl
  | cons e events ih =>
    have hstep := capture_step_of_isDone h e
    rw [← hstep] at h ⊢
    exact ih h

theorem isDone_run {t : Tee} (h : t.capture.isDone) (events : List Event) :
    (t.run events).capture.isDone := by
  rw [capture_run_of_isDone h events]
  exact h

/-- Once the reader has let go, the capture ends when it has received all that is relayed and made
one step more. -/
theorem isDone_run_of_dropped {t : Tee} (h : t.dropped = true) {events : List Event}
    (hcount : t.relayed.length < events.count .receive) : (t.run events).capture.isDone := by
  obtain ⟨limit, source, passed, relayed, dropped, capture⟩ := t
  obtain rfl : dropped = true := h
  dsimp only at hcount
  -- each step of the capture takes an item, and the one that finds none ends it
  induction events generalizing relayed capture with
  | nil => exact absurd hcount (Nat.not_lt_zero _)
  | cons e events ih =>
    cases e with
    | pull => exact ih relayed capture (by simpa using hcount)
    | drop => exact ih relayed capture (by simpa using hcount)
    | receive =>
      rw [List.count_cons_self] at hcount
      cases relayed with
      | nil => exact isDone_run (Capture.isDone_finish capture) events
      | cons c rest => exact ih rest (capture.receive limit c) (by simpa using hcount)

theorem run_append (t : Tee) (events more : List Event) :
    t.run (events ++ more) = (t.run events).run more := List.foldl_append

theorem passed_run_new (limit : Option Nat) (source : List Chunk) (events : List Event) :
    ((new true limit source).run events).passed = source.take (pulls events) := by
  have h := Flow.passed_run (f := (new true limit source).flow) rfl events
  rw [← flow_run] at h
  exact h

theorem capture_run_new {limit : Option Nat} {source : List Chunk} {events : List Event}
    (hdone : ((new true limit source).run events).capture.isDone) :
    ((new true limit source).run events).capture =
      .ofItems limit ((new true limit source).run events).passed := by
  obtain ⟨received, hsound⟩ := (sound_new limit source).run events
  have h := hsound.capture_eq hdone
  rwa [limit_run] at h

/-- Once the reader has let go, what it has does not change any more. -/
theorem passed_run_of_drop {events : List Event} (h : .drop ∈ events) (t : Tee)
    (more : List Event) : ((t.run events).run more).passed = (t.run events).passed := by
  have hdropped := Flow.dropped_run h t.flow
  rw [← flow_run] at hdropped
  have hrun := Flow.run_of_dropped hdropped more
  rw [← flow_run] at hrun
  exact congrArg Flow.passed hrun

/-- When the reader has let go, more steps of the capture end it as the pulled items settle it. -/
theorem capture_run_of_drop {limit : Option Nat} {source : List Chunk} {events more : List Event}
    (hdrop : .drop ∈ events)
    (hcount : ((new true limit source).run events).relayed.length < more.count .receive) :
    (((new true limit source).run events).run more).capture.isDone ∧
      (((new true limit source).run events).run more).capture =
        .ofItems limit ((new true limit source).run events).passed := by
  have hdropped := Flow.dropped_run hdrop (new true limit source).flow
  rw [← flow_run] at hdropped
  have hdone := isDone_run_of_dropped hdropped hcount
  refine ⟨hdone, ?_⟩
  rw [← run_append] at hdone
  have hcapture := capture_run_new hdone
  rw [run_append, passed_run_of_drop hdrop] at hcapture
  exact hcapture

/-- A tee whose reader pulls and lets go and whose capture receives in any order. The reader has the
items that it pulled, whatever the limit. A capture that has ended is the one that these items
settle; for data alone their octets decide, and as many as the limit allows are kept. Once the
reader has let go the capture does end, if it goes on for long enough. -/
theorem passed_and_settled (limit : Option Nat) (source : List Chunk) (events : List Event) :
    let t := (new true limit source).run events
    t.passed = source.take (pulls events) ∧
      (t.capture.isDone → ∀ c, Capture.Settles limit t.passed c ↔ c = t.capture) ∧
      (t.capture.isDone → ∀ chunks : List Bytes, t.passed = chunks.map .data →
        t.capture = (if Capture.exceeds limit chunks.flatten.length then .done .notKept
          else .done (.kept chunks.flatten)) ∧
        (limit = some chunks.flatten.length → t.capture = .done (.kept chunks.flatten))) ∧
      (.drop ∈ events → ∀ more : List Event, t.relayed.length < more.count .receive →
        (t.run more).capture.isDone ∧
          ∀ c, Capture.Settles limit t.passed c ↔ c = (t.run more).capture) := by
  intro t
  refine ⟨passed_run_new limit source events, ?_, ?_, ?_⟩
  · intro hdone c
    rw [Capture.settles_iff, ← capture_run_new hdone]
  · intro hdone chunks hchunks
    have hcapture : t.capture = _ := capture_run_new hdone
    rw [show ((new true limit source).run events).passed = chunks.map .data from hchunks,
      Capture.ofItems_data] at hcapture
    refine ⟨hcapture, ?_⟩
    rintro rfl
    rw [hcapture, Capture.exceeds_self]
    rfl
  · intro hdrop more hcount
    obtain ⟨hdone, hcapture⟩ := capture_run_of_drop hdrop hcount
    refine ⟨hdone, fun c => ?_⟩
    rw [Capture.settles_iff, hcapture]

/-- A stream that fails after as many octets as the limit allows, and a reader that lets go then. -/
theorem passed_and_settled_failure :
    let t := (new true (some 3) [.data [1, 2, 3], .failure "reset", .data [4]]).run
      [.pull, .receive, .pull, .drop, .pull]
    t.passed = [.data [1, 2, 3], .failure "reset"] ∧
      (t.run [.receive, .receive]).capture = .failed "reset" := by
  obtain ⟨hpassed, -, -, hsettled⟩ := passed_and_settled (some 3)
    [.data [1, 2, 3], .failure "reset", .data [4]] [.pull, .receive, .pull, .drop, .pull]
  have hfailed := (hsettled (by decide) [.receive, .receive] (by decide)).2
  exact ⟨hpassed, ((hfailed _).mp (.failed [[1, 2, 3]] "reset" [] rfl)).symm⟩

end Tee

end HttpJournal
