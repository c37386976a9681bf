import HttpJournal.Capture.Layer
import HttpJournal.Proofs.List
import Mathlib.Data.Nat.ModEq
import Mathlib.Logic.Function.Iterate

namespace HttpJournal

namespace IdSource

theorem start_iterate (s : IdSource) (n : Nat) : (next^[n] s).start = s.start := by
  induction n with
  | zero => rfl
  | succ n ih =>
    rw [Function.iterate_succ_apply', ← ih]
    rfl

theorem counter_iterate (s : IdSource) (n : Nat) :
    (next^[n] s).counter = s.counter + UInt64.ofNat n := by
  induction n with
  | zero => exact (UInt64.add_zero s.counter).symm
  | succ n ih =>
    rw [Function.iterate_succ_apply', UInt64.ofNat_add, ← UInt64.add_assoc, ← ih]
    rfl

theorem toNat_and_half (w : UInt64) : (w &&& 0xFFFFFFFF).toNat = w.toNat % 2 ^ 32 := by
  rw [UInt64.toNat_and]
  exact Nat.and_two_pow_sub_one_eq_mod w.toNat 32

theorem toNat_shiftLeft_half (w : UInt64) : (w <<< 32).toNat = 2 ^ 32 * (w.toNat % 2 ^ 32) := by
  have hshift : (w <<< 32).toNat = w.toNat <<< 32 % 2 ^ 64 := UInt64.toNat_shiftLeft w 32
  rw [hshift, Nat.shiftLeft_eq]
  omega

/-- The two halves of an id do not touch. -/
theorem toNat_current (s : IdSource) :
    s.current.toNat = 2 ^ 32 * (s.start.toNat % 2 ^ 32) + s.counter.toNat % 2 ^ 32 := by
  have hlt : s.counter.toNat % 2 ^ 32 < 2 ^ 32 := Nat.mod_lt _ (by decide)
  rw [current, UInt64.toNat_or, toNat_shiftLeft_half, toNat_and_half,
    Nat.two_pow_add_eq_or_of_lt hlt]

theorem current_shiftRight (s : IdSource) : s.current >>> 32 = s.start &&& 0xFFFFFFFF := by
  have hshift : (s.current >>> 32).toNat = s.current.toNat >>> 32 :=
    UInt64.toNat_shiftRight s.current 32
  have hlt : s.counter.toNat % 2 ^ 32 < 2 ^ 32 := Nat.mod_lt _ (by decide)
  rw [← UInt64.toNat_inj, hshift, toNat_and_half, toNat_current, Nat.shiftRight_eq_div_pow]
  omega

theorem current_and (s : IdSource) : s.current &&& 0xFFFFFFFF = s.counter &&& 0xFFFFFFFF := by
  rw [← UInt64.toNat_inj, toNat_and_half, toNat_and_half, toNat_current, Nat.mul_add_mod]
  exact Nat.mod_mod _ _

theorem current_eq_iff {s t : IdSource} (h : s.start = t.start) :
    s.current = t.current ↔ s.counter.toNat ≡ t.counter.toNat [MOD 2 ^ 32] := by
  rw [← UInt64.toNat_inj, toNat_current, toNat_current, h, Nat.add_left_cancel_iff]
  exact Iff.rfl

/-- The counter is taken modulo a multiple of its half, so where it wraps is of no account. -/
theorem counter_modEq (s : IdSource) (n : Nat) :
    (next^[n] s).counter.toNat ≡ s.counter.toNat + n [MOD 2 ^ 32] := by
  rw [counter_iterate, UInt64.toNat_add, UInt64.toNat_ofNat', Nat.add_mod_mod]
  exact Nat.mod_mod_of_dvd _ ⟨2 ^ 32, rfl⟩

theorem current_next_eq_iff (s : IdSource) (m n : Nat) :
    (next^[m] s).current = (next^[n] s).current ↔ m ≡ n [MOD 2 ^ 32] := by
  rw [current_eq_iff ((start_iterate s m).trans (start_iterate s n).symm)]
  have hm := counter_modEq s m
  have hn := counter_modEq s n
  constructor
  · intro h
    exact Nat.ModEq.add_left_cancel' s.counter.toNat ((hm.symm.trans h).trans hn)
  · intro h
    exact (hm.trans (h.add_left s.counter.toNat)).trans hn.symm

/-- Two ids that are taken in one process, whatever its start and wherever its counter stands. They
are equal exactly when their counters agree modulo the size of half an id, hence exactly when as
many ids as that, or a multiple, lie between them, also where the counter wraps. The upper half of
each is the lower half of the start, which no counter disturbs, and the lower half is that of its
counter. -/
theorem current_iterate_eq_iff (s : IdSource) (m n : Nat) :
    let a := next^[m] s
    let b := next^[n] s
    (a.current = b.current ↔ a.counter.toNat ≡ b.counter.toNat [MOD 2 ^ 32]) ∧
      (a.current = b.current ↔ m ≡ n [MOD 2 ^ 32]) ∧
      (a.current >>> 32 = s.start &&& 0xFFFFFFFF ∧ b.current >>> 32 = s.start &&& 0xFFFFFFFF) ∧
      a.current &&& 0xFFFFFFFF = a.counter &&& 0xFFFFFFFF ∧
      b.current &&& 0xFFFFFFFF = b.counter &&& 0xFFFFFFFF := by
  intro a b
  have hstart : a.start = b.start := (start_iterate s m).trans (start_iterate s n).symm
  refine ⟨current_eq_iff hstart, current_next_eq_iff s m n, ⟨?_, ?_⟩, current_and a,
    current_and b⟩
  · rw [current_shiftRight, start_iterate]
  · rw [current_shiftRight, start_iterate]

end IdSource

namespace Layer

variable {l : Layer} {ids : IdSource}

/-- The calls of a layer have the ids that were taken from the source, one for each call, and the
source has the others left. -/
structure Draws (l : Layer) (ids : IdSource) : Prop where
  taken : l.calls.map (fun c => c.request.id) =
    (List.range l.calls.length).map fun n => (IdSource.next^[n] ids).current
  left : l.ids = IdSource.next^[l.calls.length] ids

theorem Draws.onCall {f : Call → Call} (hf : ∀ c, (f c).request.id = c.request.id)
    (h : l.Draws ids) (i : Nat) : (l.onCall i f).Draws ids where
  taken := by
    have hids : (l.calls.modify i f).map (fun c => c.request.id) =
        (l.calls.map fun c => c.request.id).modify i id := map_modify hf l.calls i
    rw [Layer.onCall, hids, List.modify_id, h.taken, List.length_modify]
  left := by rw [Layer.onCall, List.length_modify, h.left]

theorem Draws.accept (h : l.Draws ids) (now : Instant) (head : RequestHead) (body : List Chunk) :
    (l.accept now head body).Draws ids := by
  have hlength : (l.accept now head body).calls.length = l.calls.length + 1 := List.length_append
  have hids : (l.accept now head body).calls.map (fun c => c.request.id) =
      l.calls.map (fun c => c.request.id) ++ [l.ids.current] := List.map_append
  refine ⟨?_, ?_⟩
  · rw [hids, hlength, List.range_succ, List.map_append, h.taken, h.left]
    rfl
  · rw [hlength, Function.iterate_succ_apply', ← h.left]
    rfl

theorem id_finish (c : Call) (e : Ending) : (c.finish e).request.id = c.request.id := by
  rw [Call.finish]
  split <;> rfl

theorem id_stepResponse (c : Call) (e : Tee.Event) :
    (c.stepResponse e).request.id = c.request.id := by
  rw [Call.stepResponse]
  split <;> rfl

theorem Draws.send (h : l.Draws ids) (i : Nat) : (l.send i).Draws ids := by
  rw [Layer.send]
  split
  · exact h
  · split
    · obtain ⟨htaken, hleft⟩ := h.onCall (f := fun c => { c with sent := true }) (fun _ => rfl) i
      exact ⟨htaken, hleft⟩
    · exact h

theorem Draws.handle (h : l.Draws ids) : l.handle.Draws ids := by
  rw [Layer.handle]
  split
  · exact ⟨h.taken, h.left⟩
  · exact h

theorem Draws.step (h : l.Draws ids) (e : Event) : (l.step e).Draws ids := by
  cases e with
  | call now head body => exact h.accept now head body
  | request i e => exact h.onCall (f := fun c => { c with body := c.body.step e }) (fun _ => rfl) i
  | reply i now head body => exact h.onCall (fun c => id_finish c _) i
  | fail i message => exact h.onCall (fun c => id_finish c _) i
  | response i e => exact h.onCall (fun c => id_stepResponse c e) i
  | send i => exact h.send i
  | handle => exact h.handle

theorem Draws.run (h : l.Draws ids) (events : List Event) : (l.run events).Draws ids := by
  induction events generalizing l with
  | nil => exact h
  | cons e events ih => exact ih (h.step e)

theorem draws_new (settings : CaptureSettings) (ids : IdSource) : (new settings ids).Draws ids :=
  ⟨rfl, rfl⟩

/-- Whatever the order of the steps, two calls through a layer have the same id exactly when the
numbers of calls before them agree modulo the size of half an id. -/
theorem id_eq_id_iff (settings : CaptureSettings) (ids : IdSource) (events : List Event) {i j : Nat}
    {c d : Call} (hc : ((new settings ids).run events).calls[i]? = some c)
    (hd : ((new settings ids).run events).calls[j]? = some d) :
    c.request.id = d.request.id ↔ i ≡ j [MOD 2 ^ 32] := by
  have hdraws := (draws_new settings ids).run events
  have hid {k : Nat} {c : Call} (hc : ((new settings ids).run events).calls[k]? = some c) :
      c.request.id = (IdSource.next^[k] ids).current := by
    have hget := congrArg (·[k]?) hdraws.taken
    have hk := (List.getElem?_eq_some_iff.mp hc).1
    rw [List.getElem?_map, List.getElem?_map, hc, List.getElem?_range hk] at hget
    exact Option.some.inj hget
  rw [hid hc, hid hd, IdSource.current_next_eq_iff]

end Layer

end HttpJournal
