import HttpJournal.Capture.Service
import HttpJournal.Proofs.List
import HttpJournal.Proofs.Tee

namespace HttpJournal

namespace Chunk

theorem taken_prefix (limit : Option Nat) (items : List Chunk) : taken limit items <+: items := by
  fun_induction taken limit items with
  | case1 => exact List.prefix_rfl
  | case2 => exact List.nil_prefix
  | case3 => exact ⟨_, rfl⟩
  | case4 n bs rest ih => exact (List.prefix_cons_inj _).mpr ih
  | case5 bs rest ih => exact (List.prefix_cons_inj _).mpr ih

end Chunk

namespace Tee.Flow

def ofSource (source : List Chunk) : Flow := ⟨source, [], false⟩

def reading (limit : Option Nat) (source : List Chunk) : List Event :=
  List.replicate (Chunk.taken limit source).length .pull ++ [.drop]

theorem pulls_replicate (n : Nat) : pulls (List.replicate n .pull ++ [.drop]) = n := by
  induction n with
  | zero => rfl
  | succ n ih => rw [List.replicate_succ, List.cons_append, pulls_pull, ih]

theorem passed_reading (limit : Option Nat) (source : List Chunk) :
    ((ofSource source).run (reading limit source)).passed = Chunk.taken limit source := by
  rw [passed_run rfl, reading, pulls_replicate]
  exact (List.prefix_iff_eq_take.mp (Chunk.taken_prefix limit source)).symm

end Tee.Flow

open Tee (Flow)

inductive Conclusion where
  | failed (message : String)
  | answered (head : ResponseHead) (body : Flow)

/-- A call as its service and its caller have it. -/
structure Passage where
  head : RequestHead
  body : Flow
  conclusion : Option Conclusion

namespace Passage

def conclude (p : Passage) (c : Conclusion) : Passage :=
  match p.conclusion with
  | none => { p with conclusion := some c }
  | some _ => p

def stepResponse (p : Passage) (e : Tee.Event) : Passage :=
  match p.conclusion with
  | some (.answered head body) => { p with conclusion := some (.answered head (body.step e)) }
  | _ => p

/-- What an event is to the calls where there is no layer. -/
def step (ps : List Passage) : Layer.Event → List Passage
  | .call _ head body => ps ++ [⟨head, .ofSource body, none⟩]
  | .request i e => ps.modify i fun p => { p with body := p.body.step e }
  | .reply i _ head body => ps.modify i fun p => p.conclude (.answered head (.ofSource body))
  | .fail i message => ps.modify i fun p => p.conclude (.failed message)
  | .response i e => ps.modify i fun p => p.stepResponse e
  | .send _ => ps
  | .handle => ps

def run (ps : List Passage) (events : List Layer.Event) : List Passage := events.foldl step ps

def traffic? (p : Passage) : Option Traffic :=
  p.conclusion.map fun
    | .failed message => ⟨p.head, p.body.passed, .failed message⟩
    | .answered head body => ⟨p.head, p.body.passed, .answered head body.passed⟩

end Passage

def Ending.conclusion : Ending → Conclusion
  | .failed message => .failed message
  | .answered response body => .answered response.toResponseHead body.flow

namespace Call

def passage (c : Call) : Passage :=
  ⟨c.request.toRequestHead, c.body.flow, c.ending.map Ending.conclusion⟩

theorem passage_step (c : Call) (e : Tee.Event) :
    passage { c with body := c.body.step e } =
      { c.passage with body := c.passage.body.step e } := by
  rw [passage, Tee.flow_step]
  rfl

theorem passage_finish (c : Call) (e : Ending) :
    (c.finish e).passage = c.passage.conclude e.conclusion := by
  obtain ⟨request, body, ending, sent⟩ := c
  cases ending <;> rfl

theorem passage_stepResponse (c : Call) (e : Tee.Event) :
    (c.stepResponse e).passage = c.passage.stepResponse e := by
  obtain ⟨request, body, ending, sent⟩ := c
  rcases ending with _ | ⟨message⟩ | ⟨response, tee⟩
  · rfl
  · rfl
  · change Passage.mk _ _ (some (.answered _ (tee.step e).flow)) = _
    rw [Tee.flow_step]
    rfl

end Call

namespace Layer

def passages (l : Layer) : List Passage := l.calls.map Call.passage

theorem passages_onCall {f : Call → Call} {f' : Passage → Passage}
    (h : ∀ c, (f c).passage = f' c.passage) (l : Layer) (i : Nat) :
    (l.onCall i f).passages = l.passages.modify i f' := map_modify h l.calls i

theorem passages_send (l : Layer) (i : Nat) : (l.send i).passages = l.passages := by
  rw [send]
  split
  · rfl
  · split
    · -- a call that is marked as sent is the same to its service and its caller
      have h : (l.onCall i fun c => { c with sent := true }).passages = l.passages.modify i id :=
        passages_onCall (fun _ => rfl) l i
      rw [List.modify_id] at h
      exact h
    · rfl

theorem passages_handle (l : Layer) : l.handle.passages = l.passages := by
  rw [handle]
  split <;> rfl

/-- An event does to the calls of a layer what it does to calls without one. -/
theorem passages_step (l : Layer) (e : Event) :
    (l.step e).passages = Passage.step l.passages e := by
  cases e with
  | call now head body => exact List.map_append
  | request i e => exact passages_onCall (fun c => c.passage_step e) l i
  | reply i now head body => exact passages_onCall (fun c => c.passage_finish _) l i
  | fail i message => exact passages_onCall (fun c => c.passage_finish _) l i
  | response i e => exact passages_onCall (fun c => c.passage_stepResponse e) l i
  | send i => exact passages_send l i
  | handle => exact passages_handle l

theorem passages_run (l : Layer) (events : List Event) :
    (l.run events).passages = Passage.run l.passages events := by
  induction events generalizing l with
  | nil => rfl
  | cons e events ih =>
    have h := ih (l.step e)
    rw [passages_step] at h
    exact h

theorem traffic?_eq (l : Layer) (i : Nat) :
    l.traffic? i = l.passages[i]?.bind Passage.traffic? := by
  rw [passages, List.getElem?_map, traffic?]
  rcases l.calls[i]? with _ | ⟨request, body, _ | ⟨message⟩ | ⟨response, tee⟩, sent⟩ <;> rfl

def traffics (l : Layer) : List (Option Traffic) := (List.range l.calls.length).map l.traffic?

theorem traffics_eq_map (l : Layer) : l.traffics = l.passages.map Passage.traffic? := by
  have hlength : l.calls.length = l.passages.length := (List.length_map _).symm
  apply List.ext_getElem?
  intro i
  rw [traffics, List.getElem?_map, List.getElem?_map, hlength]
  -- neither list has more than one entry for each call
  by_cases hi : i < l.passages.length
  · rw [List.getElem?_range hi, List.getElem?_eq_getElem hi, Option.map_some, traffic?_eq,
      List.getElem?_eq_getElem hi]
    rfl
  · have hle := Nat.le_of_not_lt hi
    rw [List.getElem?_eq_none hle, List.getElem?_eq_none (by simpa using hle)]
    rfl

end Layer

namespace Passage

theorem run_append (ps : List Passage) (events more : List Layer.Event) :
    run ps (events ++ more) = run (run ps events) more := List.foldl_append

theorem run_request (ps : List Passage) (p : Passage) (events : List Tee.Event) :
    run (ps ++ [p]) (events.map (.request ps.length)) =
      ps ++ [{ p with body := p.body.run events }] := by
  induction events generalizing p with
  | nil => rfl
  | cons e events ih =>
    rw [List.map_cons, run, List.foldl_cons, step, modify_last]
    exact ih { p with body := p.body.step e }

theorem run_response (ps : List Passage) (request : RequestHead) (body : Flow)
    (head : ResponseHead) (answer : Flow) (events : List Tee.Event) :
    run (ps ++ [⟨request, body, some (.answered head answer)⟩])
        (events.map (.response ps.length)) =
      ps ++ [⟨request, body, some (.answered head (answer.run events))⟩] := by
  induction events generalizing answer with
  | nil => rfl
  | cons e events ih =>
    rw [List.map_cons, run, List.foldl_cons, step, modify_last]
    exact ih (answer.step e)

theorem stepResponse_receive (p : Passage) : p.stepResponse .receive = p := by
  obtain ⟨head, body, conclusion⟩ := p
  rcases conclusion with _ | ⟨message⟩ | ⟨head, body⟩ <;> rfl

theorem step_request_receive (ps : List Passage) (i : Nat) :
    step ps (.request i .receive) = ps := List.modify_id i ps

theorem step_response_receive (ps : List Passage) (i : Nat) :
    step ps (.response i .receive) = ps := by
  rw [step, funext stepResponse_receive]
  exact List.modify_id i ps

theorem run_replicate {e : Layer.Event} {ps : List Passage} (h : step ps e = ps) (n : Nat) :
    run ps (List.replicate n e) = ps := by
  induction n with
  | zero => rfl
  | succ n ih =>
    rw [List.replicate_succ, run, List.foldl_cons, h]
    exact ih

/-- The steps of the captures at the end of a call, and those of the handler, pass unseen. -/
theorem run_closing (ps : List Passage) (l : Layer) (i : Nat) : run ps (l.closing i) = ps := by
  rw [Layer.closing, run_append, run_append, run_replicate (step_request_receive ps i),
    run_replicate (step_response_receive ps i)]
  rfl

end Passage

namespace Visit

def passage (v : Visit) : Passage where
  head := v.head
  body := (Flow.ofSource v.body).run (Flow.reading v.service.reads v.body)
  conclusion := some <| match v.service.reply (Chunk.taken v.service.reads v.body) with
    | .fails message => .failed message
    | .answers head body => .answered head ((Flow.ofSource body).run (Flow.reading v.consumes body))

theorem traffic?_passage (v : Visit) : v.passage.traffic? = some v.direct := by
  rw [passage, Passage.traffic?, direct]
  cases v.service.reply (Chunk.taken v.service.reads v.body) with
  | fails message => simp only [Option.map_some, Flow.passed_reading]
  | answers head body => simp only [Option.map_some, Flow.passed_reading]

theorem arrival_eq (v : Visit) (i : Nat) :
    v.arrival i = .call v.now v.head v.body ::
      (Flow.reading v.service.reads v.body).map (.request i) := by
  simp [arrival, Flow.reading]

theorem departure_answers (v : Visit) (i : Nat) (head : ResponseHead) (body : List Chunk) :
    v.departure i (.answers head body) = .reply i v.now head body ::
      (Flow.reading v.consumes body).map (.response i) := by
  simp [departure, Flow.reading]

theorem run_arrival (v : Visit) (ps : List Passage) :
    Passage.run ps (v.arrival ps.length) =
      ps ++ [⟨v.head, (Flow.ofSource v.body).run (Flow.reading v.service.reads v.body), none⟩] := by
  rw [arrival_eq]
  exact Passage.run_request ps ⟨v.head, .ofSource v.body, none⟩ _

theorem run_departure (v : Visit) (ps : List Passage) (body : Flow) (reply : Reply) :
    Passage.run (ps ++ [⟨v.head, body, none⟩]) (v.departure ps.length reply) =
      ps ++ [⟨v.head, body, some <| match reply with
        | .fails message => .failed message
        | .answers head items =>
          .answered head ((Flow.ofSource items).run (Flow.reading v.consumes items))⟩] := by
  cases reply with
  | fails message => exact modify_last ps _ _
  | answers head items =>
    rw [departure_answers, Passage.run, List.foldl_cons, Passage.step, modify_last]
    exact Passage.run_response ps v.head body head (.ofSource items) _

end Visit

namespace Layer

theorem runNoting_fst (l : Layer) (events : List Event) : (l.runNoting events).1 = l.run events :=
  (List.foldl_hom Prod.fst fun _ _ => rfl).symm

def arrived (l : Layer) (v : Visit) : Layer := l.run (v.arrival l.calls.length)

def departed (l : Layer) (v : Visit) : Layer :=
  (l.arrived v).run
    (v.departure l.calls.length (v.service.reply ((l.arrived v).requestItems l.calls.length)))

theorem serve_fst (l : Layer) (v : Visit) :
    (l.serve v).1 = (l.departed v).run ((l.departed v).closing l.calls.length) := by
  simp only [serve, runNoting_fst]
  rfl

theorem requestItems_eq (l : Layer) (i : Nat) :
    l.requestItems i = ((l.passages[i]?).map fun p => p.body.passed).getD [] := by
  rw [passages, List.getElem?_map, requestItems]
  cases l.calls[i]? <;> rfl

theorem length_passages (l : Layer) : l.passages.length = l.calls.length := List.length_map _

theorem passages_arrived (l : Layer) (v : Visit) :
    (l.arrived v).passages = l.passages ++
      [⟨v.head, (Flow.ofSource v.body).run (Flow.reading v.service.reads v.body), none⟩] := by
  rw [arrived, passages_run, ← length_passages]
  exact v.run_arrival l.passages

theorem requestItems_arrived (l : Layer) (v : Visit) :
    (l.arrived v).requestItems l.calls.length = Chunk.taken v.service.reads v.body := by
  rw [requestItems_eq, passages_arrived, ← length_passages, List.getElem?_concat_length]
  exact Flow.passed_reading v.service.reads v.body

/-- A call through the layer is added to the others as it would be without the layer. -/
theorem passages_serve (l : Layer) (v : Visit) :
    (l.serve v).1.passages = l.passages ++ [v.passage] := by
  rw [serve_fst, passages_run, Passage.run_closing, departed, passages_run, passages_arrived,
    requestItems_arrived, ← length_passages]
  exact v.run_departure l.passages _ _

def serveAll (l : Layer) (visits : List Visit) : Layer :=
  visits.foldl (fun l v => (l.serve v).1) l

theorem passages_serveAll (l : Layer) (visits : List Visit) :
    (l.serveAll visits).passages = l.passages ++ visits.map Visit.passage := by
  induction visits generalizing l with
  | nil => exact (List.append_nil _).symm
  | cons v visits ih =>
    have h := ih (l.serve v).1
    rw [passages_serve, List.append_assoc] at h
    exact h

theorem traffics_serveAll (settings : CaptureSettings) (ids : IdSource) (visits : List Visit) :
    ((new settings ids).serveAll visits).traffics = visits.map fun v => some v.direct := by
  rw [traffics_eq_map, passages_serveAll, show (new settings ids).passages = [] from rfl,
    List.nil_append, List.map_map]
  exact List.map_congr_left fun v _ => v.traffic?_passage

/-- The settings of a layer never change what passes between a service and its callers. Through
layers of any settings the same passes in a sequence of calls as without a layer; and whatever the
order in which readers, captures and the handler take their steps, also where calls overlap or a
reader goes on after a failure, the calls are at every moment what they are without a layer. -/
theorem traffics_independent (settings settings' : CaptureSettings) (ids ids' : IdSource) :
    (∀ visits : List Visit,
        ((new settings ids).serveAll visits).traffics = visits.map (fun v => some v.direct) ∧
          ((new settings ids).serveAll visits).traffics =
            ((new settings' ids').serveAll visits).traffics) ∧
      ∀ events : List Event,
        ((new settings ids).run events).passages = Passage.run [] events ∧
          ((new settings ids).run events).passages =
            ((new settings' ids').run events).passages := by
  constructor
  · intro visits
    rw [traffics_serveAll, traffics_serveAll]
    exact ⟨rfl, rfl⟩
  · intro events
    rw [passages_run, passages_run]
    exact ⟨rfl, rfl⟩

end Layer

end HttpJournal
