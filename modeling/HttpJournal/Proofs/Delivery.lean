import HttpJournal.Proofs.StandardLine
import HttpJournal.Proofs.Traffic
import Mathlib.Data.List.Forall2
import Mathlib.Data.List.Nodup
import Mathlib.Tactic.Push

namespace HttpJournal

def Body.ofPulled (keep : Bool) (limit : Option Nat) (items : List Chunk) : Body :=
  if keep && (Chunk.failure? items).isNone &&
      !Capture.exceeds limit (Chunk.octets items).length then
    .kept (Chunk.octets items)
  else .notKept

/-- Either the response or the error of a call, with the id of the request on a response. -/
inductive Exchange.Concludes (s : CaptureSettings) (e : Exchange) : Conclusion → Prop where
  | failed (message : String) (hresponse : e.response = none) (herror : e.error = some message) :
    Concludes s e (.failed message)
  | answered (response : Response) (body : Tee.Flow) (hresponse : e.response = some response)
      (herror : e.error = none) (hid : response.id = e.request.id)
      (hbody : response.body = .ofPulled s.responseBody s.maxOctets body.passed) :
    Concludes s e (.answered response.toResponseHead body)

/-- An exchange of a call, when this is how its service and its caller have it. A capture has a say
in the body of its own side and in nothing else. -/
structure Exchange.Reports (s : CaptureSettings) (p : Passage) (e : Exchange) : Prop where
  head : e.request.toRequestHead = p.head
  body : e.request.body = .ofPulled s.requestBody s.maxOctets p.body.passed
  conclusion : ∃ c, p.conclusion = some c ∧ e.Concludes s c

def Passage.isOver (p : Passage) : Bool :=
  p.body.dropped && match p.conclusion with
    | none => false
    | some (.failed _) => true
    | some (.answered _ body) => body.dropped

theorem Capture.body_ofItems (limit : Option Nat) (items : List Chunk) :
    (ofItems limit items).body = .ofPulled true limit items := by
  unfold ofItems Body.ofPulled
  cases Chunk.failure? items <;> cases exceeds limit (Chunk.octets items).length <;> rfl

namespace Tee

/-- A tee under way, which began with such settings. -/
def Began (keep : Bool) (limit : Option Nat) (t : Tee) : Prop :=
  ∃ source events, t = (new keep limit source).run events

variable {keep : Bool} {limit : Option Nat} {t : Tee}

theorem began_new (keep : Bool) (limit : Option Nat) (source : List Chunk) :
    (new keep limit source).Began keep limit := ⟨source, [], rfl⟩

theorem Began.step (h : t.Began keep limit) (e : Event) : (t.step e).Began keep limit := by
  obtain ⟨source, events, rfl⟩ := h
  exact ⟨source, events ++ [e], (run_append (new keep limit source) events [e]).symm⟩

theorem Began.body_eq (h : t.Began keep limit) (hdone : t.capture.isDone) :
    t.capture.body = .ofPulled keep limit t.passed := by
  obtain ⟨source, events, rfl⟩ := h
  cases keep with
  | true =>
    rw [capture_run_new hdone]
    exact Capture.body_ofItems limit _
  | false =>
    rw [capture_run_of_isDone rfl]
    rfl

theorem isDone_of_receive_eq (hdropped : t.dropped = true) (h : t.receive = t) :
    t.capture.isDone := by
  obtain ⟨limit, source, passed, relayed, dropped, capture⟩ := t
  obtain rfl : dropped = true := hdropped
  cases relayed with
  | nil =>
    have hcapture : capture.finish = capture := congrArg Tee.capture h
    rw [← hcapture]
    exact Capture.isDone_finish capture
  | cons c rest =>
    have hrelayed : rest = c :: rest := congrArg Tee.relayed h
    exact absurd hrelayed (List.cons_ne_self c rest).symm

/-- Steps that the capture has yet to make. -/
def backlog (t : Tee) : Nat := t.relayed.length + if t.capture.isDone then 0 else 1

theorem backlog_receive (t : Tee) : t.receive = t ∨ t.receive.backlog < t.backlog := by
  obtain ⟨limit, source, passed, relayed, dropped, capture⟩ := t
  cases relayed with
  | cons c rest =>
    right
    cases hdone : capture.isDone with
    | true =>
      have hcapture : capture.receive limit c = capture :=
        Capture.foldl_receive_of_isDone hdone [c]
      simp [backlog, receive, hcapture, hdone]
    | false =>
      cases hreceive : (capture.receive limit c).isDone with
      | true =>
        simp only [backlog, receive, hdone, hreceive, List.length_cons, if_true]
        omega
      | false => simp [backlog, receive, hdone, hreceive]
  | nil =>
    cases dropped with
    | false => exact .inl rfl
    | true =>
      cases hdone : capture.isDone with
      | true => exact .inl (congrArg _ (Capture.finish_of_isDone hdone))
      | false => exact .inr (by simp [backlog, receive, hdone, Capture.isDone_finish])

end Tee

namespace Call

structure Sound (s : CaptureSettings) (c : Call) : Prop where
  body : c.body.Began s.requestBody s.maxOctets
  answer : ∀ response body, c.ending = some (.answered response body) →
    response.id = c.request.id ∧ body.Began s.responseBody s.maxOctets

variable {s : CaptureSettings} {c : Call} {e : Exchange}

/-- A change of a call before its exchange is sent, or one that no longer shows in the exchange. -/
structure Keeps (s : CaptureSettings) (f : Call → Call) : Prop where
  sound : ∀ c, c.Sound s → (f c).Sound s
  sent : ∀ c, (f c).sent = c.sent
  exchange : ∀ c e, c.exchange? = some e → (f c).exchange? = some e

def marked (c : Call) : Call := { c with sent := true }

/-- An exchange is there as soon as the call has ended and its captures have. -/
theorem exists_exchange_iff : (∃ e, c.exchange? = some e) ↔ c.body.capture.isDone ∧
    ∃ ending, c.ending = some ending ∧
      ∀ response body, ending = .answered response body → body.capture.isDone := by
  obtain ⟨request, body, ending, sent⟩ := c
  cases hbody : body.capture.isDone with
  | false => simp [exchange?, hbody]
  | true =>
    rcases ending with _ | ⟨message⟩ | ⟨response, answer⟩
    · simp [exchange?, hbody]
    · simp [exchange?, hbody]
    · cases hanswer : answer.capture.isDone <;> simp [exchange?, hbody, hanswer]

theorem keeps_request (s : CaptureSettings) (e : Tee.Event) :
    Keeps s fun c => { c with body := c.body.step e } where
  sound _ h := ⟨h.body.step e, h.answer⟩
  sent _ := rfl
  exchange c _ h := by
    obtain ⟨hbody, -⟩ := exists_exchange_iff.mp ⟨_, h⟩
    have hcapture := Tee.capture_step_of_isDone hbody e
    rw [exchange?] at h ⊢
    rw [hcapture]
    exact h

theorem keeps_response (s : CaptureSettings) (e : Tee.Event) :
    Keeps s fun c => c.stepResponse e where
  sound c h := by
    obtain ⟨request, body, ending, sent⟩ := c
    rcases ending with _ | ⟨message⟩ | ⟨response, answer⟩
    · exact h
    · exact h
    · refine ⟨h.body, ?_⟩
      rintro _ _ ⟨⟩
      obtain ⟨hid, hbegan⟩ := h.answer response answer rfl
      exact ⟨hid, hbegan.step e⟩
  sent c := by
    obtain ⟨request, body, ending, sent⟩ := c
    rcases ending with _ | ⟨message⟩ | ⟨response, answer⟩ <;> rfl
  exchange c _ h := by
    obtain ⟨-, ending, hending, hdone⟩ := exists_exchange_iff.mp ⟨_, h⟩
    obtain ⟨request, body, _, sent⟩ := c
    obtain rfl := hending
    rcases ending with ⟨message⟩ | ⟨response, answer⟩
    · exact h
    · have hcapture := Tee.capture_step_of_isDone (hdone response answer rfl) e
      simp only [exchange?, stepResponse] at h ⊢
      rw [hcapture]
      exact h

/-- An ending that comes after the first one changes nothing. -/
theorem keeps_finish {f : Call → Ending}
    (hf : ∀ c response body, f c = .answered response body →
      response.id = c.request.id ∧ body.Began s.responseBody s.maxOctets) :
    Keeps s fun c => c.finish (f c) where
  sound c h := by
    have hc := hf c
    obtain ⟨request, body, _ | ending, sent⟩ := c
    · refine ⟨h.body, fun response answer hending => ?_⟩
      exact hc response answer (Option.some.inj hending)
    · exact h
  sent c := by
    obtain ⟨request, body, _ | ending, sent⟩ := c <;> rfl
  exchange c _ h := by
    obtain ⟨-, ending, hending, -⟩ := exists_exchange_iff.mp ⟨_, h⟩
    rw [finish, hending]
    exact h

theorem keeps_fail (s : CaptureSettings) (message : String) :
    Keeps s fun c => c.finish (.failed message) := keeps_finish fun _ _ _ h => nomatch h

theorem keeps_reply (s : CaptureSettings) (now : Instant) (head : ResponseHead)
    (body : List Chunk) : Keeps s fun c => c.reply s now head body := by
  apply keeps_finish
  rintro c _ _ ⟨⟩
  exact ⟨rfl, Tee.began_new s.responseBody s.maxOctets body⟩

/-- The exchange of a call says of it what its service and its caller have. -/
theorem Sound.reports (h : c.Sound s) (he : c.exchange? = some e) : e.Reports s c.passage := by
  obtain ⟨hbody, ending, hending, hdone⟩ := exists_exchange_iff.mp ⟨_, he⟩
  have hbodyEq := h.body.body_eq hbody
  obtain ⟨request, body, _, sent⟩ := c
  obtain rfl := hending
  rcases ending with ⟨message⟩ | ⟨response, answer⟩
  · simp only [exchange?, hbody, Bool.not_true, Bool.false_eq_true, if_false,
      Option.some.injEq] at he
    obtain rfl := he
    exact ⟨rfl, hbodyEq, _, rfl, .failed message rfl rfl⟩
  · have hanswer := hdone response answer rfl
    obtain ⟨hid, hbegan⟩ := h.answer response answer rfl
    simp only [exchange?, hbody, hanswer, Bool.not_true, Bool.false_eq_true, if_false,
      Option.some.injEq] at he
    obtain rfl := he
    refine ⟨rfl, hbodyEq, _, rfl, ?_⟩
    exact .answered { response with body := answer.capture.body } answer.flow rfl rfl hid
      (hbegan.body_eq hanswer)

end Call

namespace Layer

variable {l : Layer} {order : List Nat}

def newlySent (l : Layer) : Event → List Nat
  | .send i => if (l.send i).queue = l.queue then [] else [i]
  | _ => []

/-- The calls whose exchanges are sent in a run, in the order in which they are. -/
def sentOrder (l : Layer) : List Event → List Nat
  | [] => []
  | e :: events => l.newlySent e ++ sentOrder (l.step e) events

/-- All that a send can do. -/
theorem send_cases (l : Layer) (i : Nat) :
    l.send i = l ∨ ∃ c e, l.calls[i]? = some c ∧ c.sent = false ∧ c.exchange? = some e ∧
      l.send i = { l.onCall i Call.marked with queue := l.queue ++ [e] } := by
  rw [send]
  cases hc : l.calls[i]? with
  | none => exact .inl rfl
  | some c =>
    cases hsent : c.sent with
    | true => exact .inl (by simp [hsent])
    | false =>
      cases he : c.exchange? with
      | none => exact .inl (by simp [hsent, he])
      | some e => exact .inr ⟨c, e, rfl, hsent, he, by simp only [hsent, he]; rfl⟩

def IsSent (l : Layer) (i : Nat) : Prop := ∃ c, l.calls[i]? = some c ∧ c.sent = true

def HasExchange (l : Layer) (i : Nat) (e : Exchange) : Prop :=
  ∃ c, l.calls[i]? = some c ∧ c.exchange? = some e

/-- What holds when the exchanges of these calls were sent, in this order. -/
structure Delivers (l : Layer) (order : List Nat) : Prop where
  sound : ∀ c ∈ l.calls, c.Sound l.settings
  nodup : order.Nodup
  sent : ∀ i, i ∈ order ↔ l.IsSent i
  exchanges : List.Forall₂ l.HasExchange order (l.handled ++ l.queue)

theorem delivers_new (settings : CaptureSettings) (ids : IdSource) :
    (new settings ids).Delivers [] where
  sound c hc := absurd hc (List.not_mem_nil (a := c))
  nodup := List.nodup_nil
  sent i := by
    constructor
    · intro hi
      exact absurd hi (List.not_mem_nil (a := i))
    · rintro ⟨c, hc, -⟩
      exact absurd hc (Option.not_mem_none c)
  exchanges := .nil

theorem Delivers.accept (h : l.Delivers order) (now : Instant) (head : RequestHead)
    (body : List Chunk) : (l.accept now head body).Delivers order where
  sound c hc := by
    rcases List.mem_append.mp hc with hc | hc
    · exact h.sound c hc
    · obtain rfl := List.mem_singleton.mp hc
      exact ⟨Tee.began_new _ _ body, fun _ _ h => nomatch h⟩
  nodup := h.nodup
  sent i := by
    rw [h.sent i, IsSent, IsSent, Layer.accept]
    simp only [getElem?_concat_iff]
    constructor
    · rintro ⟨c, hc, hsent⟩
      exact ⟨c, .inl hc, hsent⟩
    · rintro ⟨c, hc | ⟨-, rfl⟩, hsent⟩
      · exact ⟨c, hc, hsent⟩
      · -- the call that comes in is not sent
        cases hsent
  exchanges := h.exchanges.imp fun i e ⟨c, hc, he⟩ => ⟨c, getElem?_concat_iff.mpr (.inl hc), he⟩

theorem getElem?_onCall (l : Layer) (i : Nat) (f : Call → Call) (j : Nat) :
    (l.onCall i f).calls[j]? = (l.calls[j]?).map fun c => if i = j then f c else c :=
  List.getElem?_modify f i l.calls j

theorem isSent_onCall {f : Call → Call} (hf : ∀ c, (f c).sent = c.sent) (i j : Nat) :
    (l.onCall i f).IsSent j ↔ l.IsSent j := by
  unfold IsSent
  rw [getElem?_onCall]
  cases l.calls[j]? with
  | none => simp
  | some c => by_cases hij : i = j <;> simp [hij, hf]

theorem HasExchange.onCall {f : Call → Call}
    (hf : ∀ c e, c.exchange? = some e → (f c).exchange? = some e) {j : Nat} {e : Exchange}
    (h : l.HasExchange j e) (i : Nat) : (l.onCall i f).HasExchange j e := by
  obtain ⟨c, hc, he⟩ := h
  refine ⟨if i = j then f c else c, ?_, ?_⟩
  · rw [getElem?_onCall, hc]
    rfl
  · split
    · exact hf c e he
    · exact he

theorem Delivers.onCall (h : l.Delivers order) {f : Call → Call} (hf : Call.Keeps l.settings f)
    (i : Nat) : (l.onCall i f).Delivers order where
  sound := forall_mem_modify hf.sound h.sound i
  nodup := h.nodup
  sent j := by rw [isSent_onCall hf.sent, h.sent]
  exchanges := h.exchanges.imp fun _ _ he => he.onCall hf.exchange i

theorem Delivers.handle (h : l.Delivers order) : l.handle.Delivers order := by
  rw [Layer.handle]
  split
  · rename_i e rest hqueue
    refine ⟨h.sound, h.nodup, h.sent, ?_⟩
    have hall := h.exchanges
    rw [hqueue] at hall
    change List.Forall₂ _ order (l.handled ++ [e] ++ rest)
    rw [List.append_assoc]
    exact hall
  · exact h

theorem isSent_marked {i : Nat} {c : Call} (hc : l.calls[i]? = some c) (j : Nat) :
    (l.onCall i Call.marked).IsSent j ↔ l.IsSent j ∨ j = i := by
  unfold IsSent
  rw [getElem?_onCall]
  by_cases hij : i = j
  · subst hij
    simp [hc, Call.marked]
  · cases l.calls[j]? <;> simp [hij, Ne.symm hij]

theorem Delivers.send (h : l.Delivers order) (i : Nat) :
    (l.send i).Delivers (order ++ l.newlySent (.send i)) := by
  rw [newlySent]
  rcases l.send_cases i with hsend | ⟨c, e, hc, hsent, he, hsend⟩
  · rw [hsend, if_pos rfl, List.append_nil]
    exact h
  · have hgrows : l.queue ++ [e] ≠ l.queue := by simp
    rw [hsend, if_neg hgrows]
    have hkept {j : Nat} {e : Exchange} (hj : l.HasExchange j e) :
        (l.onCall i Call.marked).HasExchange j e :=
      HasExchange.onCall (f := Call.marked) (fun _ _ h => h) hj i
    refine ⟨?_, ?_, ?_, ?_⟩
    · exact forall_mem_modify (fun c hc => ⟨hc.body, hc.answer⟩) h.sound i
    · have hnew : i ∉ order := by
        rw [h.sent]
        rintro ⟨c', hc', hsent'⟩
        obtain rfl := Option.some.inj (hc.symm.trans hc')
        exact absurd (hsent.symm.trans hsent') Bool.false_ne_true
      rw [← List.concat_eq_append]
      exact List.Nodup.concat hnew h.nodup
    · intro j
      rw [List.mem_append, List.mem_singleton, h.sent]
      exact (isSent_marked hc j).symm
    · change List.Forall₂ _ (order ++ [i]) (l.handled ++ (l.queue ++ [e]))
      rw [← List.append_assoc]
      apply List.rel_append (h.exchanges.imp fun _ _ => hkept)
      exact .cons (hkept ⟨c, hc, he⟩) .nil

theorem Delivers.step (h : l.Delivers order) (e : Event) :
    (l.step e).Delivers (order ++ l.newlySent e) := by
  have hnothing {l : Layer} (h : l.Delivers order) : l.Delivers (order ++ []) := by
    rwa [List.append_nil]
  cases e with
  | call now head body => exact hnothing (h.accept now head body)
  | request i e => exact hnothing (h.onCall (Call.keeps_request _ e) i)
  | reply i now head body => exact hnothing (h.onCall (Call.keeps_reply _ now head body) i)
  | fail i message => exact hnothing (h.onCall (Call.keeps_fail _ message) i)
  | response i e => exact hnothing (h.onCall (Call.keeps_response _ e) i)
  | send i => exact h.send i
  | handle => exact hnothing h.handle

theorem Delivers.run (h : l.Delivers order) (events : List Event) :
    (l.run events).Delivers (order ++ l.sentOrder events) := by
  induction events generalizing l order with
  | nil =>
    rw [sentOrder, List.append_nil]
    exact h
  | cons e events ih =>
    rw [sentOrder, ← List.append_assoc]
    exact ih (h.step e)

theorem settings_step (l : Layer) (e : Event) : (l.step e).settings = l.settings := by
  cases e with
  | send i =>
    change (l.send i).settings = l.settings
    rcases l.send_cases i with h | ⟨c, e, -, -, -, h⟩ <;> rw [h]
    rfl
  | handle =>
    change l.handle.settings = l.settings
    rw [Layer.handle]
    split <;> rfl
  | _ => rfl

theorem settings_run (l : Layer) (events : List Event) : (l.run events).settings = l.settings := by
  induction events generalizing l with
  | nil => rfl
  | cons e events ih => exact (ih (l.step e)).trans (l.settings_step e)

def Event.isBackground : Event → Bool
  | .request _ .receive | .response _ .receive | .send _ | .handle => true
  | _ => false

/-- No task has anything to do. -/
def Idle (l : Layer) : Prop := ∀ e : Event, e.isBackground → l.step e = l

def Busy (l : Layer) : List Event → Prop
  | [] => True
  | e :: events => l.step e ≠ l ∧ Busy (l.step e) events

end Layer

def Call.backlog (c : Call) : Nat :=
  c.body.backlog + (match c.ending with
    | some (.answered _ body) => body.backlog
    | _ => 0) + if c.sent then 0 else 2

theorem Call.backlog_request (c : Call) :
    { c with body := c.body.receive } = c ∨
      Call.backlog { c with body := c.body.receive } < c.backlog := by
  rcases c.body.backlog_receive with h | h
  · left
    rw [h]
  · right
    simp only [backlog]
    omega

theorem Call.backlog_response (c : Call) :
    c.stepResponse .receive = c ∨ (c.stepResponse .receive).backlog < c.backlog := by
  obtain ⟨request, body, ending, sent⟩ := c
  rcases ending with _ | ⟨message⟩ | ⟨response, answer⟩
  · exact .inl rfl
  · exact .inl rfl
  · rcases answer.backlog_receive with h | h
    · left
      simp only [stepResponse, Tee.step, h]
    · right
      exact Nat.add_lt_add_right (Nat.add_lt_add_left h body.backlog) _

namespace Layer

def backlog (l : Layer) : Nat := (l.calls.map Call.backlog).sum + l.queue.length

theorem onCall_eq_self_iff {l : Layer} {f : Call → Call} {i : Nat} :
    l.onCall i f = l ↔ ∀ c, l.calls[i]? = some c → f c = c := by
  rw [← modify_eq_self_iff]
  constructor
  · exact congrArg calls
  · intro h
    rw [onCall, h]

theorem backlog_onCall {f : Call → Call} (hf : ∀ c, f c = c ∨ (f c).backlog < c.backlog)
    (l : Layer) (i : Nat) : l.onCall i f = l ∨ (l.onCall i f).backlog < l.backlog := by
  by_cases hsame : ∀ c, l.calls[i]? = some c → f c = c
  · exact .inl (onCall_eq_self_iff.mpr hsame)
  · right
    push Not at hsame
    obtain ⟨c, hc, hne⟩ := hsame
    have hlt := (hf c).resolve_left hne
    have hsum := sum_map_modify Call.backlog f hc
    change ((l.calls.modify i f).map Call.backlog).sum + l.queue.length <
      (l.calls.map Call.backlog).sum + l.queue.length
    omega

theorem backlog_send (l : Layer) (i : Nat) : l.send i = l ∨ (l.send i).backlog < l.backlog := by
  rcases l.send_cases i with h | ⟨c, e, hc, hsent, -, h⟩
  · exact .inl h
  · right
    have hsum := sum_map_modify Call.backlog Call.marked hc
    have hmarked : c.marked.backlog + 2 = c.backlog := by
      simp [Call.backlog, Call.marked, hsent]
    rw [h]
    change ((l.calls.modify i Call.marked).map Call.backlog).sum + (l.queue ++ [e]).length <
      (l.calls.map Call.backlog).sum + l.queue.length
    rw [List.length_append, List.length_singleton]
    omega

/-- A step of a task does nothing, or it takes one off what is left to do. -/
theorem backlog_step (l : Layer) {e : Event} (he : e.isBackground) :
    l.step e = l ∨ (l.step e).backlog < l.backlog := by
  match e with
  | .request i .receive => exact backlog_onCall Call.backlog_request l i
  | .response i .receive => exact backlog_onCall Call.backlog_response l i
  | .send i => exact l.backlog_send i
  | .handle =>
    change l.handle = l ∨ l.handle.backlog < l.backlog
    rw [handle]
    split
    · rename_i e rest hqueue
      right
      simp [backlog, hqueue]
    · exact .inl rfl

theorem length_le_backlog {l : Layer} {events : List Event} (he : ∀ e ∈ events, e.isBackground)
    (h : l.Busy events) : events.length ≤ l.backlog := by
  induction events generalizing l with
  | nil => exact Nat.zero_le _
  | cons e events ih =>
    rw [List.forall_mem_cons] at he
    have hstep := (l.backlog_step he.1).resolve_left h.1
    have hrest := ih he.2 h.2
    rw [List.length_cons]
    omega

theorem idle_of_backlog {l : Layer} (h : l.backlog = 0) : l.Idle := by
  intro e he
  apply (l.backlog_step he).resolve_right
  rw [h]
  exact Nat.not_lt_zero _

theorem queue_of_idle {l : Layer} (h : l.Idle) : l.queue = [] := by
  have hstep : l.handle = l := h .handle rfl
  cases hqueue : l.queue with
  | nil => rfl
  | cons e rest =>
    have hrest : l.handle.queue = rest := by
      rw [handle, hqueue]
    rw [hstep, hqueue] at hrest
    exact absurd hrest (List.cons_ne_self e rest)

/-- A call that is over has its exchange sent when no task has anything to do. -/
theorem isSent_of_idle {l : Layer} (h : l.Idle) {i : Nat} {c : Call} (hc : l.calls[i]? = some c)
    (hover : c.passage.isOver) : l.IsSent i := by
  rw [Passage.isOver, Bool.and_eq_true] at hover
  have hrequest : { c with body := c.body.receive } = c :=
    onCall_eq_self_iff.mp (h (.request i .receive) rfl) c hc
  have hbody : c.body.capture.isDone :=
    Tee.isDone_of_receive_eq hover.1 (congrArg Call.body hrequest)
  have hresponse : c.stepResponse .receive = c :=
    onCall_eq_self_iff.mp (h (.response i .receive) rfl) c hc
  have hexchange : ∃ e, c.exchange? = some e := by
    rw [Call.exists_exchange_iff]
    refine ⟨hbody, ?_⟩
    have hended := hover.2
    obtain ⟨request, body, ending, sent⟩ := c
    rcases ending with _ | ⟨message⟩ | ⟨response, answer⟩
    · cases hended
    · exact ⟨_, rfl, fun _ _ h => nomatch h⟩
    · refine ⟨_, rfl, ?_⟩
      rintro _ _ ⟨⟩
      have hanswer : some (Ending.answered response (answer.step .receive)) =
          some (.answered response answer) := congrArg Call.ending hresponse
      simp only [Option.some.injEq, Ending.answered.injEq, true_and] at hanswer
      exact Tee.isDone_of_receive_eq hended hanswer
  obtain ⟨e, he⟩ := hexchange
  cases hsent : c.sent with
  | true => exact ⟨c, hc, hsent⟩
  | false =>
    -- or else the send would do something
    have hsend : l.send i = l := h (.send i) rfl
    rw [Layer.send, hc] at hsend
    simp only [hsent, he] at hsend
    have hqueue : l.queue ++ [e] = l.queue := congrArg queue hsend
    simp at hqueue

/-- Whatever the order of the steps, no call has two exchanges, and each exchange that the handler
has received, or that still waits for it, is that of the call it was sent for. Once every call is
over and no task has anything to do, the handler has received one exchange of each call, in the
order in which they were sent; and the tasks, left to themselves, come to have nothing to do. -/
theorem delivers_each_once (settings : CaptureSettings) (ids : IdSource) (events : List Event) :
    let l := (new settings ids).run events
    let order := (new settings ids).sentOrder events
    let calls := Passage.run [] events
    order.Nodup ∧
      List.Forall₂ (fun i e => ∃ p, calls[i]? = some p ∧ e.Reports settings p) order
        (l.handled ++ l.queue) ∧
      ((∀ p ∈ calls, p.isOver) → l.Idle →
        l.queue = [] ∧ order.Perm (List.range calls.length)) ∧
      ∀ more : List Event, (∀ e ∈ more, e.isBackground) → l.Busy more →
        more.length ≤ l.backlog := by
  intro l order calls
  have hdelivers : l.Delivers order := (delivers_new settings ids).run events
  have hsettings : l.settings = settings := settings_run (new settings ids) events
  have hcalls : l.passages = calls := passages_run (new settings ids) events
  refine ⟨hdelivers.nodup, ?_, ?_, ?_⟩
  · apply hdelivers.exchanges.imp
    rintro i e ⟨c, hc, he⟩
    have hsound := hdelivers.sound c (List.mem_of_getElem? hc)
    rw [hsettings] at hsound
    refine ⟨c.passage, ?_, hsound.reports he⟩
    rw [← hcalls, passages, List.getElem?_map, hc]
    rfl
  · intro hover hidle
    refine ⟨queue_of_idle hidle, ?_⟩
    rw [List.perm_ext_iff_of_nodup hdelivers.nodup List.nodup_range]
    intro i
    rw [hdelivers.sent, List.mem_range, ← hcalls, length_passages]
    constructor
    · rintro ⟨c, hc, -⟩
      exact (List.getElem?_eq_some_iff.mp hc).1
    · intro hi
      have hc := List.getElem?_eq_getElem hi
      refine isSent_of_idle hidle hc (hover _ ?_)
      rw [← hcalls]
      exact List.mem_map_of_mem (List.getElem_mem hi)
  · intro more hmore hbusy
    exact length_le_backlog hmore hbusy

/-- Two calls that overlap. The body of the first fails under way; the service fails the second,
whose exchange is sent first. -/
def overlapping : List Event := [
  .call ⟨0, 0⟩ Formatter.rootExchange.exchange.request.toRequestHead
    [.data [1], .failure "reset"],
  .call ⟨1, 0⟩ { Formatter.rootExchange.exchange.request.toRequestHead with version := .http2 }
    [],
  .request 0 .pull, .fail 1 "refused", .request 1 .drop, .request 1 .receive, .send 1, .send 0,
  .request 0 .pull, .reply 0 ⟨2, 0⟩ ⟨.ok, .http11, []⟩ [.data [2], .data [3]], .response 0 .pull,
  .request 0 .drop, .request 0 .receive, .request 0 .receive, .handle, .response 0 .pull,
  .response 0 .drop, .response 0 .receive, .response 0 .receive, .response 0 .receive, .send 1,
  .send 0, .handle]

theorem delivers_each_once_overlapping :
    let l := (new .standard ⟨0, 1⟩).run overlapping
    let order := (new .standard ⟨0, 1⟩).sentOrder overlapping
    (∀ p ∈ Passage.run [] overlapping, p.isOver) ∧ l.Idle ∧ order = [1, 0] ∧ order.Nodup ∧
      l.queue = [] ∧ order.Perm (List.range 2) ∧
      l.handled.map (fun e => (e.request.body, e.response.map fun r => r.body, e.error)) =
        [(.kept [], none, some "refused"), (.notKept, some (.kept [2, 3]), none)] := by
  intro l order
  have hover : ∀ p ∈ Passage.run [] overlapping, p.isOver := by decide
  have hidle : l.Idle := idle_of_backlog (by decide)
  obtain ⟨hnodup, -, hfinal, -⟩ := delivers_each_once .standard ⟨0, 1⟩ overlapping
  obtain ⟨hqueue, hperm⟩ := hfinal hover hidle
  exact ⟨hover, hidle, by decide, hnodup, hqueue, hperm, by decide⟩

end Layer

end HttpJournal
