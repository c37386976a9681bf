import HttpJournal.Capture.Tee
import HttpJournal.Exchange
import HttpJournal.Settings

namespace HttpJournal

/-- Ids of calls: the start of the process in the upper half and a counter in the lower. -/
structure IdSource where
  start : UInt64
  counter : UInt64
  deriving DecidableEq

namespace IdSource

def current (s : IdSource) : UInt64 := (s.start <<< 32) ||| (s.counter &&& 0xFFFFFFFF)

def next (s : IdSource) : IdSource := { s with counter := s.counter + 1 }

end IdSource

inductive Ending where
  | failed (message : String)
  | answered (response : Response) (body : Tee)
  deriving DecidableEq

structure Call where
  request : Request
  body : Tee
  ending : Option Ending
  sent : Bool
  deriving DecidableEq

def Call.exchange? (c : Call) : Option Exchange :=
  let request := { c.request with body := c.body.capture.body }
  if !c.body.capture.isDone then none
  else match c.ending with
    | none => none
    | some (.failed message) => some ⟨request, none, some message⟩
    | some (.answered response body) =>
      if !body.capture.isDone then none
      else some ⟨request, some { response with body := body.capture.body }, none⟩

/-- Calls through a layer around a service, which has a tee on each of their bodies. The exchange of
a call is sent to the handler once its captures are at their end. -/
structure Layer where
  settings : CaptureSettings
  ids : IdSource
  calls : List Call
  /-- Sent, and not yet handled. -/
  queue : List Exchange
  handled : List Exchange
  deriving DecidableEq

namespace Layer

/-- What happens to the call of a number, or to the handler. -/
inductive Event where
  | call (now : Instant) (head : RequestHead) (body : List Chunk)
  | request (call : Nat) (event : Tee.Event)
  | reply (call : Nat) (now : Instant) (head : ResponseHead) (body : List Chunk)
  | fail (call : Nat) (message : String)
  | response (call : Nat) (event : Tee.Event)
  | send (call : Nat)
  | handle
  deriving DecidableEq

def new (settings : CaptureSettings) (ids : IdSource) : Layer := ⟨settings, ids, [], [], []⟩

def accept (l : Layer) (now : Instant) (head : RequestHead) (body : List Chunk) : Layer :=
  let request : Request := { head with id := l.ids.current, time := now, body := .notKept }
  let tee := Tee.new l.settings.requestBody l.settings.maxOctets body
  { l with ids := l.ids.next, calls := l.calls ++ [⟨request, tee, none, false⟩] }

def onCall (l : Layer) (i : Nat) (f : Call → Call) : Layer := { l with calls := l.calls.modify i f }

end Layer

/-- The first ending of a call counts. -/
def Call.finish (c : Call) (e : Ending) : Call :=
  match c.ending with
  | none => { c with ending := some e }
  | some _ => c

def Call.reply (c : Call) (s : CaptureSettings) (now : Instant) (head : ResponseHead)
    (body : List Chunk) : Call :=
  c.finish (.answered { head with id := c.request.id, time := now, body := .notKept }
    (Tee.new s.responseBody s.maxOctets body))

def Call.stepResponse (c : Call) (e : Tee.Event) : Call :=
  match c.ending with
  | some (.answered response body) => { c with ending := some (.answered response (body.step e)) }
  | _ => c

namespace Layer

/-- Sends the exchange of a call if it is complete and was not sent before. -/
def send (l : Layer) (i : Nat) : Layer :=
  match l.calls[i]? with
  | none => l
  | some c =>
    match c.sent, c.exchange? with
    | false, some e => { l.onCall i fun c => { c with sent := true } with queue := l.queue ++ [e] }
    | _, _ => l

def handle (l : Layer) : Layer :=
  match l.queue with
  | e :: rest => { l with queue := rest, handled := l.handled ++ [e] }
  | [] => l

def step (l : Layer) : Event → Layer
  | .call now head body => l.accept now head body
  | .request i e => l.onCall i fun c => { c with body := c.body.step e }
  | .reply i now head body => l.onCall i fun c => c.reply l.settings now head body
  | .fail i message => l.onCall i fun c => c.finish (.failed message)
  | .response i e => l.onCall i fun c => c.stepResponse e
  | .send i => l.send i
  | .handle => l.handle

def run (l : Layer) (events : List Event) : Layer := events.foldl step l

end Layer

end HttpJournal
