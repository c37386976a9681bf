import HttpJournal.Capture.Layer

namespace HttpJournal

inductive Reply where
  | fails (message : String)
  | answers (head : ResponseHead) (body : List Chunk)
  deriving DecidableEq

/-- Reads up to a number of items of a request's body, and replies by what it saw. -/
structure Service where
  reads : Option Nat
  reply : List Chunk → Reply

/-- One call: when, what is asked, of whom, and how much of the answer is read. -/
structure Visit where
  now : Instant
  head : RequestHead
  body : List Chunk
  service : Service
  consumes : Option Nat

inductive Outcome where
  | failed (message : String)
  | answered (head : ResponseHead) (items : List Chunk)
  deriving DecidableEq

/-- What the service saw of a call, and what the caller did. -/
structure Traffic where
  head : RequestHead
  serviceSaw : List Chunk
  callerSaw : Outcome
  deriving DecidableEq

/-- A call without a layer. -/
def Visit.direct (v : Visit) : Traffic :=
  let saw := Chunk.taken v.service.reads v.body
  { head := v.head
    serviceSaw := saw
    callerSaw := match v.service.reply saw with
      | .fails message => .failed message
      | .answers head body => .answered head (Chunk.taken v.consumes body) }

namespace Visit

/-- The call comes in, and the service reads and lets go of its body. -/
def arrival (v : Visit) (call : Nat) : List Layer.Event :=
  .call v.now v.head v.body ::
    List.replicate (Chunk.taken v.service.reads v.body).length (.request call .pull) ++
    [.request call .drop]

/-- The service replies, and the caller reads and lets go of the body. -/
def departure (v : Visit) (call : Nat) : Reply → List Layer.Event
  | .fails message => [.fail call message]
  | .answers head body =>
    .reply call v.now head body ::
      List.replicate (Chunk.taken v.consumes body).length (.response call .pull) ++
      [.response call .drop]

end Visit

namespace Layer

/-- Steps enough for both captures of a call to end; then its exchange is sent and handled. -/
def closing (l : Layer) (i : Nat) : List Event :=
  let relayed := match l.calls[i]? with
    | some ⟨_, request, some (.answered _ response), _⟩ =>
      (request.relayed.length, response.relayed.length)
    | some c => (c.body.relayed.length, 0)
    | none => (0, 0)
  List.replicate (relayed.1 + 1) (.request i .receive) ++
    List.replicate (relayed.2 + 1) (.response i .receive) ++ [.send i, .handle]

def notices (l : Layer) : Event → List Notice
  | .call .. =>
    .plain .debug "Extracted request metadata" ::
      if l.settings.requestBody then [.plain .debug "Request body capture stream created"] else []
  | .request i e => ofTee (l.calls[i]?.map Call.body) e
  | .reply .. =>
    if l.settings.responseBody then [.plain .debug "Response body capture stream created"] else []
  | .response i e =>
    ofTee (l.calls[i]?.bind fun c => match c.ending with
      | some (.answered _ body) => some body
      | _ => none) e
  | _ => []
where
  ofTee (tee : Option Tee) (e : Tee.Event) : List Notice :=
    match tee with
    | none => []
    | some t => t.notices e ++
      match t.capture, (t.step e).capture with
      | .collecting _, .failed _ => [.plain .error "Error capturing body"]
      | _, _ => []

def runNoting (l : Layer) (events : List Event) : Layer × List Notice :=
  events.foldl (fun (l, ns) e => (l.step e, ns ++ l.notices e)) (l, [])

def requestItems (l : Layer) (i : Nat) : List Chunk :=
  match l.calls[i]? with
  | some c => c.body.passed
  | none => []

/-- What the two sides of a call saw through the layer. -/
def traffic? (l : Layer) (i : Nat) : Option Traffic := do
  let c ← l.calls[i]?
  let callerSaw ← c.ending.map fun
    | .failed message => Outcome.failed message
    | .answered response body => .answered response.toResponseHead body.passed
  return ⟨c.request.toRequestHead, c.body.passed, callerSaw⟩

/-- A whole call through the layer, with nothing else between. -/
def serve (l : Layer) (v : Visit) : Layer × List Notice :=
  let i := l.calls.length
  let (l, arrived) := l.runNoting (v.arrival i)
  let (l, departed) := l.runNoting (v.departure i (v.service.reply (l.requestItems i)))
  let (l, closed) := l.runNoting (l.closing i)
  (l, arrived ++ departed ++ closed)

end Layer

end HttpJournal
