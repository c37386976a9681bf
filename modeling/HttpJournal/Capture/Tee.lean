import HttpJournal.Console
import HttpJournal.Http.Message

namespace HttpJournal

inductive Chunk where
  | data (octets : Bytes)
  | failure (message : String)
  deriving DecidableEq

namespace Chunk

/-- What a reader takes: up to a number of items, and none after a failure. -/
def taken : Option Nat → List Chunk → List Chunk
  | _, [] => []
  | some 0, _ => []
  | _, .failure m :: _ => [.failure m]
  | some (n + 1), .data bs :: rest => .data bs :: taken (some n) rest
  | none, .data bs :: rest => .data bs :: taken none rest

/-- The octets of the items before the first failure. -/
def octets : List Chunk → Bytes
  | .data bs :: rest => bs ++ octets rest
  | _ => []

def failure? : List Chunk → Option String
  | [] => none
  | .data _ :: rest => failure? rest
  | .failure m :: _ => some m

end Chunk

inductive Capture where
  /-- Nothing is kept. -/
  | off
  | collecting (kept : Bytes)
  | done (body : Body)
  | failed (message : String)
  deriving DecidableEq

namespace Capture

def exceeds (limit : Option Nat) (size : Nat) : Bool :=
  match limit with
  | some most => most < size
  | none => false

/-- A body that grows past the limit is not kept. -/
def receive (limit : Option Nat) : Capture → Chunk → Capture
  | collecting kept, .data bs =>
    if exceeds limit (kept.length + bs.length) then done .notKept else collecting (kept ++ bs)
  | collecting _, .failure m => failed m
  | c, _ => c

def finish : Capture → Capture
  | collecting kept => done (.kept kept)
  | c => c

/-- What becomes of the items of a stream, whatever the steps in which they were received. -/
def ofItems (limit : Option Nat) (items : List Chunk) : Capture :=
  if exceeds limit (Chunk.octets items).length then done .notKept
  else match Chunk.failure? items with
    | some m => failed m
    | none => done (.kept (Chunk.octets items))

def isDone : Capture → Bool
  | collecting _ => false
  | _ => true

/-- The body for an exchange; a failure costs no more than the body. -/
def body : Capture → Body
  | done b => b
  | _ => .notKept

def failureMessage (cause : String) : String := "Body stream error: " ++ cause

end Capture

/-- A stream on which a reader pulls items, each of which is also relayed to a capture. -/
structure Tee where
  limit : Option Nat
  /-- Not yet pulled. -/
  source : List Chunk
  /-- Pulled by the reader. -/
  passed : List Chunk
  /-- Pulled, and not yet received by the capture. -/
  relayed : List Chunk
  dropped : Bool
  capture : Capture
  deriving DecidableEq

namespace Tee

inductive Event where
  | pull
  /-- The reader lets go of the stream. -/
  | drop
  /-- The capture makes a step. -/
  | receive
  deriving DecidableEq

def new (keep : Bool) (limit : Option Nat) (source : List Chunk) : Tee :=
  ⟨limit, source, [], [], false, if keep then .collecting [] else .off⟩

def pull (t : Tee) : Tee :=
  match t.dropped, t.source with
  | false, c :: rest =>
    { t with source := rest, passed := t.passed ++ [c], relayed := t.relayed ++ [c] }
  | _, _ => t

/-- The capture ends when it has received all and no more can come. -/
def receive (t : Tee) : Tee :=
  match t.relayed with
  | c :: rest => { t with relayed := rest, capture := t.capture.receive t.limit c }
  | [] => if t.dropped then { t with capture := t.capture.finish } else t

def step (t : Tee) : Event → Tee
  | .pull => t.pull
  | .drop => { t with dropped := true }
  | .receive => t.receive

def run (t : Tee) (events : List Event) : Tee := events.foldl step t

def notices (t : Tee) : Event → List Notice
  | .pull =>
    match t.capture, t.dropped, t.source with
    | .off, _, _ => []
    | _, false, .failure _ :: _ => [.plain .error "Stream error during body capture"]
    | _, _, _ => []
  | .drop => []
  | .receive =>
    match t.capture, t.receive.capture with
    | .collecting _, .done .notKept =>
      [.plain .debug "Body exceeds capture limit, not keeping a copy"]
    | _, _ => []

/-- A reader takes what it wants and lets go, and then the capture runs to its end. -/
def schedule (items : Nat) : List Event :=
  List.replicate items .pull ++ [.drop] ++ List.replicate (items + 1) .receive

/-- The tee when a reader with a limit and the capture are through with a stream. -/
def read (limit : Option Nat) (source : List Chunk) (items : Option Nat) : Tee :=
  (new true limit source).run (schedule (Chunk.taken items source).length)

end Tee

end HttpJournal
