import HttpJournal.Console
import HttpJournal.Formatter
import HttpJournal.Settings

namespace HttpJournal

structure Handler where
  formatter : Formatter
  logger : Logger
  deriving DecidableEq

namespace Handler

def standard (s : Settings) (logger : Logger) : Handler := ⟨.standard s.zone, logger⟩

def ofCapture (s : Settings) (c : CaptureSettings) : Handler := standard s ⟨c.channel⟩

/-- An exchange is looked at when it ended. -/
def context (h : Handler) (hostName : String) (e : Exchange) : Context :=
  ⟨e, e.ended, h.formatter.zone, hostName⟩

def level (e : Exchange) : Level := if e.error.isSome then .error else .info

/-- The line is an argument and never a format. -/
def entry (h : Handler) (e : Exchange) (line : String) : Except Printf.Error Entry :=
  h.logger.log (level e) "%s" [.string line]

/-- What reaches the sink. -/
def entry? (h : Handler) (hostName : String) (e : Exchange) : Option Entry :=
  match h.formatter.format (h.context hostName e) with
  | .ok line => (h.entry e line).toOption
  | .error _ => none

def notices (h : Handler) (hostName : String) (e : Exchange) : List Notice :=
  let c := h.context hostName e
  (if (h.formatter.expansion c).unknown.isEmpty then []
    else [.plain .debug "Template references unknown placeholders"]) ++
  match h.formatter.format c with
  | .error _ => [.plain .error "Failed to format exchange"]
  | .ok line =>
    match h.entry e line with
    | .ok entry => [entry.notice]
    | .error _ => [.plain .error "Failed to write log line"]

end Handler

end HttpJournal
