import HttpJournal.Level
import HttpJournal.Printf

namespace HttpJournal

structure Entry where
  channel : String
  level : Level
  message : String
  deriving DecidableEq

def mainChannel : String := "app"

structure Logger where
  channel : String
  deriving DecidableEq

namespace Logger

def main : Logger := ⟨mainChannel⟩

def log (logger : Logger) (level : Level) (format : String) (args : List Json.Value) :
    Except Printf.Error Entry :=
  (sprintf format args).map fun message => ⟨logger.channel, level, message⟩

end Logger

end HttpJournal
