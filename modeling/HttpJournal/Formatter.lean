import HttpJournal.Exchange
import HttpJournal.Line
import HttpJournal.Placeholder
import HttpJournal.Template

namespace HttpJournal

structure Formatter where
  template : Template
  zone : Zone
  deriving DecidableEq

namespace Formatter

def standard (zone : Zone) : Formatter := ⟨.standard, zone⟩

def expandText (f : Formatter) (text : String) (c : Context) : Expansion :=
  expand ({ c with zone := f.zone } : Context).resolve? text

def expansion (f : Formatter) (c : Context) : Expansion := f.expandText f.template.flat c

/-- The flat template is expanded and cut into fields again. -/
def record (f : Formatter) (c : Context) : Record :=
  Record.ofFlat (Utf8.bytes delimiter) (f.expansion c).text

def line (f : Formatter) (c : Context) : Except LineError Line :=
  Line.ofRecord f.zone (c.exchange.response.map fun r => r.headers) (f.record c)

def format (f : Formatter) (c : Context) : Except LineError String := (f.line c).map Line.json

def plain (f : Formatter) (text : String) (c : Context) : String :=
  Utf8.text (f.expandText text c).text

def preset (f : Formatter) (p : Preset) (c : Context) : String := f.plain p.template c

end Formatter

end HttpJournal
