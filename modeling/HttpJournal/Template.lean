import HttpJournal.Text.Quoted

namespace HttpJournal

/-- What stands between two fields of a flat text. -/
def delimiter : String := "-0-0-0-0-0-0-0-0-0-"

structure Template where
  fields : List (String × String)
  deriving DecidableEq

inductive TemplateError where
  | duplicateField (name : String)
  | invalidFieldName (name : String)
  | empty
  deriving DecidableEq

def TemplateError.message : TemplateError → String
  | .duplicateField name => "field " ++ inQuotes name ++ " is declared more than once"
  | .invalidFieldName name =>
    "field name " ++ inQuotes name ++
      " must be non-empty and contain neither ',' nor the record delimiter"
  | .empty => "a template needs at least one field"

/-- Whether `part` stands somewhere inside a text. -/
def Text.contains (part : Text) : Text → Bool
  | [] => part.isEmpty
  | c :: rest => part.isPrefixOf (c :: rest) || Text.contains part rest

namespace Template

def isFieldName (name : String) : Bool :=
  name ≠ "" && !name.toList.contains ',' && !Text.contains delimiter.toList name.toList

/-- Checks fields in their order, after those already accepted. -/
def check (accepted : List String) : List (String × String) → Except TemplateError Unit
  | [] => .ok ()
  | (name, _) :: rest =>
    if !isFieldName name then .error (.invalidFieldName name)
    else if accepted.contains name then .error (.duplicateField name)
    else check (name :: accepted) rest

def ofFields (fields : List (String × String)) : Except TemplateError Template :=
  match check [] fields with
  | .error e => .error e
  | .ok () => if fields.isEmpty then .error .empty else .ok ⟨fields⟩

def names (t : Template) : List String := t.fields.map Prod.fst

def chunk (field : String × String) : Text := field.1.toList ++ ',' :: field.2.toList

def joinChunks : List Text → Text
  | [] => []
  | [c] => c
  | c :: rest => c ++ delimiter.toList ++ joinChunks rest

/-- All fields as one text, ready to be expanded. -/
def flat (t : Template) : String := .ofList (joinChunks (t.fields.map chunk))

def standard : Template where
  fields := [
    ("method", "\x7bmethod\x7d"), ("uri", "\x7buri\x7d"), ("time", "\x7bts\x7d"),
    ("status", "\x7bcode\x7d"), ("req_body", "\x7breq_body\x7d"),
    ("res_body", "\x7bres_body\x7d"), ("error", "\x7berror\x7d")]

end Template

inductive Preset where
  | commonLog
  | debug
  | short
  deriving DecidableEq

structure UnknownPreset where
  name : String
  deriving DecidableEq

def UnknownPreset.message (e : UnknownPreset) : String := "unknown preset: " ++ e.name

namespace Preset

def template : Preset → String
  | .commonLog =>
    "\x7bhostname\x7d \x7breq_header_User-Agent\x7d - [\x7bdate_common_log\x7d] " ++
      "\"\x7bmethod\x7d \x7btarget\x7d HTTP/\x7bversion\x7d\" \x7bcode\x7d " ++
      "\x7bres_header_Content-Length\x7d"
  | .debug =>
    ">>>>>>>>\n\x7brequest\x7d\n<<<<<<<<\n\x7bresponse\x7d\n--------\n\x7berror\x7d"
  | .short => "[\x7bts\x7d] \"\x7bmethod\x7d \x7btarget\x7d HTTP/\x7bversion\x7d\" \x7bcode\x7d"

def lower (s : String) : String := .ofList (s.toList.map Char.toLower)

def ofName (name : String) : Except UnknownPreset Preset :=
  match lower name with
  | "clf" | "common" => .ok .commonLog
  | "debug" => .ok .debug
  | "short" => .ok .short
  | other => .error ⟨other⟩

end Preset

end HttpJournal
