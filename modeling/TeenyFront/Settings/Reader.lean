import TeenyFront.Settings.Basic

/-!
# Reading settings

Settings are an object whose members may stand in any order, or a list with the fields in order.
Fields that are missing take their standard value; members with other names are skipped; a field
may not occur twice. A trace format is one of several names.
-/

set_option autoImplicit false

namespace TeenyFront.Settings

open Json

variable {ε : Type}

def unknownFormat (name : String) : String :=
  "unknown variant `" ++ name ++ "`, expected `text` or `json`"

def formatOf (value : Offer ε) : Except ε TraceFormat := do
  let choice ← value.choice
  match TraceFormat.ofName? choice.name with
  | none => .error (choice.refuse (unknownFormat choice.name))
  | some f => choice.rest.map fun _ => f

/-- The fields found so far. -/
structure Found where
  traceFormat : Option TraceFormat
  logFilter : Option String

def Found.settings (f : Found) : Settings :=
  ⟨f.traceFormat.getD standard.traceFormat, f.logFilter.getD standard.logFilter⟩

/-- A member goes to the field that it is named for. -/
def readMember (found : Found) (name : String) (refuse : String → ε) (value : Offer ε) :
    Except ε Found :=
  if name = "trace_format" then
    if found.traceFormat.isSome then .error (refuse "duplicate field `trace_format`")
    else (formatOf value).map fun f => ⟨some f, found.logFilter⟩
  else if name = "log_filter" then
    if found.logFilter.isSome then .error (refuse "duplicate field `log_filter`")
    else value.text.map fun text => ⟨found.traceFormat, some text⟩
  else value.skipped.map fun _ => found

def ofMembers (found : Found) : Members ε → Except ε Settings
  | .done result => result.map fun _ => found.settings
  | .member name refuse value rest =>
    match readMember found name refuse value with
    | .error e => .error e
    | .ok found => ofMembers found rest

def ofElements : Elements ε → Except ε Settings
  | .done result => result.map fun _ => standard
  | .element format _ rest => do
    let f ← formatOf format
    match rest with
    | .done result => result.map fun _ => ⟨f, standard.logFilter⟩
    | .element filter last _ =>
      let text ← filter.text
      last.map fun _ => ⟨f, text⟩

def ofDocument : Document ε → Except ε Settings
  | .object members => ofMembers ⟨none, none⟩ members
  | .list elements => ofElements elements
  | .other e => .error e

def parse [Library ε] (text : String) : Except ε Settings := ofDocument (Library.read text)

end TeenyFront.Settings
