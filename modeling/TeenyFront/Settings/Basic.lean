import TeenyFront.Json.Library
import TeenyFront.Text.CharClass

/-!
# Settings

The settings of the command line: the form in which traces are printed and the filter of the log.
A library writes them as a JSON object with a text for each field.
-/

set_option autoImplicit false

namespace TeenyFront

inductive TraceFormat where
  | text
  | json
  deriving DecidableEq, Repr

namespace TraceFormat

def name : TraceFormat → String
  | text => "text"
  | json => "json"

def ofName? (name : String) : Option TraceFormat :=
  [text, json].find? fun f => f.name == name

def trim (cs : List Char) : List Char :=
  ((cs.dropWhile Text.isWhiteSpace).reverse.dropWhile Text.isWhiteSpace).reverse

/-- The format that a user means: white space around the name and the case of its ASCII letters
do not count. -/
def ofLooseName? (name : String) : Option TraceFormat :=
  ofName? (String.ofList ((trim name.toList).map Char.toLower))

end TraceFormat

structure Settings where
  traceFormat : TraceFormat
  logFilter : String
  deriving DecidableEq, Repr

namespace Settings

def standard : Settings := ⟨.text, "warn"⟩

def toRecord (s : Settings) : Json.Record :=
  [("trace_format", .text s.traceFormat.name), ("log_filter", .text s.logFilter)]

def render {ε : Type} [Json.Library ε] (s : Settings) : String := Json.Library.write s.toRecord

end Settings

end TeenyFront
