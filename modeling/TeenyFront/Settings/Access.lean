import TeenyFront.Failure
import TeenyFront.Files.Path
import TeenyFront.Settings.Reader
import TeenyFront.Text.Quoted

/-!
# Loading and saving settings

Settings live in a file whose path comes from the environment. Loading takes the standard settings
when there is no such file, and lets the environment replace the trace format at the end. A
variable whose bytes are not text counts as unset.
-/

set_option autoImplicit false

namespace TeenyFront

open Files

structure Environment where
  bytes? : String → Option ByteArray

namespace Environment

def empty : Environment := ⟨fun _ => none⟩

def set (env : Environment) (name : String) (bytes : ByteArray) : Environment :=
  ⟨fun n => if n = name then some bytes else env.bytes? n⟩

def unset (env : Environment) (name : String) : Environment :=
  ⟨fun n => if n = name then none else env.bytes? n⟩

def text? (env : Environment) (name : String) : Option String :=
  (env.bytes? name).bind String.fromUTF8?

def settingsPath (env : Environment) : String :=
  match env.text? "TEENY_CONFIG" with
  | some path => path
  | none => Path.join (Path.join ((env.text? "HOME").getD ".") ".teeny") "config.json"

end Environment

namespace Settings

inductive LoadError where
  | file (error : FileError)
  | defect (path reason : String)
  | unknownFormat (name : String)
  deriving DecidableEq, Repr

def LoadError.failure : LoadError → Failure
  | file e => .files e
  | defect path reason => .settings (path ++ ": " ++ reason)
  | unknownFormat name => .settings ("unknown TEENY_TRACE_FORMAT " ++ Text.quotedString name)

/-- The settings with the trace format that the environment asks for. -/
def override (env : Environment) (s : Settings) : Except LoadError Settings :=
  match env.text? "TEENY_TRACE_FORMAT" with
  | none => .ok s
  | some name =>
    match TraceFormat.ofLooseName? name with
    | none => .error (.unknownFormat name)
    | some f => .ok ⟨f, s.logFilter⟩

variable {ε : Type} [Json.Library ε]

def ofContents (path : String) : Except FileError String → Except LoadError Settings
  | .error .notFound => .ok standard
  | .error e => .error (.file e)
  | .ok text =>
    match parse text with
    | .error e => .error (.defect path (Json.Library.message e))
    | .ok s => .ok s

variable {m : Type → Type} [Monad m] [Store m]

def load (env : Environment) : m (Except LoadError Settings) := do
  let contents ← readText env.settingsPath
  return (ofContents env.settingsPath contents).bind (override env)

def save (env : Environment) (s : Settings) : m (Except FileError Unit) := do
  match ← Store.createParents env.settingsPath with
  | .error e => return .error e
  | .ok () => Store.writeBytes env.settingsPath s.render.toUTF8

end Settings

end TeenyFront
