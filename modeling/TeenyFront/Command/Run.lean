import TeenyFront.Command.Request
import TeenyFront.Json.Reader
import TeenyFront.Descent
import TeenyFront.Settings.Access
import TeenyFront.TokenStream

/-!
# Running a command

A run reports what it writes to the standard output and to the error output and the code that it
exits with: zero for success, one for a failure, two for misuse. Settings that cannot be loaded
give a warning and are replaced by the standard ones.
-/

set_option autoImplicit false

namespace TeenyFront

open Files

structure Report where
  exitCode : Nat
  output : String
  errors : String
  deriving DecidableEq, Repr

namespace Report

def lines (ls : List String) : String := ls.foldl (fun s l => s ++ l ++ "\n") ""

def success (ls : List String) : Report := ⟨0, lines ls, ""⟩

def failure (ls : List String) (f : Failure) : Report := ⟨1, lines ls, lines [f.message]⟩

end Report

namespace Command

def tokenLine (json : Bool) (t : Token) : String :=
  if json then t.toRecord.compact else t.kind.name

def eventLine (format : TraceFormat) (e : Event) : String :=
  match format with
  | .text => e.describe
  | .json => e.toRecord.compact

def listTokens (source : String) (json : Bool) : Report :=
  let l := (Cursor.ofSource source).lex
  let ls := (l.tokens.filter fun t => t.kind ≠ .eof).map (tokenLine json)
  match l.error? with
  | none => .success ls
  | some e => .failure ls (.parsing (.lexical e))

/-- One line for each event, also of a trace that ends in an error. -/
def printTrace (source : String) (format : TraceFormat) : Report :=
  let (result, events) := traceInto source #[]
  let ls := events.toList.map (eventLine format)
  match result with
  | .error e => .failure ls (.parsing e)
  | .ok () =>
    match format with
    | .text => .success (ls ++ ["Parsing completed."])
    | .json => .success ls

variable {m : Type → Type} [Monad m] [Store m]

def readSource (path : String) : m (Except Failure String) := do
  if ← Store.isFile path then
    match ← readText path with
    | .error e => return .error (.files e)
    | .ok source => return .ok source
  else return .error (.sourceNotFound ("Source file not found: " ++ path))

def onSource (path : String) (report : String → Report) : m Report := do
  match ← readSource path with
  | .error f => return .failure [] f
  | .ok source => return report source

variable {ε : Type} [Json.Library ε]

def createSettings (env : Environment) : m Report := do
  let path := env.settingsPath
  if ← Store.isPresent path then
    return .success ["Config file already exists at: " ++ path]
  else
    match ← Settings.standard.save env with
    | .error e => return .failure [] (.files e)
    | .ok () => return .success ["Initialized new config file at: " ++ path]

def execute (env : Environment) (s : Settings) : Command → m Report
  | lex file json => onSource file (listTokens · json)
  | parse file format => onSource file (printTrace · (format.getD s.traceFormat))
  | showSettings => return .success [s.render]
  | initSettings => createSettings env

/-- Runs a command under the settings of the environment. -/
def run (env : Environment) (c : Command) : m Report := do
  match ← Settings.load env with
  | .ok s => c.execute env s
  | .error e =>
    let r ← c.execute env .standard
    let warning := "Warning: using default configuration. " ++ e.failure.message
    return ⟨r.exitCode, r.output, Report.lines [warning] ++ r.errors⟩

end Command

def usage : String := Report.lines
  ["Usage: teeny lex [--json] FILE",
   "       teeny parse [--format text|json] FILE",
   "       teeny config show|init"]

def runArguments {m : Type → Type} [Monad m] [Store m] {ε : Type} [Json.Library ε]
    (env : Environment) (args : List String) : m Report :=
  match Request.ofArguments args with
  | .run c => c.run env
  | .information => return ⟨0, usage, ""⟩
  | .misuse => return ⟨2, "", usage⟩

end TeenyFront
