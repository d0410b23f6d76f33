import TeenyFront.Command.Run

/-!
# The command line program

Runs the arguments against the file system and the environment of the process.
-/

set_option autoImplicit false

namespace TeenyFront.Main

open Files

/-- The error of a file operation by the code of the system, which comes with either sign. -/
def fileErrorOf : IO.Error → FileError
  | .noFileOrDirectory .. => .notFound
  | .alreadyExists .. => .alreadyExists
  | .invalidArgument _ code _ =>
    if code = 36 || code = 0 - 36 then .nameTooLong else .other "Invalid argument (os error 22)"
  | .inappropriateType _ code _ =>
    if code = 21 || code = 0 - 21 then .isADirectory else .notADirectory
  | e => .other (toString e)

def trying {α : Type} (action : IO α) : IO (Except FileError α) := do
  match ← action.toBaseIO with
  | .ok a => return .ok a
  | .error e => return .error (fileErrorOf e)

instance : Store IO where
  isPresent path := do
    match ← trying (IO.FS.readBinFile path) with
    | .error .notFound | .error .notADirectory | .error .nameTooLong => return false
    | _ => return true
  isFile path := return (← trying (IO.FS.readBinFile path)).isOk
  readBytes path := trying (IO.FS.readBinFile path)
  writeBytes path bytes := trying (IO.FS.writeBinFile path bytes)
  createParents path := do
    let parent := Path.parent path
    if parent = "" then return .ok ()
    match ← trying (IO.FS.createDir parent) with
    | .error .notFound | .error .alreadyExists => trying (IO.FS.createDirAll parent)
    | result => return result

def environment : IO Environment := do
  let mut env := Environment.empty
  for name in ["TEENY_CONFIG", "TEENY_TRACE_FORMAT", "HOME"] do
    if let some value ← IO.getEnv name then env := env.set name value.toUTF8
  return env

end TeenyFront.Main

open TeenyFront in
def main (args : List String) : IO UInt32 := do
  let report : Report ← runArguments (← Main.environment) args
  (← IO.getStderr).putStr report.errors
  (← IO.getStdout).putStr report.output
  return report.exitCode.toUInt32
