/-!
# File stores

What the program asks of the file system: whether a path names something or a file, the bytes of
a file, a file with given bytes, and the directories above a path.
-/

set_option autoImplicit false

namespace TeenyFront.Files

inductive FileError where
  | notFound
  | isADirectory
  | notADirectory
  | alreadyExists
  | nameTooLong
  | invalidText
  | other (text : String)
  deriving DecidableEq, Repr

def FileError.message : FileError → String
  | notFound => "No such file or directory (os error 2)"
  | isADirectory => "Is a directory (os error 21)"
  | notADirectory => "Not a directory (os error 20)"
  | alreadyExists => "File exists (os error 17)"
  | nameTooLong => "File name too long (os error 36)"
  | invalidText => "stream did not contain valid UTF-8"
  | other text => text

class Store (m : Type → Type) where
  isPresent : String → m Bool
  isFile : String → m Bool
  readBytes : String → m (Except FileError ByteArray)
  writeBytes : String → ByteArray → m (Except FileError Unit)
  createParents : String → m (Except FileError Unit)

def readText {m : Type → Type} [Monad m] [Store m] (path : String) :
    m (Except FileError String) := do
  match ← Store.readBytes path with
  | .error e => return .error e
  | .ok bytes =>
    match String.fromUTF8? bytes with
    | none => return .error .invalidText
    | some text => return .ok text

end TeenyFront.Files
