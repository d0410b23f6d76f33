import TeenyFront.Files.Store
import TeenyFront.Window

/-!
# Failures

What can go wrong in a run of the program, each with a message that begins with its sort.
-/

set_option autoImplicit false

namespace TeenyFront

inductive Failure where
  | sourceNotFound (text : String)
  | settings (text : String)
  | files (error : Files.FileError)
  | parsing (error : ParseError)
  deriving DecidableEq, Repr

namespace Failure

def message : Failure → String
  | sourceNotFound text => "FileNotFoundError: " ++ text
  | settings text => "ConfigError: " ++ text
  | files e => "IOError: " ++ e.message
  | parsing e => e.message

def isLexical : Failure → Bool
  | parsing (.lexical _) => true
  | _ => false

def isSyntactic : Failure → Bool
  | parsing (.syntactic _) => true
  | _ => false

end Failure

end TeenyFront
