import TeenyFront.Token

/-!
# Syntax errors

An error names its cause and the token that the program cannot go on with.
-/

set_option autoImplicit false

namespace TeenyFront

inductive SyntaxCause where
  | expected (kind : Kind)
  | noStatement
  | noComparison
  | noOperand
  | nestedTooDeep (limit : Nat)
  deriving DecidableEq, Repr

def SyntaxCause.message : SyntaxCause → String
  | expected kind => "expected " ++ kind.name
  | noStatement => "invalid statement"
  | noComparison => "expected comparison operator"
  | noOperand => "expected a number or identifier"
  | nestedTooDeep limit => s!"blocks nested deeper than {limit} levels"

structure SyntaxError where
  cause : SyntaxCause
  token : Token
  deriving DecidableEq, Repr

namespace SyntaxError

def message (e : SyntaxError) : String :=
  e.cause.message ++ ", found " ++ e.token.describe ++ "\n" ++ e.token.position.arrow

def expected? (e : SyntaxError) : Option Kind :=
  match e.cause with
  | .expected kind => some kind
  | _ => none

def found (e : SyntaxError) : Kind := e.token.kind

end SyntaxError

end TeenyFront
