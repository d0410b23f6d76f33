import TeenyFront.Kind
import TeenyFront.Position
import TeenyFront.Json.Record

/-!
# Tokens

A token has a kind, its text and the position where it starts. The text of a string token is the
part between the quotes.
-/

set_option autoImplicit false

namespace TeenyFront

structure Token where
  kind : Kind
  text : String
  position : Position
  deriving DecidableEq, Repr

namespace Token

def describe (t : Token) : String :=
  match t.kind with
  | .eof => t.kind.name
  | .newline => t.kind.name ++ " \"\\n\""
  | _ => t.kind.name ++ " \"" ++ t.text ++ "\""

def toRecord (t : Token) : Json.Record :=
  [("text", .text t.text), ("kind", .text t.kind.name),
    ("line", .number t.position.line), ("column", .number t.position.column)]

end Token

end TeenyFront
