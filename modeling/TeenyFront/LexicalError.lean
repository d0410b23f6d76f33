import TeenyFront.Position
import TeenyFront.Text.Quoted

/-!
# Lexical errors

An error names its cause and the position of the character that shows it.
-/

set_option autoImplicit false

namespace TeenyFront

inductive LexicalCause where
  | strayCharacter (c : Char)
  | forbiddenInString (c : Char)
  | openString
  | bareDecimalPoint
  | loneExclamation (next : Option Char)
  deriving DecidableEq, Repr

open Text in
def LexicalCause.message : LexicalCause → String
  | strayCharacter c => "unknown token: " ++ quotedChar c
  | forbiddenInString c => "illegal character in string: " ++ quotedChar c
  | openString => "unterminated string literal"
  | bareDecimalPoint =>
    "illegal character in number: a decimal point must be followed by a digit"
  | loneExclamation (some c) => "expected !=, got !" ++ quotedChar c
  | loneExclamation none => "expected !=, got !end of input"

structure LexicalError where
  cause : LexicalCause
  position : Position
  deriving DecidableEq, Repr

def LexicalError.message (e : LexicalError) : String :=
  e.cause.message ++ "\n" ++ e.position.arrow

end TeenyFront
