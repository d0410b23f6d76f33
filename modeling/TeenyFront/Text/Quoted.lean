import TeenyFront.Text.CharClass

/-!
# Quoted text in messages

A message quotes a character or a string from the source so that it stays on one line: line ends,
tabs, the null character, the backslash and the surrounding quote take a backslash, and a
character that cannot be shown is given by its code point in hexadecimal.
-/

set_option autoImplicit false

namespace TeenyFront.Text

def codePoint (c : Char) : List Char :=
  '\\' :: 'u' :: '\x7b' :: (Nat.toDigits 16 c.toNat ++ ['\x7d'])

def escaped (quote c : Char) : List Char :=
  match c with
  | '\x00' => ['\\', '0']
  | '\t' => ['\\', 't']
  | '\r' => ['\\', 'r']
  | '\n' => ['\\', 'n']
  | '\\' => ['\\', '\\']
  | c => if c = quote then ['\\', c] else if isShown c then [c] else codePoint c

def quotedChar (c : Char) : String :=
  String.ofList ('\'' :: (escaped '\'' c ++ ['\'']))

def quotedString (s : String) : String :=
  String.ofList ('"' :: (s.toList.flatMap (escaped '"') ++ ['"']))

end TeenyFront.Text
