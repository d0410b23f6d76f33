/-!
# JSON string literals

A text is written between quotes. In it quotes, backslashes and characters below U+0020 are
escaped, those with a short form by it and the rest as four lower-case hexadecimal digits. Every
other character stands for itself.
-/

set_option autoImplicit false

namespace TeenyFront.Json

def escape (c : Char) : List Char :=
  match c with
  | '"' => ['\\', '"']
  | '\\' => ['\\', '\\']
  | '\x08' => ['\\', 'b']
  | '\x0c' => ['\\', 'f']
  | '\n' => ['\\', 'n']
  | '\r' => ['\\', 'r']
  | '\t' => ['\\', 't']
  | c =>
    if c.toNat < 0x20 then
      ['\\', 'u', '0', '0', Nat.digitChar (c.toNat / 16), Nat.digitChar (c.toNat % 16)]
    else [c]

def literal (text : List Char) : List Char := '"' :: (text.flatMap escape ++ ['"'])

end TeenyFront.Json
