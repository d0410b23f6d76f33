/-!
# Kinds of tokens

Each kind has a name for diagnostics and token listings. The name of a keyword is its reserved
spelling.
-/

set_option autoImplicit false

namespace TeenyFront

inductive Kind where
  | eof
  | newline
  | number
  | identifier
  | string
  | label
  | goto
  | print
  | input
  | «let»
  | «if»
  | «then»
  | endIf
  | «while»
  | «repeat»
  | endWhile
  | assign
  | plus
  | minus
  | asterisk
  | slash
  | equal
  | notEqual
  | less
  | lessEqual
  | greater
  | greaterEqual
  deriving DecidableEq, Repr

namespace Kind

def name : Kind → String
  | eof => "EOF"
  | newline => "NEWLINE"
  | number => "NUMBER"
  | identifier => "IDENT"
  | string => "STRING"
  | label => "LABEL"
  | goto => "GOTO"
  | print => "PRINT"
  | input => "INPUT"
  | «let» => "LET"
  | «if» => "IF"
  | «then» => "THEN"
  | endIf => "ENDIF"
  | «while» => "WHILE"
  | «repeat» => "REPEAT"
  | endWhile => "ENDWHILE"
  | assign => "EQ"
  | plus => "PLUS"
  | minus => "MINUS"
  | asterisk => "ASTERISK"
  | slash => "SLASH"
  | equal => "EQEQ"
  | notEqual => "NOTEQ"
  | less => "LT"
  | lessEqual => "LTEQ"
  | greater => "GT"
  | greaterEqual => "GTEQ"

def keywords : List Kind :=
  [label, goto, print, input, «let», «if», «then», endIf, «while», «repeat», endWhile]

def keyword? (text : String) : Option Kind := keywords.find? fun k => k.name == text

def isKeyword (k : Kind) : Bool := keywords.contains k

def isComparison : Kind → Bool
  | equal | notEqual | less | lessEqual | greater | greaterEqual => true
  | _ => false

def isSign : Kind → Bool
  | plus | minus => true
  | _ => false

def isFactorOperator : Kind → Bool
  | asterisk | slash => true
  | _ => false

def isOperand : Kind → Bool
  | number | identifier => true
  | _ => false

theorem keyword?_eq_some {text : String} {k : Kind} (h : keyword? text = some k) :
    k ∈ keywords ∧ k.name = text :=
  ⟨List.mem_of_find?_eq_some h, by simpa using List.find?_some h⟩

end Kind

end TeenyFront
