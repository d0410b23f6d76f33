import TeenyFront.Json.Literal

/-!
# Flat JSON objects

Everything this library writes as JSON is an object whose fields are texts or natural numbers, in
a fixed order. The compact form holds no blanks; the spread form gives each field its own line.
-/

set_option autoImplicit false

namespace TeenyFront.Json

inductive Scalar where
  | text (s : String)
  | number (n : Nat)
  deriving DecidableEq, Repr

def Scalar.render : Scalar → List Char
  | .text s => literal s.toList
  | .number n => Nat.toDigits 10 n

abbrev Record := List (String × Scalar)

namespace Record

def field (separator : List Char) (f : String × Scalar) : List Char :=
  literal f.1.toList ++ separator ++ f.2.render

def compact (r : Record) : String :=
  String.ofList ('\x7b' :: (List.intercalate [','] (r.map (field [':'])) ++ ['\x7d']))

def spread (r : Record) : String :=
  String.ofList ('\x7b' :: '\n' ::
    (List.intercalate [',', '\n'] (r.map fun f => ' ' :: ' ' :: field [':', ' '] f)
      ++ ['\n', '\x7d']))

end Record

end TeenyFront.Json
