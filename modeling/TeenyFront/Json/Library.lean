import TeenyFront.Json.Record

/-!
# Libraries for JSON

Settings are read and written by a library that is not part of this program. It goes through a text
from left to right, hands out the members of an object or the elements of a list one after the
other, and leaves it to the program in which form each value is wanted. Its errors are its own. The
program may refuse what it was handed, with a reason; the library knows where in the text that was.
-/

set_option autoImplicit false

namespace TeenyFront.Json

/-- One of several names, and whether what belongs to its value is in order behind it. -/
structure Choice (ε : Type) where
  name : String
  refuse : String → ε
  rest : Except ε Unit

/-- A value in each of the forms in which it may be wanted: as a text, as one of several names, or
not at all. -/
structure Offer (ε : Type) where
  text : Except ε String
  choice : Except ε (Choice ε)
  skipped : Except ε Unit

/-- The members of an object, with what the end of the text comes to. What follows a value is the
same in whatever form it was taken. -/
inductive Members (ε : Type) where
  | done (result : Except ε Unit)
  | member (name : String) (refuse : String → ε) (value : Offer ε) (rest : Members ε)

/-- The elements of a list, each with what it comes to if it is the last one that is wanted. -/
inductive Elements (ε : Type) where
  | done (result : Except ε Unit)
  | element (value : Offer ε) (last : Except ε Unit) (rest : Elements ε)

inductive Document (ε : Type) where
  | object (members : Members ε)
  | list (elements : Elements ε)
  | other (error : ε)

/-- A library whose errors are of type `ε`. -/
class Library (ε : outParam Type) where
  read : String → Document ε
  write : Record → String
  message : ε → String

end TeenyFront.Json
