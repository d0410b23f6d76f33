/-!
# Paths

A path is a text that names a file by the steps that lead to it. Slashes stand between the pieces
of the text; an empty piece is no step, and a piece of a single dot is a step that stays in place.
Paths are joined as texts.
-/

set_option autoImplicit false

namespace TeenyFront.Files.Path

def addChar (c : Char) (pieces : List (List Char)) : List (List Char) :=
  if c = '/' then [] :: pieces else (c :: pieces.headD []) :: pieces.tail

def pieces (path : String) : List (List Char) := path.toList.foldr addChar [[]]

def isAbsolute (path : String) : Bool := path.toList.head? = some '/'

def endsInSlash (path : String) : Bool := path.toList.getLast? = some '/'

def steps (path : String) : List String :=
  ((pieces path).filter fun piece => piece ≠ []).map String.ofList

def isIdle (piece : List Char) : Bool := piece = [] || piece = ['.']

/-- Drops idle pieces from the end of a text, given from its end. The first piece of the text
stays: if it is idle, it stands for the root or for the working directory. -/
def trimIdle : List (List Char) → List (List Char)
  | piece :: next :: rest =>
    if isIdle piece then trimIdle (next :: rest) else piece :: next :: rest
  | short => short

def ofPieces (pieces : List (List Char)) : String :=
  if pieces = [[]] then "/" else String.ofList (List.intercalate ['/'] pieces)

/-- The path up to its last piece, idle pieces at its end not counted. It is empty for the working
directory, and for a path with nothing before that piece. -/
def parent (path : String) : String :=
  match trimIdle (pieces path).reverse with
  | _ :: above => if above = [] then "" else ofPieces (trimIdle above).reverse
  | [] => ""

def join (left right : String) : String :=
  if left.toList.getLast?.all (· = '/') then left ++ right else left ++ "/" ++ right

end TeenyFront.Files.Path
