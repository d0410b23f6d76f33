import TeenyFront.Files.Path
import TeenyFront.Files.Store

/-!
# File trees

A file store in memory. The tree says what stands at each location, and relative paths start from
the working directory. A step of two dots leads to the parent, that of the root being the root.
Every step must start from a directory, and a path must keep within the limits on the bytes of a
name and of a whole path. What stands at the last step decides what an operation does.
-/

set_option autoImplicit false

namespace TeenyFront.Files

/-- A place as the text of the names that lead to it from the root, with a slash before each. -/
abbrev Location := String

inductive Entry where
  | directory
  | file (bytes : ByteArray)

structure Tree where
  entry? : Location → Option Entry
  working : Location

namespace Tree

def root : Location := ""

def below (l : Location) (name : String) : Location := l ++ "/" ++ name

def above (l : Location) : Location :=
  String.ofList (l.toList.reverse.dropWhile (· ≠ '/')).tail.reverse

def empty (name : String) : Tree :=
  ⟨fun l => if l = root ∨ l = below root name then some .directory else none, below root name⟩

def set (t : Tree) (l : Location) (e : Entry) : Tree :=
  ⟨fun k => if k = l then some e else t.entry? k, t.working⟩

def nameLimit : Nat := 255

def pathLimit : Nat := 4095

def move (l : Location) (step : String) : Location :=
  if step = "." then l else if step = ".." then above l else below l step

/-- Where steps lead to. The last one may lead to where nothing stands. -/
def walk (t : Tree) (l : Location) : List String → Except FileError Location
  | [] => .ok l
  | step :: steps =>
    match t.entry? l with
    | none => .error .notFound
    | some (.file _) => .error .notADirectory
    | some .directory =>
      if nameLimit < step.utf8ByteSize then .error .nameTooLong else t.walk (move l step) steps

def origin (t : Tree) (path : String) : Location :=
  if Path.isAbsolute path then root else t.working

def follow (t : Tree) (path : String) (steps : List String) : Except FileError Location :=
  if path = "" then .error .notFound
  else if pathLimit < path.utf8ByteSize then .error .nameTooLong
  else t.walk (t.origin path) steps

def locate (t : Tree) (path : String) : Except FileError Location :=
  t.follow path (Path.steps path)

def holder (t : Tree) (path : String) : Except FileError Location :=
  t.follow path ((Path.steps path).dropLast ++ ["."])

def find (t : Tree) (path : String) : Except FileError Entry :=
  match t.locate path with
  | .error e => .error e
  | .ok l =>
    match t.entry? l with
    | none => .error .notFound
    | some .directory => .ok .directory
    | some (.file bytes) =>
      if Path.endsInSlash path then .error .notADirectory else .ok (.file bytes)

def isPresent (t : Tree) (path : String) : Bool := (t.find path).toOption.isSome

def isFile (t : Tree) (path : String) : Bool :=
  match t.find path with
  | .ok (.file _) => true
  | _ => false

def readBytes (t : Tree) (path : String) : Except FileError ByteArray :=
  match t.find path with
  | .error e => .error e
  | .ok .directory => .error .isADirectory
  | .ok (.file bytes) => .ok bytes

/-- The tree with a file at the end of a path. Nothing is written through a slash at the end. -/
def writeBytes (t : Tree) (path : String) (bytes : ByteArray) : Except FileError Tree :=
  if Path.endsInSlash path then
    match t.holder path with
    | .error e => .error e
    | .ok _ => .error .isADirectory
  else
    match t.locate path with
    | .error e => .error e
    | .ok l =>
      match t.entry? l with
      | some .directory => .error .isADirectory
      | _ => .ok (t.set l (.file bytes))

/-- Creates the directories along steps that are missing. Those above a file that is in the way
stay. A file in the way already exists once a directory was `made`; before that it is no directory
for the steps after it. -/
def createAlong (t : Tree) (made : Bool) (l : Location) :
    List String → Except FileError Unit × Tree
  | [] => (.ok (), t)
  | step :: steps =>
    if nameLimit < step.utf8ByteSize then (.error .nameTooLong, t)
    else
      match t.entry? (move l step) with
      | none => (t.set (move l step) .directory).createAlong true (move l step) steps
      | some .directory => t.createAlong made (move l step) steps
      | some (.file _) =>
        (.error (if made ∨ steps = [] then .alreadyExists else .notADirectory), t)

def createParents (t : Tree) (path : String) : Except FileError Unit × Tree :=
  let parent := Path.parent path
  if pathLimit < parent.utf8ByteSize then (.error .nameTooLong, t)
  else t.createAlong false (t.origin parent) (Path.steps parent)

def createDirectory (t : Tree) (path : String) : Except FileError Unit × Tree :=
  match t.locate path with
  | .error e => (.error e, t)
  | .ok l =>
    match t.entry? l with
    | some .directory => (.ok (), t)
    | some (.file _) => (.error .alreadyExists, t)
    | none => (.ok (), t.set l .directory)

def createDirectories (t : Tree) (path : String) : Except FileError Unit × Tree :=
  match t.createDirectory path with
  | (.error .notFound, t) =>
    match t.createParents path with
    | (.error e, t) => (.error e, t)
    | (.ok (), t) => t.createDirectory path
  | done => done

instance : Store (StateM Tree) where
  isPresent path := fun t => (t.isPresent path, t)
  isFile path := fun t => (t.isFile path, t)
  readBytes path := fun t => (t.readBytes path, t)
  writeBytes path bytes := fun t =>
    match t.writeBytes path bytes with
    | .error e => (.error e, t)
    | .ok t => (.ok (), t)
  createParents path := fun t => t.createParents path

end Tree

end TeenyFront.Files
