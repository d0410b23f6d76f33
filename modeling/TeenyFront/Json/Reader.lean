import TeenyFront.Json.Library
import TeenyFront.Json.Value

/-!
# Reading JSON documents

The library that this program runs with. Every part of a value may have blanks in front of it, and
nothing but blanks follows the document. Its errors tell no more than of what sort they are.
-/

set_option autoImplicit false

namespace TeenyFront.Json

def readString (cs : List Char) : Except Defect (List Char × List Char) :=
  match skipBlank cs with
  | [] => .error .incomplete
  | c :: rest => if c = '"' then readText rest else .error (defectOf c rest)

/-- The name of a member, which is a string whatever else stands there. -/
def readName (cs : List Char) : Except Defect (List Char × List Char) :=
  match skipBlank cs with
  | [] => .error .incomplete
  | c :: rest => if c = '"' then readText rest else .error .malformed

def readNull (cs : List Char) : Except Defect (List Char) :=
  match skipBlank cs with
  | [] => .error .incomplete
  | c :: rest =>
    if c = 'n' then readWord ['u', 'l', 'l'] rest else .error (defectOf c rest)

def readCloser (closer : Char) (cs : List Char) : Except Defect (List Char) :=
  match skipBlank cs with
  | [] => .error .incomplete
  | c :: rest => if c = closer then .ok rest else .error .malformed

/-- A comma, or else the given closing bracket; whether it was a comma. -/
def readSeparator (closer : Char) (cs : List Char) : Except Defect (Bool × List Char) :=
  match skipBlank cs with
  | [] => .error .incomplete
  | c :: rest =>
    if c = ',' then .ok (true, rest)
    else if c = closer then .ok (false, rest)
    else .error .malformed

def readEnd (cs : List Char) : Except Defect Unit :=
  match skipBlank cs with
  | [] => .ok ()
  | _ => .error .malformed

def readTag (cs : List Char) : Except Defect Unit := do
  let cs ← readColon cs
  let cs ← readNull cs
  let _ ← readCloser '\x7d' cs

def choiceOf (name : List Char) (rest : Except Defect Unit) : Choice Defect :=
  ⟨String.ofList name, fun _ => .unfitting, rest⟩

def readChoice (cs : List Char) : Except Defect (Choice Defect) :=
  match skipBlank cs with
  | [] => .error .incomplete
  | c :: rest =>
    if c = '"' then (readText rest).map fun (name, _) => choiceOf name (.ok ())
    else if c = '\x7b' then (readName rest).map fun (name, cs) => choiceOf name (readTag cs)
    else .error .malformed

/-- The value that begins here, if there is a place for one. -/
def offer (start : Except Defect (List Char)) : Offer Defect where
  text := start.bind fun cs => (readString cs).map fun r => String.ofList r.1
  choice := start.bind readChoice
  skipped := start.bind fun cs => (skipValue cs).map fun _ => ()

def passMember (cs : List Char) : Except Defect (Bool × List Char) := do
  let cs ← skipValue (← readColon cs)
  readSeparator '\x7d' cs

/-- An element of a list, and whether another one follows, which a comma alone does not do. -/
def passElement (cs : List Char) : Except Defect (Bool × List Char) := do
  let (more, cs) ← readSeparator ']' (← skipValue cs)
  match more, skipBlank cs with
  | true, ']' :: _ => .error .malformed
  | _, _ => .ok (more, cs)

theorem readName_length {cs text rest : List Char} (h : readName cs = .ok (text, rest)) :
    rest.length < cs.length := by
  unfold readName at h
  split at h
  · cases h
  · rename_i hs
    have hlt := length_of_skipBlank hs
    split at h
    · exact Nat.lt_trans (readText_length h) hlt
    · cases h

theorem readSeparator_length {closer : Char} {cs rest : List Char} {more : Bool}
    (h : readSeparator closer cs = .ok (more, rest)) : rest.length < cs.length := by
  unfold readSeparator at h
  split at h
  · cases h
  · rename_i hs
    have hlt := length_of_skipBlank hs
    split at h
    · cases h
      exact hlt
    · split at h
      · cases h
        exact hlt
      · cases h

theorem passMember_length {cs rest : List Char} {more : Bool}
    (h : passMember cs = .ok (more, rest)) : rest.length < cs.length := by
  obtain ⟨cs₁, h₁, h⟩ := bind_ok h
  obtain ⟨cs₂, h₂, h⟩ := bind_ok h
  have := readColon_length h₁
  have := skipValue_length_le h₂
  have := readSeparator_length h
  omega

theorem passElement_length {cs rest : List Char} {more : Bool}
    (h : passElement cs = .ok (more, rest)) : rest.length < cs.length := by
  obtain ⟨cs₁, h₁, h⟩ := bind_ok h
  obtain ⟨⟨more', cs₂⟩, h₂, h⟩ := bind_ok h
  have := skipValue_length_le h₁
  have := readSeparator_length h₂
  dsimp only at h
  split at h
  · cases h
  · cases h
    omega

def members (cs : List Char) : Members Defect :=
  match _hn : readName cs with
  | .error d => .done (.error d)
  | .ok (name, behind) =>
    .member (String.ofList name) (fun _ => .unfitting) (offer (readColon behind))
      (match _hp : passMember behind with
      | .error d => .done (.error d)
      | .ok (false, rest) => .done (readEnd rest)
      | .ok (true, rest) => members rest)
termination_by cs.length
decreasing_by exact Nat.lt_trans (passMember_length _hp) (readName_length _hn)

def elements (cs : List Char) : Elements Defect :=
  .element (offer (.ok cs))
    (do readEnd (← readCloser ']' (← skipValue cs)))
    (match _h : passElement cs with
    | .error d => .done (.error d)
    | .ok (false, rest) => .done (readEnd rest)
    | .ok (true, rest) => elements rest)
termination_by cs.length
decreasing_by exact passElement_length _h

def readDocument (cs : List Char) : Document Defect :=
  match skipBlank cs with
  | [] => .other .incomplete
  | '\x7b' :: rest =>
    match skipBlank rest with
    | '\x7d' :: rest => .object (.done (readEnd rest))
    | _ => .object (members rest)
  | '[' :: rest =>
    match skipBlank rest with
    | ']' :: rest => .list (.done (readEnd rest))
    | _ => .list (elements rest)
  | c :: rest => .other (defectOf c rest)

instance : Library Defect where
  read text := readDocument text.toList
  write := Record.spread
  message
    | .malformed => "malformed"
    | .unfitting => "unfitting"
    | .incomplete => "incomplete"

end TeenyFront.Json
