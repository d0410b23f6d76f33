import TeenyFront.Json.Numeral

/-!
# JSON values that are not kept

A value of an unknown member is checked and skipped, however deep it nests: the enclosing lists
and objects are kept in a list, the innermost first. A value of the wrong sort is looked at only
as far as needed to tell whether it is malformed.
-/

set_option autoImplicit false

namespace TeenyFront.Json

inductive Enclosure where
  | list
  | object
  deriving DecidableEq, Repr

def Enclosure.closer : Enclosure → Char
  | list => ']'
  | object => '\x7d'

def readColon (cs : List Char) : Except Defect (List Char) :=
  match skipBlank cs with
  | [] => .error .incomplete
  | c :: rest => if c = ':' then .ok rest else .error .malformed

def skipName (cs : List Char) : Except Defect (List Char) :=
  match skipBlank cs with
  | [] => .error .incomplete
  | c :: rest => if c = '"' then (skipText rest).bind readColon else .error .malformed

def skipNumeral (cs : List Char) : Except Defect (List Char) :=
  match Numeral.read cs with
  | .error _ => .error .malformed
  | .ok (_, rest) => .ok rest

def skipScalar (c : Char) (rest : List Char) : Except Defect (List Char) :=
  match c with
  | 'n' => readWord ['u', 'l', 'l'] rest
  | 't' => readWord ['r', 'u', 'e'] rest
  | 'f' => readWord ['a', 'l', 's', 'e'] rest
  | '-' => skipNumeral rest
  | '"' => skipText rest
  | c => if c.isDigit then skipNumeral (c :: rest) else .error .malformed

/-- What is wrong with a value that begins with `c` where another sort of value is wanted. -/
def defectOf (c : Char) (rest : List Char) : Defect :=
  let unlessDefective : Except Defect (List Char) → Defect
    | .error d => d
    | .ok _ => .unfitting
  let numeral (cs : List Char) : Defect :=
    match Numeral.read cs with
    | .error d => d
    | .ok (n, _) => if n.tooLarge then .malformed else .unfitting
  match c with
  | 'n' => unlessDefective (readWord ['u', 'l', 'l'] rest)
  | 't' => unlessDefective (readWord ['r', 'u', 'e'] rest)
  | 'f' => unlessDefective (readWord ['a', 'l', 's', 'e'] rest)
  | '-' => numeral rest
  | '"' => unlessDefective ((readText rest).map Prod.snd)
  | '[' | '\x7b' => .unfitting
  | c => if c.isDigit then numeral (c :: rest) else .malformed

/-- A run through values: the enclosures that are open, whether a value has to follow, and the
unread text. -/
structure Skip where
  outer : List Enclosure
  awaiting : Bool
  rest : List Char

/-- One step of skipping; none once the value is complete. -/
def Skip.step (s : Skip) : Except Defect (Option Skip) :=
  if s.awaiting then
    match skipBlank s.rest with
    | [] => .error .incomplete
    | '[' :: rest =>
      match skipBlank rest with
      | ']' :: rest => .ok (some ⟨s.outer, false, rest⟩)
      | _ => .ok (some ⟨.list :: s.outer, true, rest⟩)
    | '\x7b' :: rest =>
      match skipBlank rest with
      | '\x7d' :: rest => .ok (some ⟨s.outer, false, rest⟩)
      | _ => (skipName rest).map fun rest => some ⟨.object :: s.outer, true, rest⟩
    | c :: rest => (skipScalar c rest).map fun rest => some ⟨s.outer, false, rest⟩
  else
    match s.outer with
    | [] => .ok none
    | e :: outer =>
      match skipBlank s.rest with
      | [] => .error .incomplete
      | ',' :: rest =>
        match e with
        | .list => .ok (some ⟨e :: outer, true, rest⟩)
        | .object => (skipName rest).map fun rest => some ⟨e :: outer, true, rest⟩
      | c :: rest =>
        if c = e.closer then .ok (some ⟨outer, false, rest⟩) else .error .malformed

theorem readColon_length {cs rest : List Char} (h : readColon cs = .ok rest) :
    rest.length < cs.length := by
  unfold readColon at h
  split at h
  · cases h
  · rename_i hs
    have hlt := length_of_skipBlank hs
    split at h
    · cases h
      exact hlt
    · cases h

theorem skipName_length {cs rest : List Char} (h : skipName cs = .ok rest) :
    rest.length < cs.length := by
  unfold skipName at h
  split at h
  · cases h
  · rename_i hs
    have hlt := length_of_skipBlank hs
    split at h
    · obtain ⟨mid, ht, hc⟩ := bind_ok h
      exact Nat.lt_trans (readColon_length hc) (Nat.lt_trans (skipText_length ht) hlt)
    · cases h

theorem skipNumeral_length {cs rest : List Char} (h : skipNumeral cs = .ok rest) :
    rest.length < cs.length := by
  unfold skipNumeral at h
  split at h
  · cases h
  · rename_i hr
    cases h
    exact Numeral.read_length hr

theorem skipScalar_length_le {c : Char} {cs rest : List Char}
    (h : skipScalar c cs = .ok rest) : rest.length ≤ cs.length := by
  unfold skipScalar at h
  split at h
  · exact readWord_length_le h
  · exact readWord_length_le h
  · exact readWord_length_le h
  · exact Nat.le_of_lt (skipNumeral_length h)
  · exact Nat.le_of_lt (skipText_length h)
  · split at h
    · exact Nat.le_of_lt_succ (skipNumeral_length h)
    · cases h

namespace Skip

theorem step_length {s t : Skip} (h : s.step = .ok (some t)) :
    t.rest.length < s.rest.length := by
  unfold step at h
  split at h
  · split at h
    · cases h
    · rename_i rest hs
      have hlt := length_of_skipBlank hs
      split at h
      · rename_i hs'
        cases h
        exact Nat.lt_trans (length_of_skipBlank hs') hlt
      · cases h
        exact hlt
    · rename_i rest hs
      have hlt := length_of_skipBlank hs
      split at h
      · rename_i hs'
        cases h
        exact Nat.lt_trans (length_of_skipBlank hs') hlt
      · obtain ⟨tail, hn, ht⟩ := map_ok h
        cases ht
        exact Nat.lt_trans (skipName_length hn) hlt
    · rename_i c rest _ _ hs
      obtain ⟨tail, hr, ht⟩ := map_ok h
      cases ht
      exact Nat.lt_of_le_of_lt (skipScalar_length_le hr) (length_of_skipBlank hs)
  · split at h
    · cases h
    · split at h
      · cases h
      · rename_i rest hs
        have hlt := length_of_skipBlank hs
        split at h
        · cases h
          exact hlt
        · obtain ⟨tail, hn, ht⟩ := map_ok h
          cases ht
          exact Nat.lt_trans (skipName_length hn) hlt
      · rename_i c rest _ hs
        split at h
        · cases h
          exact length_of_skipBlank hs
        · cases h

def run (s : Skip) : Except Defect (List Char) :=
  match _h : s.step with
  | .error d => .error d
  | .ok none => .ok s.rest
  | .ok (some t) => t.run
termination_by s.rest.length
decreasing_by exact step_length _h

theorem run_length_le {s : Skip} {rest : List Char} (h : s.run = .ok rest) :
    rest.length ≤ s.rest.length := by
  fun_induction Skip.run s with
  | case1 => cases h
  | case2 =>
    cases h
    exact Nat.le_refl _
  | case3 s t hs ih => exact Nat.le_of_lt (Nat.lt_of_le_of_lt (ih h) (step_length hs))

end Skip

def skipValue (cs : List Char) : Except Defect (List Char) := Skip.run ⟨[], true, cs⟩

theorem skipValue_length_le {cs rest : List Char} (h : skipValue cs = .ok rest) :
    rest.length ≤ cs.length := Skip.run_length_le h

end TeenyFront.Json
