/-!
# Reading JSON texts and words

Reading is from left to right and stops at the first defect: what is read is malformed, or it is
well formed but not what is wanted there, or it ends too early. A string that is kept must pair
its surrogate escapes; a string that is skipped need not.
-/

set_option autoImplicit false

namespace TeenyFront.Json

inductive Defect where
  | malformed
  | unfitting
  | incomplete
  deriving DecidableEq, Repr

def isBlank (c : Char) : Bool := c = ' ' || c = '\n' || c = '\t' || c = '\r'

def skipBlank (cs : List Char) : List Char := cs.dropWhile isBlank

def hexValue? (c : Char) : Option Nat :=
  if c.isDigit then some (c.toNat - '0'.toNat)
  else if 'a' ≤ c ∧ c ≤ 'f' then some (c.toNat - 'a'.toNat + 10)
  else if 'A' ≤ c ∧ c ≤ 'F' then some (c.toNat - 'A'.toNat + 10)
  else none

/-- Four hexadecimal digits. Less than four bytes of text are an early end, whatever they are. -/
def readHex : List Char → Except Defect (Nat × List Char)
  | a :: b :: c :: d :: rest =>
    match hexValue? a, hexValue? b, hexValue? c, hexValue? d with
    | some a, some b, some c, some d => .ok (((a * 16 + b) * 16 + c) * 16 + d, rest)
    | _, _, _, _ => .error .malformed
  | short =>
    if (String.ofList short).utf8ByteSize < 4 then .error .incomplete else .error .malformed

def isLeading (n : Nat) : Bool := 0xD800 ≤ n && n ≤ 0xDBFF

def isTrailing (n : Nat) : Bool := 0xDC00 ≤ n && n ≤ 0xDFFF

/-- The trailing half of a surrogate pair as an escape of its own. -/
def readTrailing (leading : Nat) : List Char → Except Defect (Char × List Char)
  | [] => .error .incomplete
  | ['\\'] => .error .incomplete
  | '\\' :: 'u' :: rest =>
    match readHex rest with
    | .error d => .error d
    | .ok (n, rest) =>
      if isTrailing n then
        .ok (Char.ofNat (0x10000 + (leading - 0xD800) * 0x400 + (n - 0xDC00)), rest)
      else .error .malformed
  | _ => .error .malformed

def readCodePoint (cs : List Char) : Except Defect (Char × List Char) :=
  match readHex cs with
  | .error d => .error d
  | .ok (n, rest) =>
    if isTrailing n then .error .malformed
    else if isLeading n then readTrailing n rest
    else .ok (Char.ofNat n, rest)

def shortEscape? : Char → Option Char
  | '"' => some '"'
  | '\\' => some '\\'
  | '/' => some '/'
  | 'b' => some '\x08'
  | 'f' => some '\x0c'
  | 'n' => some '\n'
  | 'r' => some '\r'
  | 't' => some '\t'
  | _ => none

def readEscape : List Char → Except Defect (Char × List Char)
  | [] => .error .incomplete
  | 'u' :: rest => readCodePoint rest
  | c :: rest =>
    match shortEscape? c with
    | some d => .ok (d, rest)
    | none => .error .malformed

def skipEscape : List Char → Except Defect (List Char)
  | [] => .error .incomplete
  | 'u' :: rest => (readHex rest).map Prod.snd
  | c :: rest => if (shortEscape? c).isSome then .ok rest else .error .malformed

theorem readHex_length {cs rest : List Char} {n : Nat} (h : readHex cs = .ok (n, rest)) :
    rest.length < cs.length := by
  unfold readHex at h
  split at h
  · split at h
    · cases h
      simp only [List.length_cons]
      omega
    · cases h
  · split at h <;> cases h

theorem readTrailing_length {leading : Nat} {cs rest : List Char} {c : Char}
    (h : readTrailing leading cs = .ok (c, rest)) : rest.length < cs.length := by
  unfold readTrailing at h
  split at h
  · cases h
  · cases h
  · split at h
    · cases h
    · rename_i hr
      have hlt := readHex_length hr
      split at h
      · rw [← (Prod.mk.inj (Except.ok.inj h)).2]
        simp only [List.length_cons]
        omega
      · cases h
  · cases h

theorem readCodePoint_length {cs rest : List Char} {c : Char}
    (h : readCodePoint cs = .ok (c, rest)) : rest.length < cs.length := by
  unfold readCodePoint at h
  split at h
  · cases h
  · rename_i n tail hr
    have hlt := readHex_length hr
    split at h
    · cases h
    · split at h
      · exact Nat.lt_trans (readTrailing_length h) hlt
      · rw [← (Prod.mk.inj (Except.ok.inj h)).2]
        exact hlt

theorem readEscape_length {cs rest : List Char} {c : Char}
    (h : readEscape cs = .ok (c, rest)) : rest.length < cs.length := by
  unfold readEscape at h
  split at h
  · cases h
  · exact Nat.lt_succ_of_lt (readCodePoint_length h)
  · split at h
    · cases h
      simp
    · cases h

theorem skipEscape_length {cs rest : List Char} (h : skipEscape cs = .ok rest) :
    rest.length < cs.length := by
  unfold skipEscape at h
  split at h
  · cases h
  · rename_i tail
    cases hr : readHex tail with
    | error d => rw [hr] at h; cases h
    | ok p =>
      obtain ⟨n, q⟩ := p
      rw [hr] at h
      cases h
      have hlt := readHex_length hr
      simp only [List.length_cons]
      omega
  · split at h
    · cases h
      simp
    · cases h

/-- The rest of a string after `seen`, the last character first, with its closing quote. -/
def readTextAfter (seen : List Char) (cs : List Char) :
    Except Defect (List Char × List Char) :=
  match cs with
  | [] => .error .incomplete
  | '"' :: rest => .ok (seen.reverse, rest)
  | '\\' :: rest =>
    match _h : readEscape rest with
    | .error d => .error d
    | .ok (c, rest') => readTextAfter (c :: seen) rest'
  | c :: rest => if c.toNat < 0x20 then .error .malformed else readTextAfter (c :: seen) rest
termination_by cs.length
decreasing_by
  · have hlt := readEscape_length _h
    simp only [List.length_cons]
    omega
  · simp

def readText (cs : List Char) : Except Defect (List Char × List Char) := readTextAfter [] cs

def skipText (cs : List Char) : Except Defect (List Char) :=
  match cs with
  | [] => .error .incomplete
  | '"' :: rest => .ok rest
  | '\\' :: rest =>
    match _h : skipEscape rest with
    | .error d => .error d
    | .ok rest' => skipText rest'
  | c :: rest => if c.toNat < 0x20 then .error .malformed else skipText rest
termination_by cs.length
decreasing_by
  · have hlt := skipEscape_length _h
    simp only [List.length_cons]
    omega
  · simp

def readWord : List Char → List Char → Except Defect (List Char)
  | [], cs => .ok cs
  | _ :: _, [] => .error .incomplete
  | w :: ws, c :: cs => if c = w then readWord ws cs else .error .malformed

theorem length_of_skipBlank {c : Char} {cs rest : List Char} (h : skipBlank cs = c :: rest) :
    rest.length < cs.length := by
  have hle : (skipBlank cs).length ≤ cs.length := (List.dropWhile_suffix _).length_le
  rw [h] at hle
  exact hle

theorem bind_ok {α β : Type} {x : Except Defect α} {f : α → Except Defect β} {b : β}
    (h : x >>= f = .ok b) : ∃ a, x = .ok a ∧ f a = .ok b := by
  cases x with
  | error d => cases h
  | ok a => exact ⟨a, rfl, h⟩

theorem map_ok {α β : Type} {x : Except Defect α} {f : α → β} {b : β} (h : x.map f = .ok b) :
    ∃ a, x = .ok a ∧ f a = b := by
  cases x with
  | error d => cases h
  | ok a => exact ⟨a, rfl, Except.ok.inj h⟩

theorem readTextAfter_length {seen cs text rest : List Char}
    (h : readTextAfter seen cs = .ok (text, rest)) : rest.length < cs.length := by
  fun_induction readTextAfter seen cs with
  | case1 => cases h
  | case2 =>
    cases h
    simp
  | case3 => cases h
  | case4 seen tail c tail' he ih =>
    have hlt := readEscape_length he
    have hle := ih h
    simp only [List.length_cons]
    omega
  | case5 => cases h
  | case6 seen c tail _ _ _ ih => exact Nat.lt_succ_of_lt (ih h)

theorem readText_length {cs text rest : List Char} (h : readText cs = .ok (text, rest)) :
    rest.length < cs.length := readTextAfter_length h

theorem skipText_length {cs rest : List Char} (h : skipText cs = .ok rest) :
    rest.length < cs.length := by
  fun_induction skipText cs with
  | case1 => cases h
  | case2 =>
    cases h
    simp
  | case3 => cases h
  | case4 tail tail' he ih =>
    have hlt := skipEscape_length he
    have hle := ih h
    simp only [List.length_cons]
    omega
  | case5 => cases h
  | case6 c tail _ _ _ ih => exact Nat.lt_succ_of_lt (ih h)

theorem readWord_length_le {ws cs rest : List Char} (h : readWord ws cs = .ok rest) :
    rest.length ≤ cs.length := by
  fun_induction readWord ws cs with
  | case1 =>
    cases h
    exact Nat.le_refl _
  | case2 => cases h
  | case3 w ws cs ih => exact Nat.le_succ_of_le (ih h)
  | case4 => cases h

end TeenyFront.Json
