import TeenyFront.Json.Text

/-!
# JSON numerals

A numeral is read as its digits. Its value matters only in that a numeral beyond the range of
binary64 is malformed where a value is looked at. The significand keeps as many leading digits as
fit in 64 bits; it and the power of ten are each rounded to 53 bits before they are multiplied.
-/

set_option autoImplicit false

namespace TeenyFront.Json

structure Numeral where
  whole : List Char
  fraction : List Char
  negativeExponent : Bool
  exponent : List Char
  deriving DecidableEq, Repr

namespace Numeral

def readDigits (cs : List Char) : Except Defect (List Char × List Char) :=
  match cs with
  | [] => .error .incomplete
  | c :: _ =>
    if c.isDigit then .ok (cs.takeWhile Char.isDigit, cs.dropWhile Char.isDigit)
    else .error .malformed

/-- Digits without a leading zero, unless it is the only one. -/
def readWhole (cs : List Char) : Except Defect (List Char × List Char) :=
  match readDigits cs with
  | .error d => .error d
  | .ok (digits, rest) =>
    if digits.head? = some '0' ∧ digits.length ≠ 1 then .error .malformed
    else .ok (digits, rest)

def readFraction : List Char → Except Defect (List Char × List Char)
  | '.' :: rest => readDigits rest
  | cs => .ok ([], cs)

def readSigned : List Char → Except Defect (Bool × List Char × List Char)
  | '-' :: rest => (readDigits rest).map fun r => (true, r)
  | '+' :: rest => (readDigits rest).map fun r => (false, r)
  | cs => (readDigits cs).map fun r => (false, r)

def readExponent (cs : List Char) : Except Defect (Bool × List Char × List Char) :=
  match cs with
  | [] => .ok (false, [], [])
  | c :: rest => if c = 'e' ∨ c = 'E' then readSigned rest else .ok (false, [], cs)

def read (cs : List Char) : Except Defect (Numeral × List Char) :=
  match readWhole cs with
  | .error d => .error d
  | .ok (whole, rest) =>
    match readFraction rest with
    | .error d => .error d
    | .ok (fraction, rest) =>
      match readExponent rest with
      | .error d => .error d
      | .ok (negative, exponent, rest) => .ok (⟨whole, fraction, negative, exponent⟩, rest)

theorem readDigits_length {cs digits rest : List Char} (h : readDigits cs = .ok (digits, rest)) :
    rest.length < cs.length := by
  unfold readDigits at h
  split at h
  · cases h
  · rename_i c tail
    split at h
    · rename_i hc
      rw [← (Prod.mk.inj (Except.ok.inj h)).2, List.dropWhile_cons_of_pos hc]
      exact Nat.lt_succ_of_le (List.dropWhile_suffix _).length_le
    · cases h

theorem readWhole_length {cs digits rest : List Char} (h : readWhole cs = .ok (digits, rest)) :
    rest.length < cs.length := by
  unfold readWhole at h
  split at h
  · cases h
  · rename_i hd
    split at h
    · cases h
    · cases h
      exact readDigits_length hd

theorem readFraction_length_le {cs digits rest : List Char}
    (h : readFraction cs = .ok (digits, rest)) : rest.length ≤ cs.length := by
  unfold readFraction at h
  split at h
  · exact Nat.le_succ_of_le (Nat.le_of_lt (readDigits_length h))
  · cases h
    exact Nat.le_refl _

theorem readSigned_length {cs digits rest : List Char} {negative : Bool}
    (h : readSigned cs = .ok (negative, digits, rest)) : rest.length < cs.length := by
  have mapped {ds : List Char} {b : Bool}
      (hs : (readDigits ds).map (fun r => (b, r)) = .ok (negative, digits, rest)) :
      rest.length < ds.length := by
    obtain ⟨r, hd, he⟩ := map_ok hs
    cases he
    exact readDigits_length hd
  unfold readSigned at h
  split at h
  · exact Nat.lt_succ_of_lt (mapped h)
  · exact Nat.lt_succ_of_lt (mapped h)
  · exact mapped h

theorem readExponent_length_le {cs digits rest : List Char} {negative : Bool}
    (h : readExponent cs = .ok (negative, digits, rest)) : rest.length ≤ cs.length := by
  unfold readExponent at h
  split at h
  · cases h
    exact Nat.le_refl _
  · split at h
    · exact Nat.le_succ_of_le (Nat.le_of_lt (readSigned_length h))
    · cases h
      exact Nat.le_refl _

theorem read_length {cs rest : List Char} {n : Numeral} (h : read cs = .ok (n, rest)) :
    rest.length < cs.length := by
  unfold read at h
  split at h
  · cases h
  · rename_i hw
    split at h
    · cases h
    · rename_i hf
      split at h
      · cases h
      · rename_i he
        cases h
        exact Nat.lt_of_le_of_lt
          (Nat.le_trans (readExponent_length_le he) (readFraction_length_le hf))
          (readWhole_length hw)

def digit (c : Char) : Nat := c.toNat - '0'.toNat

/-- Appends digits to a significand as long as it fits in 64 bits; the number of digits taken and
the significand. -/
def extend (significand : Nat) : List Char → Nat × Nat
  | [] => (0, significand)
  | c :: cs =>
    if significand * 10 + digit c < 18446744073709551616 then
      let (taken, s) := extend (significand * 10 + digit c) cs
      (taken + 1, s)
    else (0, significand)

def scale (n : Numeral) : Nat × Int :=
  let (taken, s) := extend 0 n.whole
  let (places, s) := extend s n.fraction
  let e : Int := (n.exponent.foldl (fun e c => e * 10 + digit c) 0 : Nat)
  (s, (n.whole.length - taken : Nat) - (places : Int) + if n.negativeExponent then -e else e)

/-- A natural number rounded to 53 significant bits, a tie to the even neighbour. -/
def round53 (n : Nat) : Nat :=
  let unit := 1 <<< (n.log2 + 1 - 53)
  let q := n / unit
  let r := 2 * (n % unit)
  (if r > unit ∨ (r = unit ∧ q % 2 = 1) then q + 1 else q) * unit

/-- Half way from the largest binary64 number to the next power of two. -/
def beyondRange : Nat := (1 <<< 1024) - (1 <<< 970)

/-- A value that is rounded beyond the range. Only a power of ten that is not negative can do
that. -/
def tooLarge (n : Numeral) : Bool :=
  let (s, e) := n.scale
  s ≠ 0 && 0 ≤ e &&
    (308 < e || beyondRange ≤ round53 s * round53 (Nat.pow 10 e.toNat))

end Numeral

end TeenyFront.Json
