import TeenyFront.Json.Text

/-!
# The strings of JSON

A character of a string may be written for itself, by a short escape or by its UTF-16 code units in
hexadecimal digits of either case; the code units of a surrogate pair come together. Whatever way is
taken, a string is read as its text, and what stands behind it is left, whether the text is kept or
skipped.
-/

set_option autoImplicit false

namespace TeenyFront.Json

def HexDigit (n : Nat) (c : Char) : Prop :=
  n < 16 ∧ (c = Nat.digitChar n ∨ c = (Nat.digitChar n).toUpper)

/-- A UTF-16 code unit in four digits. -/
inductive CodeUnit : Nat → List Char → Prop
  | digits {p q r s : Nat} {a b c d : Char} (ha : HexDigit p a) (hb : HexDigit q b)
      (hc : HexDigit r c) (hd : HexDigit s d) :
      CodeUnit (((p * 16 + q) * 16 + r) * 16 + s) [a, b, c, d]

def shortForms : List (Char × Char) :=
  [('"', '"'), ('\\', '\\'), ('/', '/'), ('b', '\x08'), ('f', '\x0c'), ('n', '\n'), ('r', '\r'),
    ('t', '\t')]

/-- The ways to write a character between quotes. -/
inductive Spells (c : Char) : List Char → Prop
  | plain (hq : c ≠ '"') (hb : c ≠ '\\') (hp : 0x20 ≤ c.toNat) : Spells c [c]
  | short {d : Char} (h : (d, c) ∈ shortForms) : Spells c ['\\', d]
  | unit {ds : List Char} (h : CodeUnit c.toNat ds) : Spells c ('\\' :: 'u' :: ds)
  | pair {ds es : List Char} (hc : 0x10000 ≤ c.toNat)
      (hd : CodeUnit (0xD800 + (c.toNat - 0x10000) / 0x400) ds)
      (he : CodeUnit (0xDC00 + (c.toNat - 0x10000) % 0x400) es) :
      Spells c ('\\' :: 'u' :: (ds ++ '\\' :: 'u' :: es))

inductive Spelled : List Char → List Char → Prop
  | nil : Spelled [] []
  | cons {c : Char} {text cs ds : List Char} (h : Spells c cs) (hs : Spelled text ds) :
      Spelled (c :: text) (cs ++ ds)

inductive Quoted (text : List Char) : List Char → Prop
  | quotes {cs : List Char} (h : Spelled text cs) : Quoted text ('"' :: (cs ++ ['"']))

section

variable {c : Char} {cs text : List Char} (rest : List Char)

theorem hexValue?_digitChar {n : Nat} (h : n < 16) : hexValue? (Nat.digitChar n) = some n := by
  revert n
  decide

theorem hexValue?_digit {n : Nat} (h : HexDigit n c) : hexValue? c = some n := by
  have hupper : ∀ n < 16, hexValue? (Nat.digitChar n).toUpper = some n := by decide
  obtain ⟨hn, rfl | rfl⟩ := h
  · exact hexValue?_digitChar hn
  · exact hupper n hn

theorem readHex_unit {n : Nat} (h : CodeUnit n cs) : readHex (cs ++ rest) = .ok (n, rest) := by
  cases h with
  | digits ha hb hc hd =>
    simp only [List.cons_append, List.nil_append, readHex, hexValue?_digit ha, hexValue?_digit hb,
      hexValue?_digit hc, hexValue?_digit hd]

theorem shortEscape?_eq_some {d : Char} : shortEscape? d = some c ↔ (d, c) ∈ shortForms := by
  constructor
  · intro h
    unfold shortEscape? at h
    split at h <;> cases h <;> decide
  · have hall : ∀ p ∈ shortForms, shortEscape? p.1 = some p.2 := by decide
    exact hall (d, c)

theorem isTrailing_char (c : Char) : isTrailing c.toNat = false := by
  have hv : c.toNat.isValidChar := c.valid
  simp only [Nat.isValidChar] at hv
  simp only [isTrailing, Bool.and_eq_false_iff, decide_eq_false_iff_not]
  omega

theorem isLeading_char (c : Char) : isLeading c.toNat = false := by
  have hv : c.toNat.isValidChar := c.valid
  simp only [Nat.isValidChar] at hv
  simp only [isLeading, Bool.and_eq_false_iff, decide_eq_false_iff_not]
  omega

theorem leading_add {k : Nat} (h : k < 0x400) :
    isTrailing (0xD800 + k) = false ∧ isLeading (0xD800 + k) = true := by
  simp only [isTrailing, isLeading, Bool.and_eq_false_iff, Bool.and_eq_true,
    decide_eq_false_iff_not, decide_eq_true_eq]
  omega

theorem trailing_add {k : Nat} (h : k < 0x400) : isTrailing (0xDC00 + k) = true := by
  simp only [isTrailing, Bool.and_eq_true, decide_eq_true_eq]
  omega

theorem readEscape_unit (h : CodeUnit c.toNat cs) :
    readEscape ('u' :: (cs ++ rest)) = .ok (c, rest) := by
  rw [readEscape, readCodePoint, readHex_unit rest h]
  simp [isTrailing_char, isLeading_char]

theorem readEscape_pair {ds : List Char} (hc : 0x10000 ≤ c.toNat)
    (hd : CodeUnit (0xD800 + (c.toNat - 0x10000) / 0x400) cs)
    (he : CodeUnit (0xDC00 + (c.toNat - 0x10000) % 0x400) ds) :
    readEscape ('u' :: (cs ++ '\\' :: 'u' :: (ds ++ rest))) = .ok (c, rest) := by
  have hdiv : (c.toNat - 0x10000) / 0x400 < 0x400 := by
    have hv : c.toNat.isValidChar := c.valid
    simp only [Nat.isValidChar] at hv
    omega
  have hmod : (c.toNat - 0x10000) % 0x400 < 0x400 := Nat.mod_lt _ (by decide)
  have hsum : 0x10000 + (0xD800 + (c.toNat - 0x10000) / 0x400 - 0xD800) * 0x400 +
      (0xDC00 + (c.toNat - 0x10000) % 0x400 - 0xDC00) = c.toNat := by omega
  obtain ⟨hkept, hleading⟩ := leading_add hdiv
  rw [readEscape, readCodePoint, readHex_unit _ hd]
  simp only [hkept, hleading, Bool.false_eq_true, if_false, if_true]
  rw [readTrailing, readHex_unit rest he]
  simp only [trailing_add hmod, if_true, hsum, Char.ofNat_toNat]

theorem readEscape_short {d : Char} (h : (d, c) ∈ shortForms) :
    readEscape (d :: rest) = .ok (c, rest) := by
  have hd := shortEscape?_eq_some.2 h
  rw [readEscape, hd]
  rintro rfl
  cases hd

variable {rest} in
theorem readTextAfter_escape (h : readEscape cs = .ok (c, rest)) (seen : List Char) :
    readTextAfter seen ('\\' :: cs) = readTextAfter (c :: seen) rest := by
  rw [readTextAfter]
  split <;> simp_all

theorem readTextAfter_plain (hq : c ≠ '"') (hb : c ≠ '\\') (hp : 0x20 ≤ c.toNat)
    (seen : List Char) : readTextAfter seen (c :: rest) = readTextAfter (c :: seen) rest := by
  rw [readTextAfter]
  · rw [if_neg (Nat.not_lt.2 hp)]
  · exact hq
  · exact hb

theorem readTextAfter_spelling (h : Spells c cs) (seen : List Char) :
    readTextAfter seen (cs ++ rest) = readTextAfter (c :: seen) rest := by
  cases h with
  | plain hq hb hp => exact readTextAfter_plain rest hq hb hp seen
  | short h => exact readTextAfter_escape (readEscape_short rest h) seen
  | unit h => exact readTextAfter_escape (readEscape_unit rest h) seen
  | pair hc hd he =>
    rw [List.cons_append, List.cons_append, List.append_assoc]
    exact readTextAfter_escape (readEscape_pair rest hc hd he) seen

theorem readTextAfter_spelled (h : Spelled text cs) (seen : List Char) :
    readTextAfter seen (cs ++ '"' :: rest) = .ok (seen.reverse ++ text, rest) := by
  induction h generalizing seen with
  | nil => rw [List.nil_append, List.append_nil, readTextAfter]
  | cons h _ ih =>
    rw [List.append_assoc, readTextAfter_spelling _ h, ih, List.reverse_cons, List.append_assoc]
    rfl

theorem readText_spelled (h : Spelled text cs) :
    readText (cs ++ '"' :: rest) = .ok (text, rest) := readTextAfter_spelled rest h []

theorem skipText_plain (hq : c ≠ '"') (hb : c ≠ '\\') (hp : 0x20 ≤ c.toNat) :
    skipText (c :: rest) = skipText rest := by
  rw [skipText]
  · rw [if_neg (Nat.not_lt.2 hp)]
  · exact hq
  · exact hb

variable {rest} in
theorem skipText_escape (h : skipEscape cs = .ok rest) :
    skipText ('\\' :: cs) = skipText rest := by
  rw [skipText]
  split <;> simp_all

theorem skipText_unit {n : Nat} (h : CodeUnit n cs) :
    skipText ('\\' :: 'u' :: (cs ++ rest)) = skipText rest := by
  apply skipText_escape
  rw [skipEscape, readHex_unit rest h]
  rfl

theorem skipEscape_short {d : Char} (h : (d, c) ∈ shortForms) :
    skipEscape (d :: rest) = .ok rest := by
  have hd := shortEscape?_eq_some.2 h
  rw [skipEscape, hd]
  · rfl
  · rintro rfl
    cases hd

theorem skipText_spelling (h : Spells c cs) : skipText (cs ++ rest) = skipText rest := by
  cases h with
  | plain hq hb hp => exact skipText_plain rest hq hb hp
  | short h => exact skipText_escape (skipEscape_short rest h)
  | unit h => exact skipText_unit rest h
  | pair hc hd he =>
    rw [List.cons_append, List.cons_append, List.append_assoc]
    exact (skipText_unit _ hd).trans (skipText_unit rest he)

theorem skipText_spelled (h : Spelled text cs) : skipText (cs ++ '"' :: rest) = .ok rest := by
  induction h with
  | nil => rw [List.nil_append, skipText]
  | cons h _ ih => rw [List.append_assoc, skipText_spelling _ h, ih]

theorem Quoted.read (h : Quoted text cs) : ∃ tail, cs ++ rest = '"' :: tail ∧
    readText tail = .ok (text, rest) ∧ skipText tail = .ok rest := by
  cases h with
  | @quotes cs h =>
    refine ⟨cs ++ '"' :: rest, ?_, readText_spelled rest h, skipText_spelled rest h⟩
    rw [List.cons_append, List.append_assoc]
    rfl

end

end TeenyFront.Json
