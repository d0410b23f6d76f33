import TeenyFront.Proofs.JsonRecord

/-!
# The grammar of JSON

Which texts are JSON and what they stand for, apart from any reader. A numeral stands for the way it
is written. Blanks may surround every value and every name.

Numerals are read to their end and no further.
-/

set_option autoImplicit false

namespace TeenyFront.Json

def Blank (cs : List Char) : Prop := ∀ c ∈ cs, c ∈ [' ', '\n', '\t', '\r']

theorem blank_iff (cs : List Char) : cs.all isBlank = true ↔ Blank cs := by
  simp [Blank, isBlank, or_assoc]

instance (cs : List Char) : Decidable (Blank cs) := decidable_of_iff _ (blank_iff cs)

theorem skipBlank_append {bs : List Char} (h : Blank bs) (cs : List Char) :
    skipBlank (bs ++ cs) = skipBlank cs :=
  List.dropWhile_append_of_pos (List.all_eq_true.1 ((blank_iff bs).2 h))

theorem blank_space : Blank [' '] := by decide

theorem skipBlank_blank {bs : List Char} (h : Blank bs) : skipBlank bs = [] := by
  rw [← List.append_nil bs, skipBlank_append h]
  rfl

namespace Numeral

def Digits (cs : List Char) : Prop := cs ≠ [] ∧ ∀ c ∈ cs, c.isDigit = true

instance (cs : List Char) : Decidable (Digits cs) :=
  decidable_of_iff (cs ≠ [] ∧ cs.all Char.isDigit = true) (by simp [Digits])

inductive Fraction : List Char → Prop
  | none : Fraction []
  | digits {ds : List Char} (h : Digits ds) : Fraction ('.' :: ds)

inductive Exponent : List Char → Prop
  | none : Exponent []
  | digits {e : Char} {sign ds : List Char} (he : e = 'e' ∨ e = 'E')
      (hs : sign ∈ [[], ['+'], ['-']]) (h : Digits ds) : Exponent (e :: (sign ++ ds))

/-- A numeral without its sign. It begins with a zero only if that is all of its whole part. -/
inductive Unsigned : List Char → Prop
  | parts {ws fs es : List Char} (hw : Digits ws) (hz : ws.head? = some '0' → ws = ['0'])
      (hf : Fraction fs) (he : Exponent es) : Unsigned (ws ++ (fs ++ es))

end Numeral

inductive Value where
  | null
  | boolean (b : Bool)
  | numeral (cs : List Char)
  | text (s : String)
  | list (vs : List Value)
  | object (ms : List (String × Value))

/-- What a piece of JSON stands for: a value, a value with blanks around it, the values in a list,
a member of an object or the members in an object. -/
inductive Part where
  | value (v : Value)
  | padded (v : Value)
  | elements (vs : List Value)
  | member (m : String × Value)
  | members (ms : List (String × Value))

inductive Written : Part → List Char → Prop
  | null : Written (.value .null) ['n', 'u', 'l', 'l']
  | isTrue : Written (.value (.boolean true)) ['t', 'r', 'u', 'e']
  | isFalse : Written (.value (.boolean false)) ['f', 'a', 'l', 's', 'e']
  | numeral {cs : List Char} (h : Numeral.Unsigned cs) : Written (.value (.numeral cs)) cs
  | negative {cs : List Char} (h : Numeral.Unsigned cs) :
      Written (.value (.numeral ('-' :: cs))) ('-' :: cs)
  | text {s : String} {cs : List Char} (h : Quoted s.toList cs) : Written (.value (.text s)) cs
  | noElements {bs : List Char} (hb : Blank bs) :
      Written (.value (.list [])) ('[' :: (bs ++ [']']))
  | list {vs : List Value} {cs : List Char} (h : Written (.elements vs) cs) :
      Written (.value (.list vs)) ('[' :: (cs ++ [']']))
  | noMembers {bs : List Char} (hb : Blank bs) :
      Written (.value (.object [])) ('\x7b' :: (bs ++ ['\x7d']))
  | object {ms : List (String × Value)} {cs : List Char} (h : Written (.members ms) cs) :
      Written (.value (.object ms)) ('\x7b' :: (cs ++ ['\x7d']))
  | padded {v : Value} {front cs back : List Char} (hf : Blank front) (h : Written (.value v) cs)
      (hb : Blank back) : Written (.padded v) (front ++ (cs ++ back))
  | element {v : Value} {cs : List Char} (h : Written (.padded v) cs) : Written (.elements [v]) cs
  | elements {v : Value} {vs : List Value} {cs ds : List Char} (h : Written (.padded v) cs)
      (hs : Written (.elements vs) ds) : Written (.elements (v :: vs)) (cs ++ ',' :: ds)
  | member {name : String} {v : Value} {front ns back cs : List Char} (hf : Blank front)
      (hn : Quoted name.toList ns) (hb : Blank back) (h : Written (.padded v) cs) :
      Written (.member (name, v)) (front ++ (ns ++ (back ++ ':' :: cs)))
  | last {m : String × Value} {cs : List Char} (h : Written (.member m) cs) :
      Written (.members [m]) cs
  | members {m : String × Value} {ms : List (String × Value)} {cs ds : List Char}
      (h : Written (.member m) cs) (hs : Written (.members ms) ds) :
      Written (.members (m :: ms)) (cs ++ ',' :: ds)

/-! How a piece of JSON begins. -/

theorem Numeral.Unsigned.begins {cs : List Char} (h : Unsigned cs) :
    ∃ d ds, cs = d :: ds ∧ d.isDigit = true := by
  cases h with
  | parts hw hz hf he =>
    obtain ⟨d, ds, rfl⟩ := List.exists_cons_of_ne_nil hw.1
    exact ⟨d, _, rfl, hw.2 d List.mem_cons_self⟩

theorem Written.value_begins {v : Value} {cs : List Char} (h : Written (.value v) cs) :
    ∃ c tail, cs = c :: tail ∧ isBlank c = false ∧ c ≠ ']' := by
  cases h with
  | null => exact ⟨_, _, rfl, rfl, by decide⟩
  | isTrue => exact ⟨_, _, rfl, rfl, by decide⟩
  | isFalse => exact ⟨_, _, rfl, rfl, by decide⟩
  | numeral h =>
    obtain ⟨d, ds, rfl, hd⟩ := h.begins
    refine ⟨d, ds, rfl, isBlank_digit hd, ?_⟩
    rintro rfl
    cases hd
  | negative => exact ⟨_, _, rfl, rfl, by decide⟩
  | text h =>
    cases h with
    | quotes => exact ⟨_, _, rfl, rfl, by decide⟩
  | noElements => exact ⟨_, _, rfl, rfl, by decide⟩
  | list => exact ⟨_, _, rfl, rfl, by decide⟩
  | noMembers => exact ⟨_, _, rfl, rfl, by decide⟩
  | object => exact ⟨_, _, rfl, rfl, by decide⟩

section

variable {cs : List Char} (rest : List Char)

theorem Written.padded_begins {v : Value} (h : Written (.padded v) cs) :
    ∃ c tail, skipBlank (cs ++ rest) = c :: tail ∧ c ≠ ']' := by
  cases h with
  | padded hf h hb =>
    obtain ⟨c, tail, rfl, hblank, hc⟩ := h.value_begins
    rw [List.append_assoc, skipBlank_append hf]
    exact ⟨c, _, skipBlank_cons hblank _, hc⟩

theorem Written.elements_begin {vs : List Value} (h : Written (.elements vs) cs) :
    ∃ c tail, skipBlank (cs ++ rest) = c :: tail ∧ c ≠ ']' := by
  cases h with
  | element h => exact h.padded_begins rest
  | elements h =>
    rw [List.append_assoc]
    exact h.padded_begins _

theorem Written.member_begins {m : String × Value} (h : Written (.member m) cs) :
    ∃ tail, skipBlank (cs ++ rest) = '"' :: tail := by
  cases h with
  | member hf hn =>
    cases hn with
    | quotes =>
      rw [List.append_assoc, skipBlank_append hf]
      exact ⟨_, skipBlank_cons rfl _⟩

theorem Written.members_begin {ms : List (String × Value)} (h : Written (.members ms) cs) :
    ∃ tail, skipBlank (cs ++ rest) = '"' :: tail := by
  cases h with
  | last h => exact h.member_begins rest
  | members h =>
    rw [List.append_assoc]
    exact h.member_begins _

end

/-! Numerals -/

namespace Numeral

def Stops (rest : List Char) : Prop :=
  ∀ c ∈ rest.head?, c.isDigit = false ∧ c ≠ '.' ∧ c ≠ 'e' ∧ c ≠ 'E'

variable {ws fs es ds rest : List Char}

theorem stops_cons {c : Char} (hc : c ∈ [',', ']', '\x7d']) : Stops (c :: rest) := by
  intro d hd
  cases hd
  simp only [List.mem_cons, List.not_mem_nil, or_false] at hc
  rcases hc with rfl | rfl | rfl <;> decide

theorem Stops.behind_blanks {bs : List Char} (hr : Stops rest) (hb : Blank bs) :
    Stops (bs ++ rest) := by
  cases bs with
  | nil => exact hr
  | cons b bs =>
    intro d hd
    cases hd
    have hblank := hb b List.mem_cons_self
    simp only [List.mem_cons, List.not_mem_nil, or_false] at hblank
    rcases hblank with rfl | rfl | rfl | rfl <;> decide

theorem Fraction.stops (hf : Fraction fs) (hr : ∀ c ∈ rest.head?, c.isDigit = false) :
    ∀ c ∈ (fs ++ rest).head?, c.isDigit = false := by
  cases hf with
  | none => exact hr
  | digits => exact fun c hc => Option.some.inj hc ▸ rfl

theorem Exponent.stops (he : Exponent es) (hr : Stops rest) :
    ∀ c ∈ (es ++ rest).head?, c.isDigit = false ∧ c ≠ '.' := by
  cases he with
  | none => exact fun c hc => ⟨(hr c hc).1, (hr c hc).2.1⟩
  | digits he =>
    intro c hc
    cases hc
    obtain rfl | rfl := he
    · decide
    · decide

theorem readFraction_append (hf : Fraction fs)
    (hr : ∀ c ∈ rest.head?, c.isDigit = false ∧ c ≠ '.') :
    ∃ ds, readFraction (fs ++ rest) = .ok (ds, rest) := by
  cases hf with
  | none =>
    refine ⟨[], ?_⟩
    rw [List.nil_append, readFraction]
    rintro tail rfl
    exact (hr '.' rfl).2 rfl
  | digits h => exact ⟨_, readDigits_append h.1 h.2 fun c hc => (hr c hc).1⟩

theorem readSigned_append {sign : List Char} (hs : sign ∈ [[], ['+'], ['-']]) (h : Digits ds)
    (hr : ∀ c ∈ rest.head?, c.isDigit = false) :
    ∃ b, readSigned (sign ++ ds ++ rest) = .ok (b, ds, rest) := by
  have hread := readDigits_append h.1 h.2 hr
  simp only [List.mem_cons, List.not_mem_nil, or_false] at hs
  obtain rfl | rfl | rfl := hs
  · have hsign : ∀ c, c.isDigit = false → ∀ tail, ds ++ rest ≠ c :: tail := by
      intro c hc tail heq
      obtain ⟨d, ds, rfl⟩ := List.exists_cons_of_ne_nil h.1
      cases heq
      rw [h.2 c List.mem_cons_self] at hc
      cases hc
    refine ⟨false, ?_⟩
    rw [List.nil_append, readSigned, hread]
    · rfl
    · exact hsign '-' rfl
    · exact hsign '+' rfl
  · refine ⟨false, ?_⟩
    rw [List.singleton_append, List.cons_append, readSigned, hread]
    rfl
  · refine ⟨true, ?_⟩
    rw [List.singleton_append, List.cons_append, readSigned, hread]
    rfl

theorem readExponent_append (he : Exponent es) (hr : Stops rest) :
    ∃ b ds, readExponent (es ++ rest) = .ok (b, ds, rest) := by
  cases he with
  | none =>
    refine ⟨false, [], ?_⟩
    rw [List.nil_append]
    cases rest with
    | nil => rfl
    | cons c rest =>
      obtain ⟨-, -, he, hE⟩ := hr c rfl
      rw [readExponent, if_neg (not_or.2 ⟨he, hE⟩)]
  | digits he hs h =>
    obtain ⟨b, hread⟩ := readSigned_append hs h fun c hc => (hr c hc).1
    exact ⟨b, _, (if_pos he).trans hread⟩

theorem read_append {cs : List Char} (h : Unsigned cs) (hr : Stops rest) :
    ∃ n, read (cs ++ rest) = .ok (n, rest) := by
  cases h with
  | @parts ws fs es hw hz hf he =>
    have hes := he.stops hr
    have hwhole : readWhole (ws ++ (fs ++ (es ++ rest))) = .ok (ws, fs ++ (es ++ rest)) := by
      apply readWhole_append hw.1 hw.2
      · exact fun hhead => congrArg List.length (hz hhead)
      · exact hf.stops fun c hc => (hes c hc).1
    obtain ⟨_, hfraction⟩ := readFraction_append hf hes
    obtain ⟨_, _, hexponent⟩ := readExponent_append he hr
    rw [List.append_assoc, List.append_assoc, read, hwhole]
    dsimp only
    rw [hfraction]
    dsimp only
    rw [hexponent]
    exact ⟨_, rfl⟩

end Numeral

theorem skipNumeral_append {cs rest : List Char} (h : Numeral.Unsigned cs)
    (hr : Numeral.Stops rest) : skipNumeral (cs ++ rest) = .ok rest := by
  obtain ⟨n, hn⟩ := Numeral.read_append h hr
  rw [skipNumeral, hn]

end TeenyFront.Json
