import TeenyFront.Proofs.JsonText
import TeenyFront.Json.Reader

/-!
# Records are read back

A reader of flat objects, whose members are texts and natural numbers in any layout. It gives back
every record from its compact form, with its fields in their order.
-/

set_option autoImplicit false

namespace TeenyFront.Json



def readScalar (cs : List Char) : Except Defect (Scalar × List Char) :=
  match skipBlank cs with
  | [] => .error .incomplete
  | c :: rest =>
    if c = '"' then (readText rest).map fun (text, rest) => (.text (String.ofList text), rest)
    else (Numeral.readWhole (c :: rest)).map fun (digits, rest) =>
      (.number (Nat.ofDigitChars 10 digits 0), rest)

def readField (cs : List Char) : Except Defect ((String × Scalar) × Bool × List Char) := do
  let (name, cs) ← readName cs
  let cs ← readColon cs
  let (value, cs) ← readScalar cs
  let (more, cs) ← readSeparator '\x7d' cs
  return ((String.ofList name, value), more, cs)

theorem readScalar_length {cs rest : List Char} {v : Scalar}
    (h : readScalar cs = .ok (v, rest)) : rest.length < cs.length := by
  unfold readScalar at h
  split at h
  · cases h
  · rename_i c tail hs
    have hlt := length_of_skipBlank hs
    split at h
    · obtain ⟨⟨text, _⟩, ht, he⟩ := map_ok h
      cases he
      exact Nat.lt_trans (readText_length ht) hlt
    · obtain ⟨⟨digits, _⟩, hd, he⟩ := map_ok h
      cases he
      exact Nat.lt_of_lt_of_le (Numeral.readWhole_length hd) hlt

theorem readField_length {cs rest : List Char} {f : String × Scalar} {more : Bool}
    (h : readField cs = .ok (f, more, rest)) : rest.length < cs.length := by
  unfold readField at h
  obtain ⟨⟨_, cs₁⟩, h₁, h⟩ := bind_ok h
  obtain ⟨cs₂, h₂, h⟩ := bind_ok h
  obtain ⟨⟨_, cs₃⟩, h₃, h⟩ := bind_ok h
  obtain ⟨⟨_, cs₄⟩, h₄, h⟩ := bind_ok h
  cases h
  have := readName_length h₁
  have := readColon_length h₂
  have := readScalar_length h₃
  have := readSeparator_length h₄
  omega

def readRecord (cs : List Char) : Except Defect (Record × List Char) :=
  match _h : readField cs with
  | .error d => .error d
  | .ok (f, false, rest) => .ok ([f], rest)
  | .ok (f, true, rest) => (readRecord rest).map fun (r, rest) => (f :: r, rest)
termination_by cs.length
decreasing_by exact readField_length _h

def Record.parse (text : String) : Except Defect Record := do
  let rest ← readCloser '\x7b' text.toList
  let (r, rest) ←
    match skipBlank rest with
    | '\x7d' :: rest => .ok ([], rest)
    | _ => readRecord rest
  match skipBlank rest with
  | [] => return r
  | _ => .error .malformed

/-! Each part of a compact record is read back, and what follows it is left. -/

theorem skipBlank_cons {c : Char} (hc : isBlank c = false) (cs : List Char) :
    skipBlank (c :: cs) = c :: cs := by
  rw [skipBlank, List.dropWhile_cons_of_neg (Bool.eq_false_iff.1 hc)]

theorem readName_quoted {name cs : List Char} (h : Quoted name cs) (rest : List Char) :
    readName (cs ++ rest) = .ok (name, rest) := by
  obtain ⟨tail, heq, hread, -⟩ := h.read rest
  rw [heq, readName, skipBlank_cons rfl]
  exact hread

theorem readName_literal (name rest : List Char) :
    readName (literal name ++ rest) = .ok (name, rest) := readName_quoted (quoted_literal name) rest

theorem ok_bind {ε α β : Type} (a : α) (f : α → Except ε β) : (Except.ok a >>= f) = f a := rfl

theorem readColon_colon (rest : List Char) : readColon (':' :: rest) = .ok rest := rfl

theorem readSeparator_comma (rest : List Char) :
    readSeparator '\x7d' (',' :: rest) = .ok (true, rest) := rfl

theorem readSeparator_brace (rest : List Char) :
    readSeparator '\x7d' ('\x7d' :: rest) = .ok (false, rest) := rfl

theorem digitChar_ne_zero {n : Nat} (h : n < 10) (hn : n ≠ 0) : Nat.digitChar n ≠ '0' := by
  revert n
  decide

theorem head?_toDigits {n : Nat} (h : n ≠ 0) : (Nat.toDigits 10 n).head? ≠ some '0' := by
  induction n using Nat.strongRecOn with
  | ind n ih =>
    -- The first digit of a longer numeral is that of the number without its last digit.
    by_cases hn : n < 10
    · rw [Nat.toDigits_of_lt_base hn]
      exact fun he => digitChar_ne_zero hn h (Option.some.inj he)
    · have hle : 10 ≤ n := Nat.le_of_not_lt hn
      have hhead := ih (n / 10) (by omega) (by omega)
      rw [Nat.toDigits_of_base_le (by decide) hle]
      cases hd : Nat.toDigits 10 (n / 10) with
      | nil => exact absurd hd Nat.toDigits_ne_nil
      | cons d ds =>
        rw [hd] at hhead
        exact hhead

theorem readDigits_append {ds rest : List Char} (hne : ds ≠ [])
    (hd : ∀ d ∈ ds, d.isDigit = true) (hr : ∀ c ∈ rest.head?, c.isDigit = false) :
    Numeral.readDigits (ds ++ rest) = .ok (ds, rest) := by
  have hrest : rest.takeWhile Char.isDigit = [] ∧ rest.dropWhile Char.isDigit = rest := by
    cases rest with
    | nil => exact ⟨rfl, rfl⟩
    | cons c rest =>
      have hc : ¬c.isDigit = true := Bool.eq_false_iff.1 (hr c rfl)
      exact ⟨List.takeWhile_cons_of_neg hc, List.dropWhile_cons_of_neg hc⟩
  have ht : (ds ++ rest).takeWhile Char.isDigit = ds := by
    rw [List.takeWhile_append_of_pos hd, hrest.1, List.append_nil]
  have hs : (ds ++ rest).dropWhile Char.isDigit = rest := by
    rw [List.dropWhile_append_of_pos hd, hrest.2]
  cases ds with
  | nil => contradiction
  | cons d ds =>
    rw [List.cons_append] at ht hs ⊢
    rw [Numeral.readDigits, if_pos (hd d List.mem_cons_self), ht, hs]

theorem readWhole_append {ds rest : List Char} (hne : ds ≠ [])
    (hd : ∀ d ∈ ds, d.isDigit = true) (hz : ds.head? = some '0' → ds.length = 1)
    (hr : ∀ c ∈ rest.head?, c.isDigit = false) :
    Numeral.readWhole (ds ++ rest) = .ok (ds, rest) := by
  rw [Numeral.readWhole, readDigits_append hne hd hr]
  exact if_neg fun ⟨hhead, hlength⟩ => hlength (hz hhead)

theorem readWhole_toDigits (n : Nat) {c : Char} (hc : c.isDigit = false) (rest : List Char) :
    Numeral.readWhole (Nat.toDigits 10 n ++ c :: rest) = .ok (Nat.toDigits 10 n, c :: rest) := by
  have hd : ∀ d ∈ Nat.toDigits 10 n, d.isDigit = true := fun d =>
    Nat.isDigit_of_mem_toDigits (by decide) (by decide)
  apply readWhole_append Nat.toDigits_ne_nil hd
  · intro hhead
    by_cases hn : n = 0
    · rw [hn]
      rfl
    · exact absurd hhead (head?_toDigits hn)
  · intro d hd
    cases hd
    exact hc

theorem isBlank_digit {d : Char} (h : d.isDigit = true) : isBlank d = false := by
  rw [← Bool.not_eq_true]
  intro hb
  simp only [isBlank, Bool.or_eq_true, decide_eq_true_eq] at hb
  rcases hb with ((rfl | rfl) | rfl) | rfl
  all_goals cases h

theorem readScalar_text (text : String) (rest : List Char) :
    readScalar (literal text.toList ++ rest) = .ok (.text text, rest) := by
  obtain ⟨tail, heq, hread, -⟩ := (quoted_literal text.toList).read rest
  rw [heq, readScalar, skipBlank_cons rfl]
  simp only [if_pos, hread]
  rw [Except.map, String.ofList_toList]

theorem readScalar_number (n : Nat) {c : Char} (hc : c.isDigit = false) (rest : List Char) :
    readScalar (Nat.toDigits 10 n ++ c :: rest) = .ok (.number n, c :: rest) := by
  have hw := readWhole_toDigits n hc rest
  cases hd : Nat.toDigits 10 n with
  | nil => exact absurd hd Nat.toDigits_ne_nil
  | cons d ds =>
    have hdigit : d.isDigit = true :=
      Nat.isDigit_of_mem_toDigits (by decide) (by decide) (hd ▸ List.mem_cons_self)
    have hblank : isBlank d = false := isBlank_digit hdigit
    have hquote : d ≠ '"' := by
      rintro rfl
      cases hdigit
    rw [hd] at hw
    rw [List.cons_append, readScalar, skipBlank_cons hblank]
    simp only [if_neg hquote]
    rw [← List.cons_append, hw, Except.map, ← hd, Nat.ofDigitChars_toDigits (by decide) (by decide)]

theorem readScalar_render (v : Scalar) {c : Char} (hc : c.isDigit = false) (rest : List Char) :
    readScalar (v.render ++ c :: rest) = .ok (v, c :: rest) := by
  cases v with
  | text s => exact readScalar_text s (c :: rest)
  | number n => exact readScalar_number n hc rest

theorem readField_field (f : String × Scalar) {c : Char} {more : Bool} (hc : c.isDigit = false)
    {rest : List Char} (hs : readSeparator '\x7d' (c :: rest) = .ok (more, rest)) :
    readField (Record.field [':'] f ++ c :: rest) = .ok (f, more, rest) := by
  have he : Record.field [':'] f ++ c :: rest =
      literal f.1.toList ++ ':' :: (f.2.render ++ c :: rest) := by
    simp [Record.field]
  rw [he, readField, readName_literal, ok_bind]
  dsimp only
  rw [readColon_colon, ok_bind, readScalar_render f.2 hc, ok_bind]
  dsimp only
  rw [hs, ok_bind, String.ofList_toList]
  rfl

theorem readRecord_eq {f : String × Scalar} {cs rest : List Char} {more : Bool}
    (h : readField cs = .ok (f, more, rest)) : readRecord cs =
      if more then (readRecord rest).map fun (r, rest) => (f :: r, rest)
      else .ok ([f], rest) := by
  rw [readRecord]
  split <;> simp_all

theorem readRecord_fields (f : String × Scalar) (r : Record) (rest : List Char) :
    readRecord (List.intercalate [','] ((f :: r).map (Record.field [':'])) ++ '\x7d' :: rest) =
      .ok (f :: r, rest) := by
  induction r generalizing f with
  | nil =>
    rw [List.map_singleton, List.intercalate_singleton]
    exact readRecord_eq (readField_field f rfl (readSeparator_brace rest))
  | cons g r ih =>
    have he : List.intercalate [','] ((f :: g :: r).map (Record.field [':'])) ++ '\x7d' :: rest =
        Record.field [':'] f ++ ',' ::
          (List.intercalate [','] ((g :: r).map (Record.field [':'])) ++ '\x7d' :: rest) := by
      rw [List.map_cons, List.map_cons, List.intercalate_cons_cons, ← List.map_cons]
      simp
    rw [he, readRecord_eq (readField_field f rfl (readSeparator_comma _)), if_pos rfl, ih]
    rfl

theorem fields_begin (f : String × Scalar) (r : Record) :
    ∃ cs, List.intercalate [','] ((f :: r).map (Record.field [':'])) = '"' :: cs := by
  cases r with
  | nil =>
    rw [List.map_singleton, List.intercalate_singleton]
    exact ⟨_, rfl⟩
  | cons g r =>
    rw [List.map_cons, List.map_cons, List.intercalate_cons_cons]
    exact ⟨_, rfl⟩

/-- A record is read back from its compact form. -/
theorem parse_compact (r : Record) : Record.parse r.compact = .ok r := by
  rw [Record.parse, Record.compact, String.toList_ofList]
  have hb : readCloser '\x7b'
      ('\x7b' :: (List.intercalate [','] (r.map (Record.field [':'])) ++ ['\x7d'])) =
        .ok (List.intercalate [','] (r.map (Record.field [':'])) ++ ['\x7d']) := rfl
  rw [hb]
  cases r with
  | nil => rfl
  | cons f r =>
    have hr := readRecord_fields f r []
    obtain ⟨cs, hs⟩ := fields_begin f r
    rw [hs] at hr ⊢
    show (do
      let (r, rest) ← readRecord ('"' :: cs ++ ['\x7d'])
      match skipBlank rest with
      | [] => return r
      | _ => .error .malformed) = _
    rw [hr]
    rfl

/-! The compact form of a record fits on a line. -/

theorem Printable.intercalate {separator : List Char} {pieces : List (List Char)}
    (hs : Printable separator) (hp : ∀ piece ∈ pieces, Printable piece) :
    Printable (List.intercalate separator pieces) := by
  induction pieces with
  | nil => exact nofun
  | cons piece pieces ih =>
    have hfirst := hp piece List.mem_cons_self
    have hrest := ih fun p h => hp p (List.mem_cons_of_mem _ h)
    cases pieces with
    | nil =>
      rw [List.intercalate_singleton]
      exact hfirst
    | cons next pieces =>
      rw [List.intercalate_cons_cons]
      exact (hfirst.append hs).append hrest

theorem printable_render (v : Scalar) : Printable v.render := by
  cases v with
  | text s => exact printable_literal s.toList
  | number n =>
    intro d hd
    have hdigit : d.isDigit = true := Nat.isDigit_of_mem_toDigits (by decide) (by decide) hd
    simp only [Char.isDigit, Bool.and_eq_true, decide_eq_true_eq] at hdigit
    have hle : (48 : UInt32).toNat ≤ d.val.toNat := hdigit.1
    exact Nat.le_trans (by decide) hle

theorem printable_compact (r : Record) : Printable r.compact.toList := by
  rw [Record.compact, String.toList_ofList]
  have hopen : Printable ['\x7b'] := by decide
  have hclose : Printable ['\x7d'] := by decide
  have hcomma : Printable [','] := by decide
  have hcolon : Printable [':'] := by decide
  have hfields : Printable (List.intercalate [','] (r.map (Record.field [':']))) := by
    apply hcomma.intercalate
    intro piece hpiece
    obtain ⟨f, -, rfl⟩ := List.mem_map.1 hpiece
    exact ((printable_literal f.1.toList).append hcolon).append (printable_render f.2)
  exact hopen.append (hfields.append hclose)

end TeenyFront.Json
