import TeenyFront.Json.Record
import TeenyFront.Proofs.JsonStrings

/-!
# Literals are read back

What is written for a character is one of the ways to spell it. So a literal is read back as its
text, whatever follows it. It holds no control character.
-/

set_option autoImplicit false

namespace TeenyFront.Json

/-- A character is written by its short form, by its number, or as it is. -/
inductive Escapes (c : Char) : List Char → Prop
  | short (d : Char) (hd : shortEscape? d = some c) (hu : d ≠ 'u') (hp : 0x20 ≤ d.toNat) :
      Escapes c ['\\', d]
  | control (hc : c.toNat < 0x20) :
      Escapes c ['\\', 'u', '0', '0', Nat.digitChar (c.toNat / 16), Nat.digitChar (c.toNat % 16)]
  | plain (hq : c ≠ '"') (hb : c ≠ '\\') (hp : 0x20 ≤ c.toNat) : Escapes c [c]

theorem escape_escapes (c : Char) : Escapes c (escape c) := by
  unfold escape
  split
  · exact .short '"' rfl (by decide) (by decide)
  · exact .short '\\' rfl (by decide) (by decide)
  · exact .short 'b' rfl (by decide) (by decide)
  · exact .short 'f' rfl (by decide) (by decide)
  · exact .short 'n' rfl (by decide) (by decide)
  · exact .short 'r' rfl (by decide) (by decide)
  · exact .short 't' rfl (by decide) (by decide)
  · split
    · exact .control ‹_›
    · exact .plain (by assumption) (by assumption) (Nat.le_of_not_lt ‹_›)

theorem Escapes.spells {c : Char} {cs : List Char} (h : Escapes c cs) : Spells c cs := by
  cases h with
  | short d hd hu hp => exact .short (shortEscape?_eq_some.1 hd)
  | plain hq hb hp => exact .plain hq hb hp
  | control hc =>
    have h0 : HexDigit 0 '0' := ⟨by decide, .inl rfl⟩
    have hdigit {n : Nat} (hn : n < 16) : HexDigit n (Nat.digitChar n) := ⟨hn, .inl rfl⟩
    have hunit := CodeUnit.digits h0 h0 (hdigit (show c.toNat / 16 < 16 by omega))
      (hdigit (show c.toNat % 16 < 16 by omega))
    have hn : ((0 * 16 + 0) * 16 + c.toNat / 16) * 16 + c.toNat % 16 = c.toNat := by omega
    rw [hn] at hunit
    exact .unit hunit

theorem spelled_escape (text : List Char) : Spelled text (text.flatMap escape) := by
  induction text with
  | nil => exact .nil
  | cons c text ih =>
    rw [List.flatMap_cons]
    exact .cons (escape_escapes c).spells ih

theorem quoted_literal (text : List Char) : Quoted text (literal text) :=
  .quotes (spelled_escape text)

/-! Control characters are never written for themselves. -/

def Printable (cs : List Char) : Prop := ∀ c ∈ cs, 0x20 ≤ c.toNat

instance (cs : List Char) : Decidable (Printable cs) :=
  decidable_of_iff (cs.all fun c => 0x20 ≤ c.toNat) (by simp [Printable])

theorem Printable.append {cs ds : List Char} (hc : Printable cs) (hd : Printable ds) :
    Printable (cs ++ ds) := by
  intro c h
  rcases List.mem_append.1 h with h | h
  · exact hc c h
  · exact hd c h

theorem Printable.flatMap {α : Type} {as : List α} {f : α → List Char}
    (h : ∀ a, Printable (f a)) : Printable (as.flatMap f) := by
  intro c hc
  obtain ⟨a, -, hc⟩ := List.mem_flatMap.1 hc
  exact h a c hc

theorem digitChar_toNat_ge {n : Nat} (h : n < 16) : 0x20 ≤ (Nat.digitChar n).toNat := by
  revert n
  decide

theorem printable_escape (c : Char) : Printable (escape c) := by
  have h := escape_escapes c
  generalize escape c = cs at h
  have hb : Printable ['\\'] := by decide
  cases h with
  | short d hd hu hp =>
    apply hb.append
    intro e he
    rw [List.mem_singleton.1 he]
    exact hp
  | control hc =>
    have hu : Printable ['\\', 'u', '0', '0'] := by decide
    apply hu.append
    intro e he
    simp only [List.mem_cons, List.not_mem_nil, or_false] at he
    rcases he with rfl | rfl
    · exact digitChar_toNat_ge (by omega)
    · exact digitChar_toNat_ge (by omega)
  | plain hq hb' hp =>
    intro e he
    rw [List.mem_singleton.1 he]
    exact hp

theorem printable_literal (text : List Char) : Printable (literal text) := by
  have hq : Printable ['"'] := by decide
  exact hq.append ((Printable.flatMap printable_escape).append hq)

end TeenyFront.Json
