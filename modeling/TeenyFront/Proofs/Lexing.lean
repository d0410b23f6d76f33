import TeenyFront.TokenStream

/-!
# Lexing to the end

The end token comes last and only at the end of the source. Lexing a source either ends with it or
with an error, never with both.
-/

set_option autoImplicit false

namespace TeenyFront

namespace Lexeme

theorem operator_kind (c : Char) (single double : Kind) (rest : List Char) :
    (operator c single double rest).kind = single ∨
      (operator c single double rest).kind = double := by
  unfold operator
  split
  · exact .inr rfl
  · exact .inl rfl

theorem scan_end {cs : List Char} {l : Lexeme} (h : scan cs = .ok l) (hk : l.kind = .eof) :
    cs = [] := by
  cases scanned h with
  | ending => rfl
  | newline | plus | minus | asterisk | slash | notEqual => cases hk
  | assign | greater | less =>
    rcases operator_kind _ _ _ _ with ho | ho <;> rw [ho] at hk <;> cases hk
  | string hr =>
    rw [(scanString_spelling hr).1] at hk
    cases hk
  | number hd hr =>
    rw [(scanNumber_spelling hr).1] at hk
    cases hk
  | word ha => exact absurd hk (word_kind _).2

end Lexeme

namespace Cursor

open Lexeme

theorem readToken_end {c d : Cursor} {t : Token} (h : c.readToken = (.ok t, d))
    (ht : t.kind = .eof) : d.rest = [] := by
  unfold readToken at h
  cases hs : scan c.skipGap.rest with
  | error f =>
    rw [readLexeme_error hs] at h
    cases h
  | ok l =>
    rw [readLexeme_ok hs] at h
    cases h
    simp [forward, scan_end hs ht]

theorem readToken_nil {c : Cursor} (h : c.rest = []) :
    c.readToken = (.ok ⟨.eof, "", c.position⟩, c) := by
  obtain ⟨rest, position⟩ := c
  subst h
  rfl

theorem lex_induction {motive : Cursor → Prop}
    (error : ∀ c e d, c.readToken = (.error e, d) → motive c)
    (last : ∀ c t d, c.readToken = (.ok t, d) → t.kind = .eof → motive c)
    (token : ∀ c t d, c.readToken = (.ok t, d) → t.kind ≠ .eof → motive d → motive c)
    (c : Cursor) : motive c := by
  generalize hn : c.rest.length = n
  induction n using Nat.strongRecOn generalizing c with
  | ind n ih =>
    rcases hr : c.readToken with ⟨r, d⟩
    cases r with
    | error e => exact error c e d hr
    | ok t =>
      by_cases ht : t.kind = .eof
      · exact last c t d hr ht
      · have hlt := length_lt_of_token hr ht
        rw [hn] at hlt
        exact token c t d hr ht (ih _ hlt d rfl)

/-- Nothing comes behind the end token, and no error either. -/
theorem lex_behind_end (c : Cursor) {ts us : List Token} {t : Token}
    (h : c.lex.tokens = ts ++ t :: us) (ht : t.kind = .eof) : us = [] ∧ c.lex.error? = none := by
  induction c using lex_induction generalizing ts with
  | error c e d hr =>
    rw [lex_error hr] at h
    simp at h
  | last c u d hr hu =>
    rw [lex_end hr hu] at h ⊢
    cases ts with
    | nil => exact ⟨(List.cons.inj h).2.symm, rfl⟩
    | cons v vs => simp at h
  | token c u d hr hu ih =>
    rw [lex_token hr hu] at h ⊢
    cases ts with
    | nil =>
      obtain ⟨rfl, -⟩ := List.cons.inj h
      exact absurd ht hu
    | cons v vs => exact ih (List.cons.inj h).2

theorem lex_reaches_end (c : Cursor) (h : c.lex.error? = none) :
    ∃ t ∈ c.lex.tokens, t.kind = .eof := by
  induction c using lex_induction with
  | error c e d hr =>
    rw [lex_error hr] at h
    cases h
  | last c t d hr ht =>
    rw [lex_end hr ht]
    exact ⟨t, List.mem_singleton.2 rfl, ht⟩
  | token c t d hr ht ih =>
    rw [lex_token hr ht] at h ⊢
    obtain ⟨u, hu, hk⟩ := ih h
    exact ⟨u, List.mem_cons_of_mem _ hu, hk⟩

theorem lex_ends (c : Cursor) (h : c.lex.error? = none) :
    ∃ ts t, c.lex.tokens = ts ++ [t] ∧ t.kind = .eof := by
  obtain ⟨t, ht, hk⟩ := lex_reaches_end c h
  obtain ⟨ts, us, hs⟩ := List.append_of_mem ht
  obtain ⟨rfl, -⟩ := lex_behind_end c hs hk
  exact ⟨ts, t, hs, hk⟩

end Cursor

namespace Lexing

theorem result_eq_ok {l : Lexing} {ts : List Token} :
    l.result = .ok ts ↔ l.error? = none ∧ l.tokens = ts := by
  unfold result
  split <;> simp_all

theorem result_eq_error {l : Lexing} {e : LexicalError} :
    l.result = .error e ↔ l.error? = some e := by
  unfold result
  split <;> simp_all

end Lexing

end TeenyFront
