import TeenyFront.Proofs.Faults

/-!
# The end of a source

A source ends in a line feed, and what is left of it behind any cursor does so too. Strings and
comments stop in front of a line feed and a character looks ahead by one, so none of them runs into
the end of the source. There the end token is read, and only there. The token in front of it is the
last line feed.
-/

set_option autoImplicit false

namespace TeenyFront

open Lexeme

theorem Lexeme.Faulty.cause_within {front back : List Char} {cause : LexicalCause}
    (h : Faulty front back cause) : cause ≠ .openString ∧ cause ≠ .loneExclamation none := by
  cases h with
  | exclamation hd => exact ⟨nofun, nofun⟩
  | string hb hc hq => exact ⟨nofun, nofun⟩
  | number hds hd => exact ⟨nofun, nofun⟩
  | stray hc hd ha => exact ⟨nofun, nofun⟩

theorem Piece.WellFormed.line_gap {x : Piece} (h : x.WellFormed) : '\n' ∉ x.gap := by
  obtain ⟨blanks, comment, hg, hb, hc⟩ := h.gap
  have hblanks : '\n' ∉ blanks := fun hm => absurd (hb _ hm) (by decide)
  rw [hg, List.mem_append, not_or]
  refine ⟨hblanks, ?_⟩
  rcases hc with rfl | ⟨-, body, rfl, hn⟩
  · exact List.not_mem_nil
  · exact List.not_mem_cons_of_ne_of_not_mem (by decide) hn

namespace Cursor

section

variable {c : Cursor} (he : Ended c.rest)

include he

theorem skipGap_comment {blanks body : List Char} (hr : c.rest = blanks ++ '#' :: body)
    (hb : ∀ b ∈ blanks, isBlank b = true) : ∃ comment behind, body = comment ++ '\n' :: behind ∧
      '\n' ∉ comment ∧ c.skipGap.rest = '\n' :: behind := by
  have hd : c.rest.dropWhile isBlank = '#' :: body := by
    rw [hr, List.dropWhile_append_of_pos hb]
    rfl
  have ht : c.rest.takeWhile isBlank = blanks := by
    rw [hr, List.takeWhile_append_of_pos hb]
    exact List.append_nil blanks
  have hm : '\n' ∈ c.rest := he.mem (by simp [hr])
  obtain ⟨behind, hbehind⟩ := behind_comment hd hm
  have hgap : gap c.rest = blanks ++ '#' :: body.takeWhile (· ≠ '\n') := by
    rw [gap, ht, hd, comment]
  refine ⟨body.takeWhile (· ≠ '\n'), behind, ?_, takeWhile_line (by decide) body, ?_⟩
  · have hs := gap_append_drop c.rest
    rw [hbehind, hgap] at hs
    conv at hs => rhs; rw [hr]
    rw [List.append_assoc] at hs
    exact ((List.cons.inj (List.append_cancel_left hs)).2).symm
  · rw [skipGap_eq]
    exact hbehind

theorem readToken_end_iff :
    (∃ t, c.readToken.1 = .ok t ∧ t.kind = .eof) ↔ c.rest = [] := by
  constructor
  · rintro ⟨t, hr, ht⟩
    exact rest_of_end he (Prod.ext hr rfl) ht
  · intro hr
    rw [readToken_nil hr]
    exact ⟨_, rfl, rfl⟩

theorem newline_of_last {d : Cursor} {t : Token} (h : c.readToken = (.ok t, d))
    (hd : d.rest = []) (ht : t.kind ≠ .eof) : t.kind = .newline := by
  have hm := mem_of_token he h ht
  obtain ⟨x, hx, rfl, hc, -, -⟩ := readToken_piece he h
  rw [hc, hd, List.append_nil, Piece.chars, List.mem_append] at hm
  exact Decidable.byContradiction fun hk =>
    hx.lexeme.line_spelling hk (hm.resolve_left hx.line_gap)

theorem lex_newline_last (hne : c.rest ≠ []) (h : c.lex.error? = none) :
    ∃ ts n t, c.lex.tokens = ts ++ [n, t] ∧ n.kind = .newline ∧ t.kind = .eof := by
  induction c using lex_induction with
  | error c e d hr =>
    rw [lex_error hr] at h
    cases h
  | last c t d hr ht => exact absurd (rest_of_end he hr ht) hne
  | token c t d hr ht ih =>
    rw [lex_token hr ht] at h ⊢
    by_cases hd : d.rest = []
    · have hn := newline_of_last he hr hd ht
      rw [lex_end (readToken_nil hd) rfl]
      exact ⟨[], t, _, rfl, hn, rfl⟩
    · obtain ⟨ts, n, u, hts, hn, hu⟩ := ih (ended_readToken hr he) hd h
      exact ⟨t :: ts, n, u, by rw [hts, List.cons_append], hn, hu⟩

end

theorem terminated_ne_nil (source : List Char) : terminated source ≠ [] := by
  intro h
  have hl := terminated_getLast? source
  rw [h] at hl
  cases hl

end Cursor

theorem Position.behind_terminated (source : List Char) :
    behind (Cursor.terminated source) = ⟨1 + (Cursor.terminated source).count '\n', 1⟩ :=
  behind_line (Cursor.terminated_getLast? source)

namespace TokenStream

/-- How reading meets the end of a text: no error is due to it, no comment comes to it, and the end
token is read there and only there, at the beginning of a line. -/
structure MeetsEnd (s : TokenStream) (text : List Char) : Prop where
  error : ∀ e, s.readToken.1 = .error e → e.cause ≠ .openString ∧ e.cause ≠ .loneExclamation none
  comment : ∀ blanks body, s.cursor.rest = blanks ++ '#' :: body →
    (∀ b ∈ blanks, b ∈ [' ', '\t', '\r']) → ∃ comment behind,
      body = comment ++ '\n' :: behind ∧ '\n' ∉ comment ∧ s.cursor.skipGap.rest = '\n' :: behind
  ending : (∃ t, s.readToken.1 = .ok t ∧ t.kind = .eof) ↔ s.cursor.current? = none
  position : ∀ t, s.readToken.1 = .ok t → t.kind = .eof → t.position = ⟨1 + text.count '\n', 1⟩

theorem script_meetsEnd (source : String) (steps : List Step) :
    ((ofSource source).script steps).MeetsEnd (Cursor.terminated source.toList) := by
  obtain ⟨before, hs, hp, he⟩ := script_behind source steps
  generalize (ofSource source).script steps = s at hs hp he ⊢
  refine ⟨fun e hr => ?_, fun blanks body hr hb => ?_, ?_, fun t hr ht => ?_⟩
  · obtain ⟨front, back, -, hf, -⟩ := (readToken_error_iff he hp e _).1 (Prod.ext hr rfl)
    exact hf.cause_within
  · exact Cursor.skipGap_comment he hr fun b hm => (isBlank_iff b).2 (hb b hm)
  · rw [Cursor.current?, List.head?_eq_none_iff]
    exact Cursor.readToken_end_iff he
  · have hn := (Cursor.readToken_end_iff he).1 ⟨t, hr, ht⟩
    have hread : s.readToken.1 = .ok ⟨.eof, "", s.cursor.position⟩ :=
      congrArg Prod.fst (Cursor.readToken_nil hn)
    rw [hr] at hread
    cases hread
    rw [hn, List.append_nil] at hs
    rw [hp, ← hs, Position.behind_terminated]

/-- Wherever a script leads, no string, comment or operator runs into the end of the source, and the
end token stands behind its last line. If the source can be lexed, the token in front of the end
token is a line feed. -/
theorem script_ends (source : String) (steps : List Step) :
    ((ofSource source).script steps).MeetsEnd (Cursor.terminated source.toList) ∧
      ((lexing source).error? = none → ∃ ts n t, (lexing source).tokens = ts ++ [n, t] ∧
        (∀ u ∈ ts, u.kind ≠ .eof) ∧ n.kind = .newline ∧ t.kind = .eof) := by
  refine ⟨script_meetsEnd source steps, fun h => ?_⟩
  have he : Ended (Cursor.ofSource source).rest := .terminated source.toList
  obtain ⟨ts, n, t, hts, hn, ht⟩ :=
    Cursor.lex_newline_last he (Cursor.terminated_ne_nil source.toList) h
  refine ⟨ts, n, t, hts, fun u hu hk => ?_, hn, ht⟩
  obtain ⟨vs, ws, rfl⟩ := List.append_of_mem hu
  rw [List.append_assoc, List.cons_append] at hts
  simpa using (Cursor.lex_behind_end _ hts hk).1

end TokenStream

end TeenyFront
