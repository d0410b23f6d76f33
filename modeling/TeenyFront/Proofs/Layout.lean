import TeenyFront.Proofs.Lines
import TeenyFront.Proofs.Pipeline
import TeenyFront.Proofs.WellFormed

/-!
# The layout of a source

A source is laid out in pieces, each a lexeme with the gap in front of it. The pieces of its tokens
follow one another without loss or overlap up to the end of the source or to the first error.
-/

set_option autoImplicit false

namespace TeenyFront

open Lexeme

structure Piece where
  gap : List Char
  lexeme : Lexeme

namespace Piece

def chars (x : Piece) : List Char := x.gap ++ x.lexeme.spelling

/-- A gap of blanks, with a comment in it only in front of a line feed. -/
structure WellFormed (x : Piece) : Prop where
  lexeme : x.lexeme.WellFormed
  gap : ∃ blanks comment, x.gap = blanks ++ comment ∧ (∀ c ∈ blanks, isBlank c = true) ∧
    (comment = [] ∨ x.lexeme.kind = .newline ∧ ∃ body, comment = '#' :: body ∧ '\n' ∉ body)

def token (x : Piece) (before : List Char) : Token :=
  ⟨x.lexeme.kind, x.lexeme.text, .behind (before ++ x.gap)⟩

end Piece

def written (xs : List Piece) : List Char := xs.flatMap Piece.chars

/-- The tokens of pieces that are written behind a text. -/
def placed (before : List Char) : List Piece → List Token
  | [] => []
  | x :: xs => x.token before :: placed (before ++ x.chars) xs

/-- Well-formed pieces with a text behind them, none of which could be longer. -/
def Tiles : List Piece → List Char → Prop
  | [], _ => True
  | x :: xs, rest => x.WellFormed ∧ x.lexeme.Longest (x.lexeme.spelling ++ (written xs ++ rest)) ∧
      Tiles xs rest

theorem written_cons (x : Piece) (xs : List Piece) : written (x :: xs) = x.chars ++ written xs :=
  List.flatMap_cons

theorem Lexeme.behind_comment {cs rest : List Char} (h : cs.dropWhile isBlank = '#' :: rest)
    (hm : '\n' ∈ cs) : ∃ tail, cs.drop (gap cs).length = '\n' :: tail := by
  have hg : gap cs = cs.takeWhile isBlank ++ '#' :: rest.takeWhile (· ≠ '\n') := by
    rw [gap, h, comment]
  have hs : cs = gap cs ++ rest.dropWhile (· ≠ '\n') := by
    conv => lhs; rw [← List.takeWhile_append_dropWhile (p := isBlank) (l := cs), h]
    rw [hg, List.append_assoc, List.cons_append, List.takeWhile_append_dropWhile]
  have hd : cs.drop (gap cs).length = rest.dropWhile (· ≠ '\n') := by
    have hd := gap_append_drop cs
    conv at hd => rhs; rw [hs]
    exact List.append_cancel_left hd
  have hn := mem_behind_gap hm
  have hf := rest.head?_dropWhile_not (· ≠ '\n')
  rw [hd] at hn ⊢
  cases hw : rest.dropWhile (· ≠ '\n') with
  | nil =>
    rw [hw] at hn
    cases hn
  | cons c tail =>
    rw [hw] at hf
    exact ⟨tail, by simpa using hf⟩

theorem Lexeme.piece_of_scan {cs : List Char} {l : Lexeme} (he : Ended cs)
    (h : scan (cs.drop (gap cs).length) = .ok l) : Piece.WellFormed ⟨gap cs, l⟩ := by
  refine ⟨scan_wellFormed h, _, _, rfl, ?_, ?_⟩
  · exact fun c hc => List.all_eq_true.1 List.all_takeWhile c hc
  · rcases comment_cases (cs.dropWhile isBlank) with hc | ⟨rest, hr, hc⟩
    · exact .inl hc
    · have hne : cs ≠ [] := by
        rintro rfl
        cases hr
      obtain ⟨tail, ht⟩ := behind_comment hr (he.mem hne)
      rw [ht] at h
      cases h
      refine .inr ⟨rfl, _, hc, fun hm => ?_⟩
      have hn := not_mem_comment (cs.dropWhile isBlank)
      rw [hc] at hn
      exact hn (List.mem_cons_of_mem _ hm)

namespace Cursor

theorem readToken_piece {c d : Cursor} {t : Token} (he : Ended c.rest)
    (h : c.readToken = (.ok t, d)) : ∃ x : Piece, x.WellFormed ∧
      t = ⟨x.lexeme.kind, x.lexeme.text, c.position.after x.gap⟩ ∧
      c.rest = x.chars ++ d.rest ∧ d.position = c.position.after x.chars ∧
      x.lexeme.Longest (x.lexeme.spelling ++ d.rest) := by
  rw [readToken, skipGap_eq] at h
  cases hs : scan (c.rest.drop (gap c.rest).length) with
  | error f =>
    rw [readLexeme_error hs] at h
    cases h
  | ok l =>
    obtain ⟨rest, hr⟩ := (scan_spelling hs).1
    rw [readLexeme_ok hs, forward_of_append hr.symm] at h
    cases h
    refine ⟨⟨gap c.rest, l⟩, piece_of_scan he hs, rfl, ?_, ?_, ?_⟩
    · rw [Piece.chars, List.append_assoc, hr, gap_append_drop]
    · rw [Piece.chars, Position.after_append]
    · rw [hr]
      exact scan_longest hs

/-- What is lexed from a cursor on is a row of pieces, and in front of what they leave stands the
error, if there is one. -/
theorem lex_tiles (c : Cursor) (he : Ended c.rest) (before : List Char)
    (hp : c.position = .behind before) : ∃ xs rest, c.rest = written xs ++ rest ∧
      c.lex.tokens = placed before xs ∧ Tiles xs rest ∧
      match c.lex.error? with
      | none => rest = []
      | some e => (readToken ⟨rest, .behind (before ++ written xs)⟩).1 = .error e := by
  induction c using lex_induction generalizing before with
  | error c e d hr =>
    rw [lex_error hr]
    refine ⟨[], c.rest, rfl, rfl, trivial, ?_⟩
    rw [written, List.flatMap_nil, List.append_nil, ← hp]
    exact congrArg Prod.fst hr
  | last c t d hr ht =>
    rw [lex_end hr ht]
    obtain ⟨x, hx, rfl, hc, -, hl⟩ := readToken_piece he hr
    rw [readToken_end hr ht] at hc hl
    refine ⟨[x], [], ?_, ?_, ⟨hx, hl, trivial⟩, rfl⟩
    · simpa [written] using hc
    · rw [hp, ← Position.behind_append]
      rfl
  | token c t d hr ht ih =>
    rw [lex_token hr ht]
    obtain ⟨x, hx, rfl, hc, hd, hl⟩ := readToken_piece he hr
    rw [hp, ← Position.behind_append] at hd
    obtain ⟨xs, rest, hs, hts, hxs, herror⟩ := ih (ended_readToken hr he) _ hd
    rw [hs] at hc hl
    refine ⟨x :: xs, rest, ?_, ?_, ⟨hx, hl, hxs⟩, ?_⟩
    · rw [hc, written_cons, List.append_assoc]
    · rw [hts, hp, ← Position.behind_append]
      rfl
    · rwa [written_cons, ← List.append_assoc]

end Cursor

/-- A source is the text of the pieces of its tokens, each well formed and as long as it can be,
and behind them nothing or what the error is in. A token stands behind the gap of its piece. -/
theorem lexing_tiles_source (source : String) :
    ∃ xs rest, Cursor.terminated source.toList = written xs ++ rest ∧
      (lexing source).tokens = placed [] xs ∧ Tiles xs rest ∧
      match (lexing source).error? with
      | none => rest = []
      | some e => (Cursor.readToken ⟨rest, .behind (written xs)⟩).1 = .error e :=
  Cursor.lex_tiles (.ofSource source) (.terminated _) [] rfl

end TeenyFront
