import TeenyFront.Lexeme
import TeenyFront.Token

/-!
# Cursors

A cursor stands between the read and the unread part of a source text. A source always ends in a
line feed; one that lacks it gets it. Reading a token skips the gap in front of it and leaves the
cursor behind it, or on the character that shows the error.
-/

set_option autoImplicit false

namespace TeenyFront

open Text Lexeme

structure Cursor where
  rest : List Char
  position : Position
  deriving DecidableEq, Repr

namespace Cursor

def terminated (source : List Char) : List Char :=
  if source.getLast? = some '\n' then source else source ++ ['\n']

def ofSource (source : String) : Cursor := ⟨terminated source.toList, .start⟩

def current? (c : Cursor) : Option Char := c.rest.head?

def following? (c : Cursor) : Option Char := c.rest.tail.head?

/-- Past so many characters, or at the end of the source. -/
def forward (c : Cursor) (n : Nat) : Cursor :=
  ⟨c.rest.drop n, c.position.after (c.rest.take n)⟩

def skipGap (c : Cursor) : Cursor := c.forward (gap c.rest).length

def readLexeme (c : Cursor) : Except LexicalError Token × Cursor :=
  match scan c.rest with
  | .ok l => (.ok ⟨l.kind, l.text, c.position⟩, c.forward l.spelling.length)
  | .error f => (.error ⟨f.cause, (c.forward f.offset).position⟩, c.forward f.offset)

/-- The next token or error, and the cursor after it. At the end of the source each reading gives
the end token again. -/
def readToken (c : Cursor) : Except LexicalError Token × Cursor := c.skipGap.readLexeme

theorem terminated_getLast? (source : List Char) :
    (terminated source).getLast? = some '\n' := by
  unfold terminated
  split
  · assumption
  · simp

theorem forward_forward (c : Cursor) (m n : Nat) :
    (c.forward m).forward n = c.forward (m + n) := by
  simp [forward, List.drop_drop, List.take_add, Position.after_append]

theorem length_forward (c : Cursor) (n : Nat) :
    (c.forward n).rest.length = c.rest.length - n := by
  simp [forward]

theorem readLexeme_ok {c : Cursor} {l : Lexeme} (h : scan c.rest = .ok l) :
    c.readLexeme = (.ok ⟨l.kind, l.text, c.position⟩, c.forward l.spelling.length) := by
  simp [readLexeme, h]

theorem readLexeme_error {c : Cursor} {f : Fault} (h : scan c.rest = .error f) :
    c.readLexeme = (.error ⟨f.cause, (c.forward f.offset).position⟩, c.forward f.offset) := by
  simp [readLexeme, h]

theorem readLexeme_length_le (c : Cursor) : c.readLexeme.2.rest.length ≤ c.rest.length := by
  cases h : scan c.rest with
  | ok l =>
    rw [readLexeme_ok h, length_forward]
    omega
  | error f =>
    rw [readLexeme_error h, length_forward]
    omega

theorem readToken_length_le (c : Cursor) : c.readToken.2.rest.length ≤ c.rest.length := by
  refine Nat.le_trans (readLexeme_length_le _) ?_
  rw [skipGap, length_forward]
  omega

theorem readToken_length_lt {c : Cursor} {t : Token} (h : c.readToken.1 = .ok t)
    (ht : t.kind ≠ .eof) : c.readToken.2.rest.length < c.rest.length := by
  unfold readToken at h ⊢
  cases hs : scan c.skipGap.rest with
  | error f =>
    rw [readLexeme_error hs] at h
    cases h
  | ok l =>
    rw [readLexeme_ok hs] at h ⊢
    cases h
    obtain ⟨hp, hne⟩ := scan_spelling hs
    have hpos := List.length_pos_iff.2 (hne ht)
    have hle := hp.length_le
    rw [skipGap, length_forward] at hle
    rw [skipGap, forward_forward, length_forward]
    omega

section

variable {c d : Cursor}

theorem length_le_of_read {r : Except LexicalError Token} (h : c.readToken = (r, d)) :
    d.rest.length ≤ c.rest.length := by
  have hle := c.readToken_length_le
  rwa [h] at hle

theorem length_lt_of_token {t : Token} (h : c.readToken = (.ok t, d)) (ht : t.kind ≠ .eof) :
    d.rest.length < c.rest.length := by
  have hlt := readToken_length_lt (c := c) (t := t) (by rw [h]) ht
  rwa [h] at hlt

theorem weight_le_of_token {t : Token} (h : c.readToken = (.ok t, d)) :
    (if t.kind = .eof then 0 else 1) + d.rest.length ≤ c.rest.length := by
  by_cases ht : t.kind = .eof
  · rw [if_pos ht, Nat.zero_add]
    exact length_le_of_read h
  · rw [if_neg ht, Nat.add_comm]
    exact length_lt_of_token h ht

end

end Cursor

end TeenyFront
