import TeenyFront.Proofs.Lines
import TeenyFront.Proofs.Pipeline
import TeenyFront.Proofs.Translation
import TeenyFront.Proofs.WellFormed

/-!
# Line ends

A line may end in a carriage return and a line feed as well as in a line feed alone. The return is
a blank in front of the feed, or part of a comment, or what an error shows in place of the feed. So
the two forms of a source have the same tokens, each line feed a column further to the right in the
longer one, and the same trace.
-/

set_option autoImplicit false

namespace TeenyFront

def returnFor (c : Char) : Char := if c = '\n' then '\r' else c

def crlfChars (cs : List Char) : List Char :=
  cs.flatMap fun c => if c = '\n' then ['\r', '\n'] else [c]

def crlf (source : String) : String := String.ofList (crlfChars source.toList)

def lineFeeds (source : String) : Nat := source.toList.count '\n'

/-- Only so many line feeds get a return. -/
def crlfFirst : Nat → List Char → List Char
  | 0, cs => cs
  | _ + 1, [] => []
  | n + 1, c :: cs => if c = '\n' then '\r' :: '\n' :: crlfFirst n cs else c :: crlfFirst (n + 1) cs

section

variable {c : Char} {cs : List Char}

@[simp] theorem crlfFirst_nil (n : Nat) : crlfFirst n [] = [] := by
  cases n <;> rfl

@[simp] theorem crlfFirst_zero (cs : List Char) : crlfFirst 0 cs = cs := by
  cases cs <;> rfl

theorem crlfFirst_feed (n : Nat) (cs : List Char) :
    crlfFirst (n + 1) ('\n' :: cs) = '\r' :: '\n' :: crlfFirst n cs := rfl

theorem crlfFirst_cons (h : c ≠ '\n') (n : Nat) (cs : List Char) :
    crlfFirst n (c :: cs) = c :: crlfFirst n cs := by
  cases n with
  | zero => simp
  | succ n => exact if_neg h

theorem crlfFirst_append (h : '\n' ∉ cs) (n : Nat) (ds : List Char) :
    crlfFirst n (cs ++ ds) = cs ++ crlfFirst n ds := by
  induction cs with
  | nil => rfl
  | cons c cs ih =>
    obtain ⟨hc, hcs⟩ := List.ne_and_not_mem_of_not_mem_cons h
    rw [List.cons_append, crlfFirst_cons hc.symm, ih hcs, List.cons_append]

theorem crlfFirst_count (cs ds : List Char) :
    crlfFirst (cs.count '\n') (cs ++ ds) = crlfChars cs ++ ds := by
  induction cs with
  | nil => exact crlfFirst_zero ds
  | cons c cs ih =>
    by_cases hc : c = '\n'
    · subst hc
      rw [List.count_cons_self, List.cons_append, crlfFirst_feed, ih]
      rfl
    · rw [List.count_cons_of_ne hc, List.cons_append, crlfFirst_cons hc, ih]
      simp [crlfChars, hc]

theorem crlfChars_getLast? (cs : List Char) : (crlfChars cs).getLast? = cs.getLast? := by
  rcases cs.eq_nil_or_concat with rfl | ⟨ds, c, rfl⟩
  · rfl
  · by_cases hc : c = '\n' <;> simp [crlfChars, hc]

theorem terminated_crlfChars (cs : List Char) :
    Cursor.terminated (crlfChars cs) = crlfFirst (cs.count '\n') (Cursor.terminated cs) := by
  have hc := crlfFirst_count cs []
  rw [List.append_nil, List.append_nil] at hc
  unfold Cursor.terminated
  rw [crlfChars_getLast?]
  split
  · exact hc.symm
  · exact (crlfFirst_count cs _).symm

theorem crlfFirst_head? (n : Nat) (cs : List Char) :
    (crlfFirst (n + 1) cs).head? = cs.head?.map returnFor := by
  cases cs with
  | nil => rfl
  | cons c cs =>
    by_cases hc : c = '\n'
    · subst hc
      rfl
    · simp [crlfFirst_cons hc, returnFor, hc]

def returnBefore (cs : List Char) : List Char := if cs.head? = some '\n' then ['\r'] else []

end

section

variable {p : Char → Bool} (hn : p '\n' = false) (hr : p '\r' = false)

include hn hr

theorem takeWhile_crlfFirst (n : Nat) (cs : List Char) :
    (crlfFirst n cs).takeWhile p = cs.takeWhile p := by
  induction cs with
  | nil => rw [crlfFirst_nil]
  | cons c cs ih =>
    by_cases hc : c = '\n'
    · subst hc
      cases n with
      | zero => rw [crlfFirst_zero]
      | succ n => simp [crlfFirst_feed, hn, hr]
    · rw [crlfFirst_cons hc, List.takeWhile_cons, List.takeWhile_cons, ih]

theorem dropWhile_crlfFirst (n : Nat) (cs : List Char) :
    (crlfFirst n cs).dropWhile p = crlfFirst n (cs.dropWhile p) := by
  have hc := List.takeWhile_append_dropWhile (p := p) (l := crlfFirst n cs)
  conv at hc => rhs; rw [← List.takeWhile_append_dropWhile (p := p) (l := cs)]
  rw [crlfFirst_append (Lexeme.takeWhile_line hn cs), takeWhile_crlfFirst hn hr] at hc
  exact List.append_cancel_left hc

end

namespace Lexeme

theorem takeWhile_line_crlfFirst (n : Nat) (cs : List Char) :
    (crlfFirst (n + 1) cs).takeWhile (· ≠ '\n') =
      cs.takeWhile (· ≠ '\n') ++ returnBefore (cs.dropWhile (· ≠ '\n')) := by
  induction cs with
  | nil => rfl
  | cons c cs ih =>
    by_cases hc : c = '\n'
    · subst hc
      simp [crlfFirst_feed, returnBefore]
    · simpa [crlfFirst_cons hc, hc] using ih

theorem gap_blank {c : Char} (h : isBlank c = true) (cs : List Char) :
    gap (c :: cs) = c :: gap cs := by
  simp [gap, h]

theorem gap_comment (cs : List Char) : gap ('#' :: cs) = '#' :: cs.takeWhile (· ≠ '\n') := rfl

theorem gap_stop {c : Char} (hb : isBlank c = false) (hc : c ≠ '#') (cs : List Char) :
    gap (c :: cs) = [] := by
  simp [gap, comment, hb, hc]

theorem drop_gap_comment (cs : List Char) :
    ('#' :: cs).drop (gap ('#' :: cs)).length = cs.dropWhile (· ≠ '\n') := by
  have hs : '#' :: cs = gap ('#' :: cs) ++ cs.dropWhile (· ≠ '\n') := by
    rw [gap_comment, List.cons_append, List.takeWhile_append_dropWhile]
  exact List.append_cancel_left ((gap_append_drop ('#' :: cs)).trans hs)

/-- The return in front of a line feed joins the gap there, be it blank or a comment. -/
theorem gap_crlfFirst (n : Nat) (cs : List Char) : gap (crlfFirst (n + 1) cs) =
    gap cs ++ returnBefore (cs.drop (gap cs).length) := by
  induction cs with
  | nil => rfl
  | cons c cs ih =>
    by_cases hc : c = '\n'
    · subst hc
      rfl
    rw [crlfFirst_cons hc]
    cases hb : isBlank c with
    | true =>
      rw [gap_blank hb, gap_blank hb, ih, List.length_cons, List.drop_succ_cons]
      rfl
    | false =>
      by_cases hs : c = '#'
      · subst hs
        rw [drop_gap_comment, gap_comment, gap_comment, takeWhile_line_crlfFirst]
        rfl
      · rw [gap_stop hb hs, gap_stop hb hs]
        simp [returnBefore, hc]

end Lexeme

def LexicalCause.crlf : LexicalCause → LexicalCause
  | forbiddenInString c => forbiddenInString (returnFor c)
  | loneExclamation next => loneExclamation (next.map returnFor)
  | cause => cause

def Fault.crlf (f : Fault) : Fault := ⟨f.cause.crlf, f.offset⟩

namespace Lexeme

theorem scanString_crlfFirst (n : Nat) (rest : List Char) :
    scanString (crlfFirst (n + 1) rest) = (scanString rest).mapError Fault.crlf := by
  have hn : isStringBody '\n' = false := by decide
  have hr : isStringBody '\r' = false := by decide
  simp only [scanString, takeWhile_crlfFirst hn hr, dropWhile_crlfFirst hn hr]
  cases rest.dropWhile isStringBody with
  | nil => rfl
  | cons c tail =>
    by_cases hc : c = '\n'
    · subst hc
      rfl
    · rw [crlfFirst_cons hc]
      by_cases hq : c = '"'
      · simp [hq]
      · simp [hq, Fault.crlf, LexicalCause.crlf, returnFor, hc]

theorem scanNumber_crlfFirst (n : Nat) (cs : List Char) :
    scanNumber (crlfFirst (n + 1) cs) = (scanNumber cs).mapError Fault.crlf := by
  have hn : Char.isDigit '\n' = false := by decide
  have hr : Char.isDigit '\r' = false := by decide
  simp only [scanNumber, takeWhile_crlfFirst hn hr, dropWhile_crlfFirst hn hr]
  cases cs.dropWhile Char.isDigit with
  | nil => rfl
  | cons c tail =>
    by_cases hc : c = '\n'
    · subst hc
      rfl
    · by_cases hp : c = '.'
      · subst hp
        simp only [crlfFirst_cons hc, takeWhile_crlfFirst hn hr]
        cases tail.takeWhile Char.isDigit <;> rfl
      · simp [crlfFirst_cons hc, hp]

theorem crlfFirst_equals (n : Nat) (cs : List Char) :
    (crlfFirst (n + 1) cs).head? = some '=' ↔ cs.head? = some '=' := by
  rw [crlfFirst_head?]
  cases cs with
  | nil => simp
  | cons c cs => by_cases hc : c = '\n' <;> simp [returnFor, hc]

theorem scan_crlfFirst {cs : List Char} (h : cs.head? ≠ some '\n') (n : Nat) :
    scan (crlfFirst (n + 1) cs) = (scan cs).mapError Fault.crlf := by
  cases cs with
  | nil => rfl
  | cons c rest =>
    have hc : c ≠ '\n' := fun he => h (congrArg some he)
    have he := crlfFirst_equals n rest
    by_cases hd : c.isDigit = true
    · have hs := scanNumber_crlfFirst n (c :: rest)
      rw [crlfFirst_cons hc] at hs ⊢
      rw [scan_digit hd, scan_digit hd, hs]
    rw [crlfFirst_cons hc]
    by_cases hl : Text.isAlphabetic c = true
    · rw [scan_alphabetic hl, scan_alphabetic hl, takeWhile_crlfFirst (by decide) (by decide)]
      rfl
    by_cases hq : c = '"'
    · subst hq
      exact scanString_crlfFirst n rest
    by_cases hx : c = '!'
    · subst hx
      simp only [scan]
      by_cases hr : rest.head? = some '='
      · rw [if_pos (he.2 hr), if_pos hr]
        rfl
      · rw [if_neg (mt he.1 hr), if_neg hr, crlfFirst_head?]
        rfl
    -- What is left is decided by this character and by whether an equals sign follows.
    · unfold scan
      simp only [operator, he]
      split <;> simp_all [Fault.crlf, LexicalCause.crlf]

theorem scan_within_line {cs : List Char} (h : cs.head? ≠ some '\n') {l : Lexeme}
    (hs : scan cs = .ok l) : l.kind ≠ .newline ∧ '\n' ∉ l.spelling := by
  have hk : l.kind ≠ .newline := by
    intro hk
    have hp := (scan_spelling hs).1
    rw [spelling, hk, (scan_wellFormed hs).newline_text hk] at hp
    obtain ⟨ds, rfl⟩ := hp
    exact h rfl
  exact ⟨hk, (scan_wellFormed hs).line_spelling hk⟩

end Lexeme

namespace Position

theorem after_line {cs : List Char} (h : '\n' ∉ cs) (p : Position) :
    p.after cs = ⟨p.line, p.column + cs.length⟩ := by
  induction cs generalizing p with
  | nil => rfl
  | cons c cs ih =>
    obtain ⟨hc, hcs⟩ := List.ne_and_not_mem_of_not_mem_cons h
    rw [after_cons, next, if_neg hc.symm, ih hcs, List.length_cons]
    simp only [mk.injEq, true_and]
    omega

theorem line_le_after (p : Position) (cs : List Char) : p.line ≤ (p.after cs).line := by
  induction cs generalizing p with
  | nil => exact Nat.le_refl _
  | cons c cs ih =>
    refine Nat.le_trans ?_ (ih (p.next c))
    unfold next
    split
    · exact Nat.le_succ _
    · exact Nat.le_refl _

end Position

/-- The token of a line feed that has a return in front of it, as all have on the first `k` lines,
is a column further to the right. -/
def Token.crlf (k : Nat) (t : Token) : Token :=
  if t.kind = .newline ∧ t.position.line ≤ k then
    ⟨t.kind, t.text, ⟨t.position.line, t.position.column + 1⟩⟩
  else t

def LexicalError.crlf (k : Nat) (e : LexicalError) : LexicalError :=
  if e.position.line ≤ k then ⟨e.cause.crlf, e.position⟩ else e

def ParseError.crlf (k : Nat) : ParseError → ParseError
  | lexical e => lexical (e.crlf k)
  | syntactic e => syntactic ⟨e.cause, e.token.crlf k⟩

namespace Cursor

open Lexeme

def crlf (k : Nat) (c : Cursor) : Cursor :=
  ⟨crlfFirst (k + 1 - c.position.line) c.rest, c.position⟩

variable {k : Nat} {c : Cursor}

theorem crlf_beyond (h : k < c.position.line) : c.crlf k = c := by
  rw [crlf, Nat.sub_eq_zero_of_le h, crlfFirst_zero]

theorem forward_crlf {cs : List Char} (h : cs <+: c.rest) (hn : '\n' ∉ cs) :
    (c.crlf k).forward cs.length = (c.forward cs.length).crlf k := by
  obtain ⟨ds, hs⟩ := h
  have hr : (c.crlf k).rest = cs ++ crlfFirst (k + 1 - c.position.line) ds := by
    rw [crlf, ← hs, crlfFirst_append hn]
  rw [forward_of_append hr, forward_of_append hs.symm, crlf, crlf, Position.after_line hn]

theorem line_forward {cs : List Char} (h : cs <+: c.rest) (hn : '\n' ∉ cs) :
    (c.forward cs.length).position.line = c.position.line := by
  obtain ⟨ds, hs⟩ := h
  rw [forward_of_append hs.symm, Position.after_line hn]

theorem readLexeme_crlf (hl : c.position.line ≤ k) (h : c.rest.head? ≠ some '\n') :
    (c.crlf k).readLexeme =
      ((c.readLexeme.1.map (Token.crlf k)).mapError (LexicalError.crlf k),
        c.readLexeme.2.crlf k) := by
  have hscan : scan (c.crlf k).rest = (scan c.rest).mapError Fault.crlf := by
    rw [crlf, Nat.succ_sub hl, scan_crlfFirst h]
  cases hs : scan c.rest with
  | ok l =>
    obtain ⟨hk, hn⟩ := scan_within_line h hs
    have ht : Token.crlf k ⟨l.kind, l.text, c.position⟩ = ⟨l.kind, l.text, c.position⟩ :=
      if_neg fun h => hk h.1
    rw [hs] at hscan
    rw [readLexeme_ok hs, readLexeme_ok hscan, forward_crlf (scan_spelling hs).1 hn]
    simp only [Except.map, mapError_ok, ht]
    rfl
  | error f =>
    obtain ⟨front, hp, hf, hn⟩ := scan_fault hs
    have hline : (c.forward f.offset).position.line ≤ k := by
      rw [← hf, line_forward hp hn]
      exact hl
    have he : LexicalError.crlf k ⟨f.cause, (c.forward f.offset).position⟩ =
        ⟨f.cause.crlf, (c.forward f.offset).position⟩ := if_pos hline
    have hforward : (c.crlf k).forward f.offset = (c.forward f.offset).crlf k := by
      rw [← hf, forward_crlf hp hn]
    rw [hs] at hscan
    rw [readLexeme_error hs, readLexeme_error hscan]
    simp only [Except.map, mapError_error, he, Fault.crlf, hforward]
    rfl

theorem readLexeme_feed {rest : List Char} (h : c.rest = '\n' :: rest) :
    c.readLexeme = (.ok ⟨.newline, "\n", c.position⟩, ⟨rest, ⟨c.position.line + 1, 1⟩⟩) := by
  obtain ⟨cs, position⟩ := c
  subst h
  rfl

theorem skipGap_crlf_feed (hl : c.position.line ≤ k) {rest : List Char}
    (h : c.skipGap.rest = '\n' :: rest) : (c.crlf k).skipGap =
      ⟨'\n' :: crlfFirst (k - c.position.line) rest,
        ⟨c.skipGap.position.line, c.skipGap.position.column + 1⟩⟩ := by
  have hn := not_mem_gap c.rest
  have hd : c.rest.drop (gap c.rest).length = '\n' :: rest := h
  have hgap : gap (c.crlf k).rest = gap c.rest ++ ['\r'] := by
    rw [crlf, Nat.succ_sub hl, gap_crlfFirst, hd]
    rfl
  have hrest : (c.crlf k).rest =
      gap (c.crlf k).rest ++ '\n' :: crlfFirst (k - c.position.line) rest := by
    rw [hgap, crlf, Nat.succ_sub hl]
    conv => lhs; rw [← gap_append_drop c.rest, hd]
    rw [crlfFirst_append hn, crlfFirst_feed, List.append_assoc]
    rfl
  rw [skipGap, forward_of_append hrest, hgap, Position.after_append, skipGap_eq]
  rfl

theorem readToken_crlf_within (hl : c.position.line ≤ k) : (c.crlf k).readToken =
    ((c.readToken.1.map (Token.crlf k)).mapError (LexicalError.crlf k), c.readToken.2.crlf k) := by
  have hn := not_mem_gap c.rest
  have hp := gap_isPrefix c.rest
  have hline : c.skipGap.position.line = c.position.line := line_forward hp hn
  -- The line ends behind the gap, which is longer by the return, or both forms have the same gap.
  by_cases hf : c.skipGap.rest.head? = some '\n'
  · obtain ⟨rest, hr⟩ := List.head?_eq_some_iff.1 hf
    have ht : Token.crlf k ⟨.newline, "\n", c.skipGap.position⟩ =
        ⟨.newline, "\n", ⟨c.skipGap.position.line, c.skipGap.position.column + 1⟩⟩ :=
      if_pos ⟨rfl, hline ▸ hl⟩
    rw [readToken, readToken, skipGap_crlf_feed hl hr, readLexeme_feed rfl, readLexeme_feed hr]
    simp only [Except.map, mapError_ok, ht, crlf, hline, Nat.add_sub_add_right]
  · have hb : returnBefore (c.rest.drop (gap c.rest).length) = [] := if_neg hf
    have hskip : (c.crlf k).skipGap = c.skipGap.crlf k := by
      rw [skipGap, crlf, Nat.succ_sub hl, gap_crlfFirst, hb, List.append_nil, ← Nat.succ_sub hl]
      exact forward_crlf hp hn
    rw [readToken, hskip, readLexeme_crlf (hline ▸ hl) hf]
    rfl

theorem readToken_crlf_beyond (h : k < c.position.line) : (c.crlf k).readToken =
    ((c.readToken.1.map (Token.crlf k)).mapError (LexicalError.crlf k), c.readToken.2.crlf k) := by
  have hline : k < c.skipGap.position.line := Nat.lt_of_lt_of_le h (Position.line_le_after _ _)
  have hbehind (n : Nat) : k < (c.skipGap.forward n).position.line :=
    Nat.lt_of_lt_of_le hline (Position.line_le_after _ _)
  rw [crlf_beyond h, readToken]
  cases hs : scan c.skipGap.rest with
  | ok l =>
    have ht : Token.crlf k ⟨l.kind, l.text, c.skipGap.position⟩ =
        ⟨l.kind, l.text, c.skipGap.position⟩ := if_neg fun ht => Nat.not_lt.2 ht.2 hline
    rw [readLexeme_ok hs]
    simp only [Except.map, mapError_ok, ht, crlf_beyond (hbehind _)]
  | error f =>
    have he : LexicalError.crlf k ⟨f.cause, (c.skipGap.forward f.offset).position⟩ =
        ⟨f.cause, (c.skipGap.forward f.offset).position⟩ := if_neg (Nat.not_le.2 (hbehind _))
    rw [readLexeme_error hs]
    simp only [Except.map, mapError_error, he, crlf_beyond (hbehind _)]

theorem readToken_crlf (k : Nat) (c : Cursor) : (c.crlf k).readToken =
    ((c.readToken.1.map (Token.crlf k)).mapError (LexicalError.crlf k), c.readToken.2.crlf k) := by
  by_cases h : c.position.line ≤ k
  · exact readToken_crlf_within h
  · exact readToken_crlf_beyond (Nat.lt_of_not_le h)

theorem ofSource_crlf (source : String) :
    ofSource (TeenyFront.crlf source) = (ofSource source).crlf (lineFeeds source) := by
  rw [ofSource, TeenyFront.crlf, String.toList_ofList, terminated_crlfChars]
  rfl

end Cursor

def Translation.crlf (k : Nat) : Translation where
  cursor := Cursor.crlf k
  token := Token.crlf k
  lexicalError := LexicalError.crlf k
  kind_token t := by
    unfold Token.crlf
    split <;> rfl
  text_token t := by
    unfold Token.crlf
    split <;> rfl
  readToken_cursor := Cursor.readToken_crlf k

theorem Translation.parseError_crlf (k : Nat) :
    (Translation.crlf k).parseError = ParseError.crlf k := by
  funext e
  cases e <;> rfl

theorem lexing_crlf (source : String) :
    lexing (crlf source) = (Translation.crlf (lineFeeds source)).lexing (lexing source) := by
  show (Cursor.ofSource (crlf source)).lex = _
  rw [Cursor.ofSource_crlf]
  exact (Translation.crlf _).lex_cursor _

/-- A source and its longer form have the same tokens, up to the columns of the line feeds that the
source has, and the same error if any, up to a line feed that it shows. They have the same trace as
well, and the same answer up to these columns and characters. -/
theorem line_ends_alike (source : String) :
    (lexing (crlf source)).result =
        ((lexing source).result.map (List.map (Token.crlf (lineFeeds source)))).mapError
          (LexicalError.crlf (lineFeeds source)) ∧
      (lexing (crlf source)).tokens =
        (lexing source).tokens.map (Token.crlf (lineFeeds source)) ∧
      (lexing (crlf source)).error? =
        (lexing source).error?.map (LexicalError.crlf (lineFeeds source)) ∧
      (∀ {σ : Type} [Collector σ] (trace : σ), traceInto (crlf source) trace =
        ((traceInto source trace).1.mapError (ParseError.crlf (lineFeeds source)),
          (traceInto source trace).2)) ∧
      parse (crlf source) = (parse source).mapError (ParseError.crlf (lineFeeds source)) := by
  have hsource : Cursor.ofSource (crlf source) =
      (Translation.crlf (lineFeeds source)).cursor (.ofSource source) :=
    Cursor.ofSource_crlf source
  rw [← Translation.parseError_crlf, lexing_crlf]
  refine ⟨(Translation.crlf _).result_lexing _, rfl, rfl, fun trace => ?_, ?_⟩
  · exact (Translation.crlf _).traceInto_translated hsource trace
  · exact (Translation.crlf _).parse_translated hsource

/-- The return is a blank in front of the first feed, part of a comment in front of the second and
what is wrong with the string in front of the third. -/
example : (lexing (crlf "a\n#b\n\"c\n")).tokens =
      [⟨.identifier, "a", ⟨1, 1⟩⟩, ⟨.newline, "\n", ⟨1, 3⟩⟩, ⟨.newline, "\n", ⟨2, 4⟩⟩] ∧
    (lexing (crlf "a\n#b\n\"c\n")).error? = some ⟨.forbiddenInString '\r', ⟨3, 3⟩⟩ := by
  decide +kernel

end TeenyFront
