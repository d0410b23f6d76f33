import TeenyFront.Proofs.Faults
import TeenyFront.Proofs.Pipeline

/-!
# Diagnostics

The message of a refused source has two lines. The first says what is wrong and the second where. A
text that is quoted in the first has no line feed, for a character is quoted with its line ends
escaped, and of all tokens only a line feed has one in its text, which is not shown. What stands in
the source at the place that the second line names is the token or the character of the error.
-/

set_option autoImplicit false

namespace TeenyFront

open Text

theorem line_digitChar {n : Nat} (h : n < 16) : Nat.digitChar n ≠ '\n' := by
  revert n
  decide

theorem line_toDigits (base : Nat) (h : 1 < base) (hb : base ≤ 16) (n : Nat) :
    '\n' ∉ Nat.toDigits base n := by
  induction n using Nat.strongRecOn with
  | ind n ih =>
    by_cases hn : n < base
    · rw [Nat.toDigits_of_lt_base hn, List.mem_singleton]
      exact (line_digitChar (by omega)).symm
    · have hlt : n / base < n := Nat.div_lt_self (by omega) h
      have hmod : n % base < base := Nat.mod_lt n (by omega)
      rw [Nat.toDigits_of_base_le h (Nat.le_of_not_lt hn), List.mem_append, List.mem_singleton,
        not_or]
      exact ⟨ih _ hlt, (line_digitChar (by omega)).symm⟩

theorem line_toString (n : Nat) : '\n' ∉ (toString n).toList := by
  have hd := line_toDigits 10 (by decide) (by decide) n
  simpa [toString, Nat.repr] using hd

theorem line_escaped (quote c : Char) : '\n' ∉ escaped quote c := by
  have hd := line_toDigits 16 (by decide) (by decide) c.toNat
  unfold escaped
  split
  case h_6 hn _ =>
    split
    · simp [Ne.symm hn]
    · split
      · simp [Ne.symm hn]
      · simp [codePoint, hd]
  all_goals simp

theorem line_quotedChar (c : Char) : '\n' ∉ (quotedChar c).toList := by
  simp [quotedChar, line_escaped]

theorem line_append {s t : String} (hs : '\n' ∉ s.toList) (ht : '\n' ∉ t.toList) :
    '\n' ∉ (s ++ t).toList := by
  simp [hs, ht]

theorem Kind.line_name (k : Kind) : '\n' ∉ k.name.toList := by
  cases k <;> decide

theorem LexicalCause.line_message (cause : LexicalCause) : '\n' ∉ cause.message.toList := by
  cases cause with
  | strayCharacter c => exact line_append (by decide) (line_quotedChar c)
  | forbiddenInString c => exact line_append (by decide) (line_quotedChar c)
  | openString => decide
  | bareDecimalPoint => decide
  | loneExclamation next =>
    cases next with
    | none => decide
    | some c => exact line_append (by decide) (line_quotedChar c)

theorem SyntaxCause.line_message (cause : SyntaxCause) : '\n' ∉ cause.message.toList := by
  cases cause with
  | expected kind => exact line_append (by decide) kind.line_name
  | nestedTooDeep limit =>
    exact line_append (line_append (by decide) (line_toString limit)) (by decide)
  | noStatement => decide
  | noComparison => decide
  | noOperand => decide

theorem Token.line_describe {t : Token} (h : t.lexeme.WellFormed) :
    '\n' ∉ t.describe.toList := by
  have hn := t.kind.line_name
  unfold describe
  split
  · exact hn
  · exact line_append hn (by decide)
  · rename_i hk
    exact line_append (line_append (line_append hn (by decide)) (h.line_text hk)) (by decide)

theorem Position.line_arrow (p : Position) : '\n' ∉ p.arrow.toList :=
  line_append (line_append (line_append (by decide) (line_toString _)) (by decide))
    (line_toString _)

namespace ParseError

def sort : ParseError → String
  | lexical _ => "LexingError: "
  | syntactic _ => "SyntaxError: "

def account : ParseError → String
  | lexical e => e.cause.message
  | syntactic e => e.cause.message ++ ", found " ++ e.token.describe

def position : ParseError → Position
  | lexical e => e.position
  | syntactic e => e.token.position

/-- What the error is about stands in the source at the position of the error. It is a token of the
source and scanned there, or the character that shows the fault that lexing ends with. -/
def StandsIn (source : String) : ParseError → Prop
  | lexical e => (lexing source).error? = some e ∧
      ∃ before front back, Cursor.terminated source.toList = before ++ (front ++ back) ∧
        Lexeme.Faulty front back e.cause ∧ e.position = .behind (before ++ front)
  | syntactic e => e.token ∈ (lexing source).tokens ∧
      ∃ before back, Cursor.terminated source.toList = before ++ back ∧
        Lexeme.scan back = .ok e.token.lexeme ∧ e.token.position = .behind before

theorem message_eq (e : ParseError) :
    e.message = e.sort ++ e.account ++ "\n" ++ e.position.arrow := by
  cases e <;> simp [message, sort, account, position, LexicalError.message, SyntaxError.message,
    String.append_assoc]

theorem line_sort (e : ParseError) : '\n' ∉ e.sort.toList := by
  cases e with
  | lexical e =>
    show '\n' ∉ "LexingError: ".toList
    decide
  | syntactic e =>
    show '\n' ∉ "SyntaxError: ".toList
    decide

end ParseError

namespace Cursor

open Lexeme

theorem readToken_stands {c d : Cursor} {t : Token} (h : c.readToken = (.ok t, d)) :
    ∃ front back, c.rest = front ++ back ∧ t.position = c.position.after front ∧
      scan back = .ok t.lexeme := by
  refine ⟨gap c.rest, c.rest.drop (gap c.rest).length, (gap_append_drop c.rest).symm, ?_⟩
  rw [readToken, skipGap_eq] at h
  cases hs : scan (c.rest.drop (gap c.rest).length) with
  | error f =>
    rw [readLexeme_error hs] at h
    cases h
  | ok l =>
    rw [readLexeme_ok hs] at h
    cases h
    exact ⟨rfl, rfl⟩

theorem lex_stands (c : Cursor) (before : List Char) (hp : c.position = .behind before) :
    ∀ t ∈ c.lex.tokens, ∃ front back, c.rest = front ++ back ∧
      t.position = .behind (before ++ front) ∧ scan back = .ok t.lexeme := by
  induction c using lex_induction generalizing before with
  | error c e d hr =>
    rw [lex_error hr]
    exact nofun
  | last c u d hr hu =>
    intro t ht
    rw [lex_end hr hu, List.mem_singleton] at ht
    subst ht
    obtain ⟨front, back, hs, hpos, hscan⟩ := readToken_stands hr
    exact ⟨front, back, hs, by rw [hpos, hp, Position.behind_append], hscan⟩
  | token c u d hr hu ih =>
    intro t ht
    rw [lex_token hr hu] at ht
    rcases List.mem_cons.1 ht with rfl | ht
    · obtain ⟨front, back, hs, hpos, hscan⟩ := readToken_stands hr
      exact ⟨front, back, hs, by rw [hpos, hp, Position.behind_append], hscan⟩
    · obtain ⟨n, hn⟩ := readToken_forward c
      rw [hr] at hn
      subst hn
      have hbehind : (c.forward n).position = .behind (before ++ c.rest.take n) := by
        rw [Position.behind_append, ← hp]
        rfl
      obtain ⟨front, back, hs, hpos, hscan⟩ := ih _ hbehind t ht
      refine ⟨c.rest.take n ++ front, back, ?_, by rw [hpos, List.append_assoc], hscan⟩
      rw [List.append_assoc, ← hs]
      exact (List.take_append_drop n c.rest).symm

end Cursor

section

variable {source : String}

theorem standsIn_lexical {e : LexicalError} (h : (lexing source).error? = some e) :
    (ParseError.lexical e).StandsIn source := by
  obtain ⟨xs, rest, hs, -, -, herror⟩ :=
    Cursor.lex_tiles (.ofSource source) (.terminated _) [] rfl
  have he : Ended rest := by
    have hd := (Ended.terminated source.toList).drop (written xs).length
    rwa [show Cursor.terminated source.toList = written xs ++ rest from hs, List.drop_left] at hd
  have hlex : (Cursor.ofSource source).lex.error? = some e := h
  rw [hlex] at herror
  obtain ⟨front, back, hr, hf, hp, -⟩ :=
    (Cursor.readToken_error_iff he e _).1 (Prod.ext herror rfl)
  refine ⟨h, written xs ++ Lexeme.gap rest, front, back, ?_, hf, ?_⟩
  · rw [← hr, List.append_assoc, Lexeme.gap_append_drop]
    exact hs
  · rw [hp, List.append_assoc, Position.behind_append (written xs)]
    rfl

theorem standsIn_syntactic {e : SyntaxError}
    (h : (programWalk (lexing source).tokens).error? = some e) :
    (ParseError.syntactic e).StandsIn source := by
  have ht : e.token ∈ (lexing source).tokens :=
    List.mem_of_getElem? ((programWalk_along _).getElem?_error h)
  obtain ⟨front, back, hs, hp, hscan⟩ := Cursor.lex_stands (.ofSource source) [] rfl _ ht
  exact ⟨ht, front, back, hs, hscan, hp⟩

end

/-- A refused source has a message of two lines. The first begins with the sort of the error, and
the second names the line and the column at which the token or the character of the error stands in
the source. -/
theorem diagnostic_two_lines {source : String} {e : ParseError} (h : parse source = .error e) :
    (∃ account : String, '\n' ∉ account.toList ∧ e.message = e.sort ++ account ++ "\n" ++
      ("  --> " ++ toString e.position.line ++ ":" ++ toString e.position.column)) ∧
    e.message.toList.count '\n' = 1 ∧
    e.StandsIn source := by
  have hline : '\n' ∉ e.account.toList ∧ e.StandsIn source := by
    rcases parse_cases source with ⟨l, hl, -, hp⟩ | ⟨-, l, hl, hp⟩ | ⟨-, -, hp⟩
    · rw [h] at hp
      cases hp
      exact ⟨l.cause.line_message, standsIn_lexical hl⟩
    · rw [h] at hp
      cases hp
      have hstands := standsIn_syntactic hl
      have hw := Cursor.lex_wellFormed _ _ hstands.1
      exact ⟨line_append (line_append l.cause.line_message (by decide)) (Token.line_describe hw),
        hstands⟩
    · rw [h] at hp
      cases hp
  refine ⟨⟨e.account, hline.1, e.message_eq⟩, ?_, hline.2⟩
  have hfront : '\n' ∉ (e.sort ++ e.account).toList := line_append e.line_sort hline.1
  rw [e.message_eq, String.toList_append, String.toList_append, List.count_append,
    List.count_append, List.count_eq_zero.2 hfront, List.count_eq_zero.2 e.position.line_arrow]
  rfl

/-- The line feed that stands in place of an operand is shown escaped. -/
theorem diagnostic_missing_operand :
    parse "LET a = 1 +\n" = .error (.syntactic ⟨.noOperand, ⟨.newline, "\n", ⟨1, 12⟩⟩⟩) ∧
      (ParseError.syntactic ⟨.noOperand, ⟨.newline, "\n", ⟨1, 12⟩⟩⟩).message =
        "SyntaxError: expected a number or identifier, found NEWLINE \"\\n\"\n  --> 1:12" ∧
      Token.mk .newline "\n" ⟨1, 12⟩ ∈ (lexing "LET a = 1 +\n").tokens ∧
      ∃ before back, Cursor.terminated "LET a = 1 +\n".toList = before ++ back ∧
        Lexeme.scan back = .ok ⟨.newline, "\n"⟩ ∧ ⟨1, 12⟩ = Position.behind before := by
  have h : parse "LET a = 1 +\n" =
      .error (.syntactic ⟨.noOperand, ⟨.newline, "\n", ⟨1, 12⟩⟩⟩) := by decide +kernel
  exact ⟨h, by decide +kernel, (diagnostic_two_lines h).2.2⟩

end TeenyFront
