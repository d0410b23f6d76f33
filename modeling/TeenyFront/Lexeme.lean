import TeenyFront.Kind
import TeenyFront.LexicalError
import TeenyFront.Text.CharClass

/-!
# Lexemes

A lexeme is a token without its position. The unread characters decide whether they begin with a
lexeme or with a fault, and every lexeme is as long as its class allows. Blanks and comments form
the gap in front of a lexeme.
-/

set_option autoImplicit false

namespace TeenyFront

open Text

structure Lexeme where
  kind : Kind
  text : String
  deriving DecidableEq, Repr

/-- A fault and the number of characters in front of the one that shows it. -/
structure Fault where
  cause : LexicalCause
  offset : Nat
  deriving DecidableEq, Repr

namespace Lexeme

def ofChars (kind : Kind) (cs : List Char) : Lexeme := ⟨kind, String.ofList cs⟩

def spelling (l : Lexeme) : List Char :=
  match l.kind with
  | .string => '"' :: (l.text.toList ++ ['"'])
  | _ => l.text.toList

def isBlank (c : Char) : Bool := c = ' ' || c = '\t' || c = '\r'

def isStringBody (c : Char) : Bool :=
  !(c = '"' || c = '\r' || c = '\n' || c = '\t' || c = '\\' || c = '%')

def comment : List Char → List Char
  | '#' :: rest => '#' :: rest.takeWhile (· ≠ '\n')
  | _ => []

/-- Blanks, then at most one comment. -/
def gap (cs : List Char) : List Char :=
  cs.takeWhile isBlank ++ comment (cs.dropWhile isBlank)

def operator (c : Char) (single double : Kind) (rest : List Char) : Lexeme :=
  if rest.head? = some '=' then ofChars double [c, '='] else ofChars single [c]

def scanString (rest : List Char) : Except Fault Lexeme :=
  let body := rest.takeWhile isStringBody
  match rest.dropWhile isStringBody with
  | [] => .error ⟨.openString, body.length + 1⟩
  | c :: _ =>
    if c = '"' then .ok (ofChars .string body)
    else .error ⟨.forbiddenInString c, body.length + 1⟩

def scanNumber (cs : List Char) : Except Fault Lexeme :=
  let whole := cs.takeWhile Char.isDigit
  match cs.dropWhile Char.isDigit with
  | '.' :: rest =>
    match rest.takeWhile Char.isDigit with
    | [] => .error ⟨.bareDecimalPoint, whole.length⟩
    | fraction => .ok (ofChars .number (whole ++ '.' :: fraction))
  | _ => .ok (ofChars .number whole)

def word (cs : List Char) : Lexeme :=
  ofChars ((Kind.keyword? (String.ofList cs)).getD .identifier) cs

def scan : List Char → Except Fault Lexeme
  | [] => .ok (ofChars .eof [])
  | c :: rest =>
    match c with
    | '\n' => .ok (ofChars .newline ['\n'])
    | '+' => .ok (ofChars .plus ['+'])
    | '-' => .ok (ofChars .minus ['-'])
    | '*' => .ok (ofChars .asterisk ['*'])
    | '/' => .ok (ofChars .slash ['/'])
    | '=' => .ok (operator '=' .assign .equal rest)
    | '>' => .ok (operator '>' .greater .greaterEqual rest)
    | '<' => .ok (operator '<' .less .lessEqual rest)
    | '!' =>
      if rest.head? = some '=' then .ok (ofChars .notEqual ['!', '='])
      else .error ⟨.loneExclamation rest.head?, 0⟩
    | '"' => scanString rest
    | c =>
      if c.isDigit then scanNumber (c :: rest)
      else if isAlphabetic c then .ok (word (c :: rest.takeWhile isAlphanumeric))
      else .error ⟨.strayCharacter c, 0⟩

@[simp] theorem ofChars_kind (kind : Kind) (cs : List Char) : (ofChars kind cs).kind = kind := rfl

@[simp] theorem ofChars_text (kind : Kind) (cs : List Char) :
    (ofChars kind cs).text = String.ofList cs := rfl

theorem spelling_ofChars {kind : Kind} (h : kind ≠ .string) (cs : List Char) :
    (ofChars kind cs).spelling = cs := by
  cases kind <;> simp_all [spelling]

theorem spelling_ofChars_string (cs : List Char) :
    (ofChars .string cs).spelling = '"' :: (cs ++ ['"']) := by
  simp [spelling]

theorem word_kind (cs : List Char) : (word cs).kind ≠ .string ∧ (word cs).kind ≠ .eof := by
  unfold word
  cases h : Kind.keyword? (String.ofList cs) with
  | none => simp
  | some k =>
    have hk := (Kind.keyword?_eq_some h).1
    show k ≠ .string ∧ k ≠ .eof
    constructor
    · rintro rfl
      exact absurd hk (by decide)
    · rintro rfl
      exact absurd hk (by decide)

theorem gap_isPrefix (cs : List Char) : gap cs <+: cs := by
  conv => rhs; rw [← List.takeWhile_append_dropWhile (p := isBlank) (l := cs)]
  refine (List.prefix_append_right_inj _).2 ?_
  cases cs.dropWhile isBlank with
  | nil => exact List.nil_prefix
  | cons c rest =>
    unfold comment
    split
    · rename_i h
      cases h
      exact List.cons_prefix_cons.2 ⟨rfl, List.takeWhile_prefix _⟩
    · exact List.nil_prefix

theorem scanString_spelling {rest : List Char} {l : Lexeme} (h : scanString rest = .ok l) :
    l.kind = .string ∧ l.spelling <+: '"' :: rest := by
  simp only [scanString] at h
  split at h
  · simp at h
  · rename_i c tail hd
    split at h
    · rename_i hc
      cases h
      subst hc
      refine ⟨rfl, ?_⟩
      rw [spelling_ofChars_string]
      refine List.cons_prefix_cons.2 ⟨rfl, tail, ?_⟩
      conv => rhs; rw [← List.takeWhile_append_dropWhile (p := isStringBody) (l := rest)]
      simp [hd]
    · simp at h

theorem scanNumber_spelling {cs : List Char} {l : Lexeme} (h : scanNumber cs = .ok l) :
    l.kind = .number ∧ l.spelling <+: cs ∧ cs.takeWhile Char.isDigit <+: l.spelling := by
  simp only [scanNumber] at h
  split at h
  · rename_i rest hd
    split at h
    · simp at h
    · rename_i fraction hf
      cases h
      rw [spelling_ofChars (by decide)]
      refine ⟨rfl, ?_, List.prefix_append _ _⟩
      conv => rhs; rw [← List.takeWhile_append_dropWhile (p := Char.isDigit) (l := cs)]
      rw [hd]
      exact (List.prefix_append_right_inj _).2
        (List.cons_prefix_cons.2 ⟨rfl, List.takeWhile_prefix _⟩)
  · cases h
    rw [spelling_ofChars (by decide)]
    exact ⟨rfl, List.takeWhile_prefix _, List.prefix_rfl⟩

theorem operator_spelling {c : Char} {single double : Kind} (rest : List Char)
    (hs : single ≠ .string) (hd : double ≠ .string) :
    (operator c single double rest).spelling <+: c :: rest ∧
      (operator c single double rest).spelling ≠ [] := by
  unfold operator
  split
  · rename_i h
    rw [spelling_ofChars hd]
    obtain ⟨tail, rfl⟩ := List.head?_eq_some_iff.1 h
    simp
  · rw [spelling_ofChars hs]
    simp

theorem spelling_word (cs : List Char) : (word cs).spelling = cs :=
  spelling_ofChars (word_kind cs).1 cs

/-- What is scanned, one case for each class of first characters. -/
inductive Scanned : List Char → Except Fault Lexeme → Prop
  | ending : Scanned [] (.ok (ofChars .eof []))
  | newline {rest : List Char} : Scanned ('\n' :: rest) (.ok (ofChars .newline ['\n']))
  | plus {rest : List Char} : Scanned ('+' :: rest) (.ok (ofChars .plus ['+']))
  | minus {rest : List Char} : Scanned ('-' :: rest) (.ok (ofChars .minus ['-']))
  | asterisk {rest : List Char} : Scanned ('*' :: rest) (.ok (ofChars .asterisk ['*']))
  | slash {rest : List Char} : Scanned ('/' :: rest) (.ok (ofChars .slash ['/']))
  | assign {rest : List Char} : Scanned ('=' :: rest) (.ok (operator '=' .assign .equal rest))
  | greater {rest : List Char} :
      Scanned ('>' :: rest) (.ok (operator '>' .greater .greaterEqual rest))
  | less {rest : List Char} : Scanned ('<' :: rest) (.ok (operator '<' .less .lessEqual rest))
  | notEqual {rest : List Char} : Scanned ('!' :: '=' :: rest) (.ok (ofChars .notEqual ['!', '=']))
  | exclamation {rest : List Char} (hr : rest.head? ≠ some '=') :
      Scanned ('!' :: rest) (.error ⟨.loneExclamation rest.head?, 0⟩)
  | string {rest : List Char} {r : Except Fault Lexeme} (hr : scanString rest = r) :
      Scanned ('"' :: rest) r
  | number {c : Char} {rest : List Char} {r : Except Fault Lexeme} (hd : c.isDigit = true)
      (hr : scanNumber (c :: rest) = r) : Scanned (c :: rest) r
  | word {c : Char} {rest : List Char} (ha : isAlphabetic c = true) :
      Scanned (c :: rest) (.ok (word (c :: rest.takeWhile isAlphanumeric)))
  | stray {c : Char} {rest : List Char}
      (hc : c ∉ ['\n', '+', '-', '*', '/', '=', '>', '<', '!', '"']) (hd : c.isDigit = false)
      (ha : isAlphabetic c = false) : Scanned (c :: rest) (.error ⟨.strayCharacter c, 0⟩)

theorem scanned {cs : List Char} {r : Except Fault Lexeme} (h : scan cs = r) : Scanned cs r := by
  subst h
  unfold scan
  split
  · exact .ending
  · rename_i c rest
    split
    · exact .newline
    · exact .plus
    · exact .minus
    · exact .asterisk
    · exact .slash
    · exact .assign
    · exact .greater
    · exact .less
    · split
      · rename_i hr
        obtain ⟨tail, rfl⟩ := List.head?_eq_some_iff.1 hr
        exact .notEqual
      · exact .exclamation ‹_›
    · exact .string rfl
    · split
      · exact .number ‹_› rfl
      · split
        · exact .word ‹_›
        · refine .stray ?_ (Bool.eq_false_iff.2 ‹_›) (Bool.eq_false_iff.2 ‹_›)
          simp_all

/-- A lexeme is spelled by the characters that it was scanned from, and only the end of input is
spelled by none. -/
theorem scan_spelling {cs : List Char} {l : Lexeme} (h : scan cs = .ok l) :
    l.spelling <+: cs ∧ (l.kind ≠ .eof → l.spelling ≠ []) := by
  cases scanned h with
  | ending => simp [spelling, ofChars]
  | newline | plus | minus | asterisk | slash | notEqual =>
    rw [spelling_ofChars (by decide)]
    simp
  | assign | greater | less =>
    exact And.imp_right (fun hne _ => hne) (operator_spelling _ (by decide) (by decide))
  | string hr =>
    obtain ⟨hk, hp⟩ := scanString_spelling hr
    refine ⟨hp, fun _ => ?_⟩
    unfold spelling
    rw [hk]
    simp
  | number hd hr =>
    obtain ⟨_, hp, ht⟩ := scanNumber_spelling hr
    refine ⟨hp, fun _ he => ?_⟩
    rw [he] at ht
    simp [hd] at ht
  | word ha =>
    rw [spelling_word]
    exact ⟨List.cons_prefix_cons.2 ⟨rfl, List.takeWhile_prefix _⟩, fun _ => by simp⟩

end Lexeme

end TeenyFront
