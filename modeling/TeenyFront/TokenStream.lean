import TeenyFront.Cursor

/-!
# Token streams

Reading on from a cursor yields tokens up to the end token or up to the first error. A stream is
a cursor that remembers whether it has yielded its last item; a finished stream yields nothing
and stands still. A script is a row of operations on one stream, in any order, behind errors and
behind the end too.
-/

set_option autoImplicit false

namespace TeenyFront

/-- What reading to the end yields: the tokens, the error that stopped it if any, and where. -/
structure Lexing where
  tokens : List Token
  error? : Option LexicalError
  cursor : Cursor

namespace Lexing

def result (l : Lexing) : Except LexicalError (List Token) :=
  match l.error? with
  | none => .ok l.tokens
  | some e => .error e

def count (l : Lexing) : Nat := l.tokens.length + l.error?.toList.length

end Lexing

namespace Cursor

/-- Reads to the end; `seen` are the tokens so far, the last one first. -/
def lexAfter (seen : List Token) (c : Cursor) : Lexing :=
  match _h : c.readToken with
  | (.error e, d) => ⟨seen.reverse, some e, d⟩
  | (.ok t, d) =>
    if _ht : t.kind = .eof then ⟨(t :: seen).reverse, none, d⟩ else lexAfter (t :: seen) d
termination_by c.rest.length
decreasing_by
  have hlt := readToken_length_lt (c := c) (t := t) (by rw [_h]) _ht
  rwa [_h] at hlt

def lex (c : Cursor) : Lexing := c.lexAfter []

theorem lexAfter_error {c d : Cursor} {e : LexicalError} (seen : List Token)
    (h : c.readToken = (.error e, d)) : c.lexAfter seen = ⟨seen.reverse, some e, d⟩ := by
  rw [lexAfter]
  split <;> simp_all

theorem lexAfter_end {c d : Cursor} {t : Token} (seen : List Token)
    (h : c.readToken = (.ok t, d)) (ht : t.kind = .eof) :
    c.lexAfter seen = ⟨(t :: seen).reverse, none, d⟩ := by
  rw [lexAfter]
  split <;> simp_all

theorem lexAfter_token {c d : Cursor} {t : Token} (seen : List Token)
    (h : c.readToken = (.ok t, d)) (ht : t.kind ≠ .eof) :
    c.lexAfter seen = d.lexAfter (t :: seen) := by
  rw [lexAfter]
  split <;> simp_all

theorem lexAfter_eq (seen : List Token) (c : Cursor) :
    c.lexAfter seen = ⟨seen.reverse ++ c.lex.tokens, c.lex.error?, c.lex.cursor⟩ := by
  unfold lex
  generalize hn : c.rest.length = n
  induction n using Nat.strongRecOn generalizing seen c with
  | ind n ih =>
    rcases hr : c.readToken with ⟨r, d⟩
    cases r with
    | error e => simp [lexAfter_error _ hr]
    | ok t =>
      by_cases ht : t.kind = .eof
      · simp [lexAfter_end _ hr ht]
      · have hlt := length_lt_of_token hr ht
        rw [hn] at hlt
        rw [lexAfter_token _ hr ht, lexAfter_token _ hr ht, ih _ hlt _ d rfl, ih _ hlt [t] d rfl]
        simp

theorem lex_error {c d : Cursor} {e : LexicalError} (h : c.readToken = (.error e, d)) :
    c.lex = ⟨[], some e, d⟩ := lexAfter_error [] h

theorem lex_end {c d : Cursor} {t : Token} (h : c.readToken = (.ok t, d)) (ht : t.kind = .eof) :
    c.lex = ⟨[t], none, d⟩ := lexAfter_end [] h ht

theorem lex_token {c d : Cursor} {t : Token} (h : c.readToken = (.ok t, d))
    (ht : t.kind ≠ .eof) : c.lex = ⟨t :: d.lex.tokens, d.lex.error?, d.lex.cursor⟩ := by
  rw [lex, lexAfter_token [] h ht, lexAfter_eq]
  rfl

end Cursor

structure TokenStream where
  cursor : Cursor
  finished : Bool

namespace TokenStream

def ofSource (source : String) : TokenStream := ⟨.ofSource source, false⟩

def isLast : Except LexicalError Token → Bool
  | .ok t => t.kind = .eof
  | .error _ => true

def readToken (s : TokenStream) : Except LexicalError Token × TokenStream :=
  (s.cursor.readToken.1, ⟨s.cursor.readToken.2, s.finished⟩)

def skip (s : TokenStream) (n : Nat) : TokenStream := ⟨s.cursor.forward n, s.finished⟩

def next (s : TokenStream) : Option (Except LexicalError Token) × TokenStream :=
  if s.finished then (none, s)
  else
    let r := s.cursor.readToken
    (some r.1, ⟨r.2, isLast r.1⟩)

def remaining (s : TokenStream) : Lexing :=
  if s.finished then ⟨[], none, s.cursor⟩ else s.cursor.lex

/-- The stream after its items are drawn. -/
def drained (s : TokenStream) : TokenStream := ⟨s.remaining.cursor, true⟩

/-- An operation on a stream. -/
inductive Step where
  | look
  | skip (n : Nat)
  | readToken
  | next
  | tokenize
  | count

namespace Step

/-- The stream after an operation. All items that are left are drawn to list or to count them. -/
def run (s : TokenStream) : Step → TokenStream
  | look => s
  | skip n => s.skip n
  | readToken => s.readToken.2
  | next => s.next.2
  | tokenize | count => s.drained

end Step

def script (s : TokenStream) (steps : List Step) : TokenStream := steps.foldl Step.run s

theorem next_finished {s : TokenStream} (h : s.finished = true) : s.next = (none, s) := by
  rw [next, if_pos h]

theorem next_unfinished {s : TokenStream} (h : s.finished = false) :
    s.next = (some s.cursor.readToken.1, ⟨s.cursor.readToken.2, isLast s.cursor.readToken.1⟩) := by
  rw [next, if_neg (Bool.eq_false_iff.1 h)]

end TokenStream

end TeenyFront
