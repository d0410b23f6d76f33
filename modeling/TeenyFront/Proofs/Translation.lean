import TeenyFront.Proofs.Descent
import TeenyFront.Proofs.Lexing
import TeenyFront.Proofs.Phrase

/-!
# Translations

A translation takes a cursor into another source, such that the token read there is the translated
one. It keeps kinds and texts, and no rule looks at more of a token than these. So a source and its
translation have the same trace and the same answer, with the error translated.
-/

set_option autoImplicit false

namespace TeenyFront

@[simp] theorem mapError_ok {ε δ α : Type} (f : ε → δ) (a : α) :
    (Except.ok a : Except ε α).mapError f = .ok a := rfl

@[simp] theorem mapError_error {ε δ α : Type} (f : ε → δ) (e : ε) :
    (Except.error e : Except ε α).mapError f = .error (f e) := rfl

/-- A change of cursors, tokens and errors that reading a token goes along with. -/
structure Translation where
  cursor : Cursor → Cursor
  token : Token → Token
  lexicalError : LexicalError → LexicalError
  kind_token : ∀ t, (token t).kind = t.kind
  text_token : ∀ t, (token t).text = t.text
  readToken_cursor : ∀ c, (cursor c).readToken =
    ((c.readToken.1.map token).mapError lexicalError, cursor c.readToken.2)

namespace Translation

variable (T : Translation)

section

variable {c d : Cursor}

theorem readToken_ok {t : Token} (h : c.readToken = (.ok t, d)) :
    (T.cursor c).readToken = (.ok (T.token t), T.cursor d) := by
  rw [T.readToken_cursor, h]
  rfl

theorem readToken_error {e : LexicalError} (h : c.readToken = (.error e, d)) :
    (T.cursor c).readToken = (.error (T.lexicalError e), T.cursor d) := by
  rw [T.readToken_cursor, h]
  rfl

end

def lexing (l : Lexing) : Lexing :=
  ⟨l.tokens.map T.token, l.error?.map T.lexicalError, T.cursor l.cursor⟩

theorem lex_cursor (c : Cursor) : (T.cursor c).lex = T.lexing c.lex := by
  induction c using Cursor.lex_induction with
  | error c e d hr =>
    rw [Cursor.lex_error hr, Cursor.lex_error (T.readToken_error hr)]
    rfl
  | last c t d hr ht =>
    have ht' : (T.token t).kind = .eof := (T.kind_token t).trans ht
    rw [Cursor.lex_end hr ht, Cursor.lex_end (T.readToken_ok hr) ht']
    rfl
  | token c t d hr ht ih =>
    have ht' : (T.token t).kind ≠ .eof := by rwa [T.kind_token]
    rw [Cursor.lex_token hr ht, Cursor.lex_token (T.readToken_ok hr) ht', ih]
    rfl

theorem result_lexing (l : Lexing) :
    (T.lexing l).result = (l.result.map (List.map T.token)).mapError T.lexicalError := by
  obtain ⟨tokens, error?, cursor⟩ := l
  cases error? <;> rfl

def parseError : ParseError → ParseError
  | .lexical e => .lexical (T.lexicalError e)
  | .syntactic e => .syntactic ⟨e.cause, T.token e.token⟩

def window (w : Window) : Window := ⟨T.token w.current, T.token w.next, T.cursor w.cursor⟩

theorem kind_window (w : Window) : (T.window w).kind = w.kind := T.kind_token w.current

theorem ofCursor_cursor (c : Cursor) : Window.ofCursor (T.cursor c) =
    ((Window.ofCursor c).map T.window).mapError T.lexicalError := by
  rcases hr : c.readToken with ⟨r, d⟩
  cases r with
  | error e =>
    rw [Window.ofCursor, Window.ofCursor, T.readToken_error hr, hr]
    rfl
  | ok t =>
    rcases hr' : d.readToken with ⟨r', d'⟩
    cases r' with
    | error e => simp only [Window.ofCursor, T.readToken_ok hr, T.readToken_error hr', hr, hr']; rfl
    | ok u => simp only [Window.ofCursor, T.readToken_ok hr, T.readToken_ok hr', hr, hr']; rfl

def move : Move → Move
  | .shift t => .shift (T.token t)
  | .enter event => .enter event
  | .openBlock => .openBlock
  | .closeBlock => .closeBlock

theorem event?_move (m : Move) : (T.move m).event? = m.event? := by
  cases m <;> rfl

def reading (x : Reading) : Reading :=
  ⟨x.result.mapError T.parseError, T.window x.window, x.moves.map T.move⟩

theorem events_reading (x : Reading) : (T.reading x).events = x.events := by
  have hm : Move.event? ∘ T.move = Move.event? := funext T.event?_move
  rw [Reading.events, reading, List.filterMap_map, hm, Reading.events]

theorem reading_after (ms : List Move) (x : Reading) :
    T.reading (x.after ms) = (T.reading x).after (ms.map T.move) := by
  simp [reading, Reading.after]

theorem reading_andThen (x : Reading) {f g : Window → Reading}
    (h : ∀ w, g (T.window w) = T.reading (f w)) :
    (T.reading x).andThen g = T.reading (x.andThen f) := by
  obtain ⟨result, w, ms⟩ := x
  cases result with
  | error e => rfl
  | ok _ =>
    show (g (T.window w)).after (ms.map T.move) = T.reading ((f w).after ms)
    rw [h, reading_after]

/-- A recognizer that reads in the translation what it reads in the source. -/
def Follows (r : Recognizer) : Prop := ∀ w, r.read (T.window w) = T.reading (r.read w)

end Translation

namespace Translation.Follows

open Recognizer

variable {T : Translation}

theorem done : T.Follows Recognizer.done := fun _ => rfl

theorem fail (cause : SyntaxCause) : T.Follows (Recognizer.fail cause) := fun _ => rfl

theorem enterWith {event : Token → Event} (h : ∀ t, event (T.token t) = event t) :
    T.Follows (Recognizer.enterWith event) := by
  intro w
  show Reading.mk (.ok ()) (T.window w) [.enter (event (T.token w.current))] = _
  rw [h]
  rfl

theorem shift : T.Follows Recognizer.shift := by
  intro w
  rcases hr : w.cursor.readToken with ⟨r, d⟩
  cases r with
  | error e =>
    rw [read_shift_error (Window.shift_error hr),
      read_shift_error (Window.shift_error (w := T.window w) (T.readToken_error hr))]
    rfl
  | ok t =>
    rw [read_shift_ok (Window.shift_ok hr),
      read_shift_ok (Window.shift_ok (w := T.window w) (T.readToken_ok hr))]
    rfl

theorem choose {f : Kind → Recognizer} (h : ∀ k, T.Follows (f k)) :
    T.Follows (Recognizer.choose f) := by
  intro w
  rw [read_choose, read_choose, T.kind_window]
  exact h w.kind w

theorem accept (p : Kind → Bool) (cause : SyntaxCause) :
    T.Follows (Recognizer.accept p cause) := by
  refine choose fun k => ?_
  split
  · exact shift
  · exact fail cause

theorem andThen {r s : Recognizer} (hr : T.Follows r) (hs : T.Follows s) :
    T.Follows (r.andThen s) := by
  intro w
  rw [read_andThen, read_andThen, hr]
  exact T.reading_andThen _ hs

theorem bracket {r : Recognizer} (h : T.Follows r) : T.Follows r.bracket := by
  intro w
  rw [read_bracket, read_bracket, h]
  simp [reading, move]

theorem loop {p : Kind → Bool} {body : Recognizer}
    {shrinks : ∀ w, p w.kind = true → (body.read w).result = .ok () →
      (body.read w).window.unread < w.unread}
    (h : T.Follows body) : T.Follows (Recognizer.loop p body shrinks) := by
  intro w
  generalize hn : w.unread = n
  induction n using Nat.strongRecOn generalizing w with
  | ind n ih =>
    cases hp : p w.kind with
    | false =>
      rw [read_loop_stop _ _ _ hp, read_loop_stop _ _ _ ((T.kind_window w).symm ▸ hp)]
      rfl
    | true =>
      rw [read_loop_go _ _ _ hp, read_loop_go _ _ _ ((T.kind_window w).symm ▸ hp), h]
      cases hr : (body.read w).result with
      | error e =>
        rw [Reading.andThen_error hr, Reading.andThen_error (by rw [reading, hr]; rfl)]
      | ok _ =>
        rw [Reading.andThen_ok hr, Reading.andThen_ok (by rw [reading, hr]; rfl), reading_after]
        exact congrArg _ (ih _ (hn ▸ shrinks w hp hr) _ rfl)

end Translation.Follows

namespace Phrase

/-- An event depends on no more of its token than the kind and the text. -/
def Textual : Phrase → Prop
  | done | fail _ | accept _ _ _ => True
  | enterWith event => ∀ t u, u.kind = t.kind → u.text = t.text → event u = event t
  | choose f => ∀ kind, (f kind).Textual
  | andThen φ ψ => φ.Textual ∧ ψ.Textual
  | bracket φ | chain _ _ φ | upTo _ φ => φ.Textual

namespace Textual

theorem follows {φ : Phrase} (h : φ.Textual) (T : Translation) : T.Follows φ.recognizer := by
  induction φ with
  | done => exact .done
  | fail cause => exact .fail cause
  | enterWith event => exact .enterWith fun t => h t _ (T.kind_token t) (T.text_token t)
  | accept p hp cause => exact .accept p cause
  | choose f ih => exact .choose fun kind => ih kind (h kind)
  | andThen φ ψ ihφ ihψ => exact (ihφ h.1).andThen (ihψ h.2)
  | bracket φ ih => exact (ih h).bracket
  | chain p hp φ ih => exact .loop (.andThen .shift (ih h))
  | upTo closer φ ih =>
    by_cases ht : φ.takes = true
    · rw [recognizer_upTo closer ht rfl (φ.interpret.2 ht)]
      exact .loop (ih h)
    · have hd : (upTo closer φ).recognizer = .done := by
        simp only [recognizer, interpret, ht]
        rfl
      rw [hd]
      exact .done

theorem enter (rule : Rule) : (Phrase.enter rule).Textual := fun _ _ _ _ => rfl

theorem sign : Phrase.sign.Textual := by
  intro kind
  dsimp only
  split <;> trivial

theorem primary : Phrase.primary.Textual :=
  ⟨fun _ _ _ ht => congrArg (fun text => Event.mk .primary (some text)) ht, trivial⟩

theorem unary : Phrase.unary.Textual := ⟨enter _, sign, primary, trivial⟩

theorem term : Phrase.term.Textual := ⟨enter _, unary, unary, trivial⟩

theorem expression : Phrase.expression.Textual := ⟨enter _, term, term, trivial⟩

theorem comparison : Phrase.comparison.Textual :=
  ⟨enter _, expression, trivial, expression, expression, trivial⟩

theorem lineEnd : Phrase.lineEnd.Textual := ⟨enter _, trivial, trivial, trivial⟩

theorem printed : Phrase.printed.Textual := by
  intro kind
  dsimp only
  split
  · trivial
  · exact expression

theorem naming (form : NamingForm) : (Phrase.naming form).Textual :=
  ⟨enter _, trivial, trivial, trivial⟩

section

variable {block : BlockForm → Phrase} (h : ∀ form, (block form).Textual)

include h

theorem compound (form : BlockForm) : (Phrase.compound block form).Textual :=
  ⟨enter _, trivial, comparison, trivial, lineEnd, h form, trivial⟩

theorem clause (kind : Kind) : (Phrase.clause block kind).Textual := by
  cases kind with
  | print => exact ⟨enter _, trivial, printed, trivial⟩
  | «if» => exact compound h .if
  | «while» => exact compound h .while
  | label => exact naming .label
  | goto => exact naming .goto
  | input => exact naming .input
  | «let» => exact ⟨enter _, trivial, trivial, trivial, expression, trivial⟩
  | _ => trivial

theorem statementWith : (Phrase.statementWith block).Textual := ⟨clause h, lineEnd⟩

end

theorem block (levels : Nat) (form : BlockForm) : (Phrase.block levels form).Textual := by
  induction levels generalizing form with
  | zero => trivial
  | succ levels ih => exact ⟨statementWith ih, trivial⟩

theorem program (levels : Nat) : (Phrase.program levels).Textual :=
  ⟨enter _, trivial, statementWith (block levels), trivial⟩

end Textual

end Phrase

namespace Translation

variable (T : Translation) {source source' : String}
  (h : Cursor.ofSource source' = T.cursor (.ofSource source))

include h

/-- A source and its translation have the same trace, whatever takes it in and also up to an
error. -/
theorem traceInto_translated {σ : Type} [Collector σ] (trace : σ) :
    traceInto source' trace =
      ((traceInto source trace).1.mapError T.parseError, (traceInto source trace).2) := by
  simp only [traceInto_eq_run, Parser.ofCursor, h, T.ofCursor_cursor]
  cases Window.ofCursor (.ofSource source) with
  | error e => rfl
  | ok w =>
    have hw := (Phrase.Textual.program nestingLimit).follows T w
    rw [Phrase.recognizer_program] at hw
    show ((Recognizer.program.read (T.window w)).result, List.foldl _ trace
      (Recognizer.program.read (T.window w)).events) = _
    rw [hw, events_reading]
    rfl

theorem parse_translated : parse source' = (parse source).mapError T.parseError := by
  rw [parse, parse, T.traceInto_translated h]
  obtain ⟨result, trace⟩ := traceInto source #[]
  cases result <;> rfl

end Translation

end TeenyFront
