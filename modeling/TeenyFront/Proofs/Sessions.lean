import TeenyFront.Proofs.NestingLimit
import TeenyFront.Proofs.Offenders

/-!
# Scripts on a parser

A script is a row of operations on one parser, in any order and behind errors too. Wherever it
leads, the window holds the next two of the tokens that can be drawn from the source, and those
before them were shifted past. A shift that meets a lexical error leaves all but the cursor as it
was. Only a shift that is asked for by itself passes the end of input, and a syntax error names
the current token.
-/

set_option autoImplicit false

namespace TeenyFront

namespace Cursor

/-- The tokens that so many readings give, those that fail left out, and the cursor behind them. -/
def draw (c : Cursor) : Nat → List Token × Cursor
  | 0 => ([], c)
  | n + 1 => ((c.draw n).1 ++ (c.draw n).2.readToken.1.toOption.toList, (c.draw n).2.readToken.2)

section

variable {c d d' : Cursor} {n : Nat} {ts : List Token} (h : c.draw n = (ts, d))

include h

theorem draw_token {t : Token} (hr : d.readToken = (.ok t, d')) :
    c.draw (n + 1) = (ts ++ [t], d') := by
  rw [draw, h, hr]
  rfl

theorem draw_error {e : LexicalError} (hr : d.readToken = (.error e, d')) :
    c.draw (n + 1) = (ts, d') := by
  rw [draw, h, hr]
  simp [Except.toOption]

end

end Cursor

namespace Window

/-- A window that holds the last two tokens drawn from a cursor, with `us` in front of them. -/
def Drawn (c : Cursor) (us : List Token) (w : Window) : Prop :=
  ∃ n, c.draw n = (us ++ [w.current, w.next], w.cursor)

theorem drawn_ofCursor {c : Cursor} {w : Window} (h : ofCursor c = .ok w) : Drawn c [] w := by
  obtain ⟨d, hr, hr'⟩ := ofCursor_eq_ok h
  have h1 : c.draw 1 = ([w.current], d) := Cursor.draw_token (n := 0) rfl hr
  exact ⟨2, Cursor.draw_token h1 hr'⟩

section

variable {c : Cursor} {us : List Token} {w v : Window} (h : Drawn c us w)

include h

theorem Drawn.shift (hs : w.shift = (.ok (), v)) : Drawn c (us ++ [w.current]) v := by
  obtain ⟨n, hn⟩ := h
  obtain ⟨t, d, hr, rfl⟩ := shift_eq_ok hs
  refine ⟨n + 1, ?_⟩
  rw [Cursor.draw_token hn hr]
  simp

theorem Drawn.shift_error {e : LexicalError} (hs : w.shift = (.error e, v)) : Drawn c us v := by
  obtain ⟨n, hn⟩ := h
  obtain ⟨d, hr, rfl⟩ := shift_eq_error hs
  exact ⟨n + 1, Cursor.draw_error hn hr⟩

end

end Window

namespace Operation

open Recognizer

/-- Apart from shifting and from expecting a kind, every operation reads a phrase. -/
theorem phrase_cases (o : Operation) : o = .shift ∨ (∃ kind, o = .expect kind) ∨
    ∃ φ : Phrase, φ.recognizer = o.recognizer := by
  cases o with
  | shift => exact .inl rfl
  | expect kind => exact .inr (.inl ⟨kind, rfl⟩)
  | look => exact .inr (.inr ⟨.done, rfl⟩)
  | program => exact .inr (.inr ⟨_, Phrase.recognizer_program⟩)
  | statement => exact .inr (.inr ⟨_, Phrase.recognizer_statement⟩)
  | lineEnd => exact .inr (.inr ⟨.lineEnd, rfl⟩)
  | comparison => exact .inr (.inr ⟨_, Phrase.recognizer_comparison⟩)
  | expression => exact .inr (.inr ⟨_, Phrase.recognizer_expression⟩)
  | term => exact .inr (.inr ⟨_, Phrase.recognizer_term⟩)
  | unary => exact .inr (.inr ⟨_, Phrase.recognizer_unary⟩)
  | primary => exact .inr (.inr ⟨.primary, rfl⟩)

section

variable {I : List Token → Window → Prop}
  (ho : ∀ us w v, I us w → w.shift = (.ok (), v) → I (us ++ [w.current]) v)
  (he : ∀ us w v e, I us w → w.shift = (.error e, v) → I us v)

include ho he

theorem upholds (o : Operation) : o.recognizer.Upholds I fun _ => I := by
  have hs : Recognizer.shift.Upholds I fun _ => I :=
    .shift (fun us w v h hs => ⟨trivial, ho us w v h hs⟩) fun us w v e h hs => he us w v e h hs
  rcases o.phrase_cases with rfl | ⟨kind, rfl⟩ | ⟨φ, hφ⟩
  · exact hs
  · exact .expect (hs.before fun _ _ => And.left) (.fail fun _ _ => And.left)
  · rw [← hφ]
    exact φ.upholds (hs.before fun _ _ => And.left) fun _ _ _ => id

end

/-- Only a shift that is asked for by itself passes the end of input. -/
theorem taken_eof (o : Operation) (w : Window) {t : Token}
    (ht : t ∈ (o.recognizer.read w).taken) (hk : t.kind = .eof) :
    o = .shift ∨ o = .expect .eof := by
  rcases o.phrase_cases with rfl | ⟨kind, rfl⟩ | ⟨φ, hφ⟩
  · exact .inl rfl
  · have hu : (Recognizer.expect kind).Upholds (AllTaken (· = kind)) fun _ => AllTaken (· = kind) :=
      .expect (shift_allTaken _) (.fail fun _ _ => And.left)
    have hnil : AllTaken (· = kind) [] w := nofun
    have hkind : t.kind = kind := hu.kept hnil t ht
    exact .inr (hkind ▸ hk ▸ rfl)
  · have hu := φ.upholds (shift_allTaken (· ≠ .eof)) fun _ _ _ => id
    rw [hφ] at hu
    have hnil : AllTaken (· ≠ .eof) [] w := nofun
    exact absurd hk (hu.kept hnil t ht)

theorem blamed_rule {r : Recognizer} {Q : Kind → Prop} (hr : r.Blames Blames.any Q) {w : Window}
    {e : SyntaxError} (h : (r.read w).result = .error (.syntactic e)) :
    e.token = (r.read w).window.current ∧ e.cause.RulesOut e.token.kind ∧
      ∀ k, e.cause = .expected k → k.isCloser = false := by
  cases (hr [] w trivial).error _ h with
  | syntactic cause hk hc => exact ⟨rfl, hk, hc⟩

theorem blamed_expect {kind : Kind} {w : Window} {e : SyntaxError}
    (h : ((Recognizer.expect kind).read w).result = .error (.syntactic e)) :
    e = ⟨.expected kind, ((Recognizer.expect kind).read w).window.current⟩ ∧
      e.token.kind ≠ kind := by
  have hr : Monitor.taking.Triple (fun _ _ => True) (Recognizer.expect kind) (fun _ _ => True)
      fun e _ v => ∀ s, e = .syntactic s → s = ⟨.expected kind, v.current⟩ ∧ v.kind ≠ kind := by
    apply Monitor.Triple.expect
    · apply Monitor.Triple.shift
      · exact fun _ _ _ _ _ => ⟨trivial, trivial⟩
      · intro us v v' e' _ _ s hs
        cases hs
    · apply Monitor.Triple.fail
      rintro us v ⟨-, hk⟩ s ⟨⟩
      exact ⟨rfl, hk⟩
  obtain ⟨he, hk⟩ := (hr [] w trivial).error _ h e rfl
  exact ⟨he, he ▸ hk⟩

/-- The right token is blamed for an error. Only where a closing keyword is asked for by itself is
it found missing. -/
theorem blamed (o : Operation) (w : Window) {e : SyntaxError}
    (h : (o.recognizer.read w).result = .error (.syntactic e)) :
    e.token = (o.recognizer.read w).window.current ∧ e.cause.RulesOut e.token.kind ∧
      ∀ k, e.cause = .expected k → k.isCloser = true → o = .expect k := by
  have hrule {r : Recognizer} {Q : Kind → Prop} (hr : r.Blames Blames.any Q)
      (ho : o.recognizer = r) :
      e.token = (o.recognizer.read w).window.current ∧ e.cause.RulesOut e.token.kind ∧
        ∀ k, e.cause = .expected k → k.isCloser = true → o = .expect k := by
    subst ho
    obtain ⟨ht, hk, hc⟩ := blamed_rule hr h
    refine ⟨ht, hk, fun k he hcloser => ?_⟩
    rw [hc k he] at hcloser
    cases hcloser
  cases o with
  | look => cases h
  | shift => exact hrule Blames.shift rfl
  | program => exact hrule Blames.program rfl
  | statement => exact hrule Blames.statement rfl
  | lineEnd => exact hrule Blames.lineEnd rfl
  | comparison => exact hrule Blames.comparison rfl
  | expression => exact hrule Blames.expression rfl
  | term => exact hrule Blames.term rfl
  | unary => exact hrule Blames.unary rfl
  | primary => exact hrule Blames.primary rfl
  | expect kind =>
    obtain ⟨he, hk⟩ := blamed_expect h
    subst he
    refine ⟨rfl, hk, fun k hc _ => ?_⟩
    cases hc
    rfl

end Operation

namespace Parser

variable {σ : Type}

theorem ofCursor_ok {c : Cursor} {w : Window} (h : Window.ofCursor c = .ok w) (trace : σ) :
    ofCursor c trace = .ok ⟨w, trace⟩ := by
  rw [ofCursor, h]

theorem ofCursor_eq_ok {c : Cursor} {trace : σ} {p : Parser σ}
    (h : ofCursor c trace = .ok p) : Window.ofCursor c = .ok p.window := by
  cases hw : Window.ofCursor c with
  | error e =>
    rw [ofCursor, hw] at h
    cases h
  | ok w =>
    rw [ofCursor, hw] at h
    cases h
    rfl

variable [Collector σ]

def shifted (p : Parser σ) : List Operation → List Token
  | [] => []
  | o :: os => (o.recognizer.read p.window).taken ++ (p.run o.recognizer).2.shifted os

theorem script_upholds {I : List Token → Window → Prop}
    (ho : ∀ us w v, I us w → w.shift = (.ok (), v) → I (us ++ [w.current]) v)
    (he : ∀ us w v e, I us w → w.shift = (.error e, v) → I us v) {p : Parser σ}
    {us : List Token} (h : I us p.window) (os : List Operation) :
    I (us ++ p.shifted os) (p.script os).window := by
  induction os generalizing p us with
  | nil => simpa [shifted, script] using h
  | cons o os ih =>
    rw [shifted, ← List.append_assoc]
    exact ih ((o.upholds ho he).kept h)

end Parser

namespace CountedParser

variable {σ : Type} [Collector σ]

/-- A shift that meets a lexical error leaves the window, the trace and the count of open blocks as
they were. -/
theorem perform_shift_error (p : Parser σ) (depth : Nat) {e : ParseError}
    (h : (p.run .shift).1 = .error e) : ∃ cursor, perform ⟨p, depth⟩ .shift =
      ⟨⟨⟨p.window.current, p.window.next, cursor⟩, p.trace⟩, depth⟩ := by
  rcases hs : p.window.shift with ⟨r, v⟩
  cases r with
  | ok _ =>
    rw [Parser.run, Recognizer.read_shift_ok hs] at h
    cases h
  | error e' =>
    obtain ⟨d, -, rfl⟩ := Window.shift_eq_error hs
    refine ⟨d, ?_⟩
    rw [perform, Operation.act, Action.shift, hs]

end CountedParser

open CountedParser in
/-- After every script the window holds the next two of the tokens drawn from the source, behind
those that were shifted past. A shift that meets a lexical error, wherever it is made, changes
nothing but the cursor. No rule shifts past the end of input. A syntax error names the token that is
current, whose kind its cause rules out, and no rule finds a closing keyword missing. -/
theorem script_window {σ : Type} [Collector σ] {c : Cursor} {trace : σ} {p : Parser σ}
    (h : Parser.ofCursor c trace = .ok p) (os : List Operation) (o : Operation) :
    (∃ n, c.draw n = (p.shifted os ++
      [(p.script os).window.current, (p.script os).window.next], (p.script os).window.cursor)) ∧
    (∀ (q : Parser σ) (depth : Nat) (e : ParseError), (q.run .shift).1 = .error e →
      ∃ cursor, perform ⟨q, depth⟩ .shift =
        ⟨⟨⟨q.window.current, q.window.next, cursor⟩, q.trace⟩, depth⟩) ∧
    (∀ t, .shift t ∈ o.moves (p.script os) → t.kind = .eof → o = .shift ∨ o = .expect .eof) ∧
    ∀ e, ((p.script os).run o.recognizer).1 = .error (.syntactic e) →
      e.token = ((p.script os).run o.recognizer).2.window.current ∧
      e.cause.RulesOut e.token.kind ∧
      ∀ k, e.cause = .expected k → k.isCloser = true → o = .expect k := by
  have hdrawn := Window.drawn_ofCursor (Parser.ofCursor_eq_ok h)
  refine ⟨?_, ?_, ?_, ?_⟩
  · exact Parser.script_upholds (fun _ _ _ hw hs => hw.shift hs)
      (fun _ _ _ _ hw hs => hw.shift_error hs) hdrawn os
  · intro q depth e he
    exact perform_shift_error q depth he
  · intro t ht hk
    exact o.taken_eof _ (List.mem_filterMap.2 ⟨_, ht, rfl⟩) hk
  · intro e he
    exact o.blamed _ he

/-- The first shift meets the carriage return in a string, and the second goes on behind it. -/
theorem script_window_broken_string : ∃ p : Parser Unit,
    Parser.ofCursor (.ofSource "x 1 \"a\rb") () = .ok p ∧
      (∃ n, (Cursor.ofSource "x 1 \"a\rb").draw n = ([⟨.identifier, "x", ⟨1, 1⟩⟩,
        ⟨.number, "1", ⟨1, 3⟩⟩, ⟨.identifier, "b", ⟨1, 8⟩⟩], ⟨['\n'], ⟨1, 9⟩⟩)) ∧
      ∃ e, ((p.script [.shift, .shift]).run Operation.statement.recognizer).1 =
          .error (.syntactic e) ∧
        e.token = ⟨.number, "1", ⟨1, 3⟩⟩ ∧ e.cause.RulesOut .number := by
  let p : Parser Unit := ⟨⟨⟨.identifier, "x", ⟨1, 1⟩⟩, ⟨.number, "1", ⟨1, 3⟩⟩,
    ⟨" \"a\rb\n".toList, ⟨1, 4⟩⟩⟩, ()⟩
  have hw : Window.ofCursor (.ofSource "x 1 \"a\rb") = .ok p.window := by decide +kernel
  have h : Parser.ofCursor (.ofSource "x 1 \"a\rb") () = .ok p := Parser.ofCursor_ok hw ()
  have hshifted : p.shifted [.shift, .shift] = [⟨.identifier, "x", ⟨1, 1⟩⟩] := by decide +kernel
  have hwindow : (p.script [.shift, .shift]).window = ⟨⟨.number, "1", ⟨1, 3⟩⟩,
      ⟨.identifier, "b", ⟨1, 8⟩⟩, ⟨['\n'], ⟨1, 9⟩⟩⟩ := by decide +kernel
  obtain ⟨⟨n, hn⟩, -, -, he⟩ := script_window h [.shift, .shift] .statement
  have hr : ((p.script [.shift, .shift]).run Operation.statement.recognizer).1 =
      .error (.syntactic ⟨.noStatement, ⟨.number, "1", ⟨1, 3⟩⟩⟩) := by decide +kernel
  rw [hshifted, hwindow] at hn
  exact ⟨p, h, ⟨n, hn⟩, _, hr, rfl, (he _ hr).2.1⟩

end TeenyFront
