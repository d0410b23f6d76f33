import TeenyFront.Proofs.Sessions

/-!
# Sentences of the rules

A rule that is asked for outside of blocks succeeds exactly if a sentence of it is in front of the
window and what stands behind the sentence does not go on with it. It takes that sentence and
nothing else. The window holds two tokens more than were taken, and none of all these may be a
lexical error.
-/

set_option autoImplicit false

namespace TeenyFront

open DerivationTree

/-- Readings one after the other, none of which fails, lead from one cursor to another. -/
inductive Cursor.Yields : Cursor → List Token → Cursor → Prop
  | nil (c : Cursor) : Yields c [] c
  | cons {c d e : Cursor} {t : Token} {ts : List Token} (hr : c.readToken = (.ok t, d))
      (h : Yields d ts e) : Yields c (t :: ts) e

namespace Cursor.Yields

variable {c d : Cursor} {t : Token} {ts : List Token}

theorem eq_of_nil (h : c.Yields [] d) : d = c := by
  cases h
  rfl

theorem tail (h : c.Yields (t :: ts) d) : ∃ e, c.readToken = (.ok t, e) ∧ e.Yields ts d := by
  cases h with
  | cons hr h => exact ⟨_, hr, h⟩

theorem concat (h : c.Yields ts d) {e : Cursor} (hr : d.readToken = (.ok t, e)) :
    c.Yields (ts ++ [t]) e := by
  induction h with
  | nil c => exact .cons hr (.nil e)
  | cons hr' _ ih => exact .cons hr' (ih hr)

end Cursor.Yields

namespace Window

/-- The tokens in view and those that the cursor yields next are `us`, and behind them the two in
view of `v`. No reading fails as long as these come. -/
def Before (w : Window) (us : List Token) (v : Window) : Prop :=
  ∃ ts, w.cursor.Yields ts v.cursor ∧ w.current :: w.next :: ts = us ++ [v.current, v.next]

theorem before_nil (w : Window) : w.Before [] w := ⟨[], .nil _, rfl⟩

section

variable {w v : Window} {us : List Token}

theorem Before.eq_of_nil (h : w.Before [] v) : v = w := by
  obtain ⟨ts, hy, he⟩ := h
  obtain ⟨hc, hr⟩ := List.cons.inj he
  obtain ⟨hn, rfl⟩ := List.cons.inj hr
  obtain ⟨current, next, cursor⟩ := v
  obtain ⟨current', next', cursor'⟩ := w
  cases hc
  cases hn
  cases hy.eq_of_nil
  rfl

theorem Before.concat (h : w.Before us v) {x : Window} (hs : v.shift = (.ok (), x)) :
    w.Before (us ++ [v.current]) x := by
  obtain ⟨ts, hy, he⟩ := h
  obtain ⟨t, d, hr, rfl⟩ := shift_eq_ok hs
  refine ⟨ts ++ [t], hy.concat hr, ?_⟩
  rw [← List.cons_append, ← List.cons_append, he]
  simp

theorem Before.cons {u : Token} (h : w.Before (u :: us) v) :
    w.current = u ∧ ∃ x, w.shift = (.ok (), x) ∧ x.Before us v := by
  obtain ⟨ts, hy, he⟩ := h
  obtain ⟨hc, hr⟩ := List.cons.inj he
  cases ts with
  | nil => simpa using congrArg List.length hr
  | cons t ts =>
    obtain ⟨d, hr', hy⟩ := hy.tail
    exact ⟨hc, _, shift_ok hr', ts, hy, hr⟩

theorem Before.unique (h : w.Before us v) {x : Window} (h' : w.Before us x) : x = v := by
  induction us generalizing w with
  | nil => rw [h.eq_of_nil, h'.eq_of_nil]
  | cons u us ih =>
    obtain ⟨-, y, hs, hy⟩ := h.cons
    obtain ⟨-, z, hs', hz⟩ := h'.cons
    rw [hs] at hs'
    cases hs'
    exact ih hy hz

theorem Before.shows (h : w.Before us v) {ts : List Token} {e? : Option LexicalError}
    (hw : w.Shows ts e?) (hu : ∀ t ∈ us, t.kind ≠ .eof) :
    ∃ vs, ts = us ++ vs ∧ v.Shows vs e? := by
  induction us generalizing w ts with
  | nil =>
    rw [h.eq_of_nil]
    exact ⟨ts, rfl, hw⟩
  | cons u us ih =>
    obtain ⟨rfl, x, hs, hx⟩ := h.cons
    rcases hw.shift (hu _ List.mem_cons_self) with ⟨e, y, hs', -⟩ | ⟨y, vs, hs', rfl, hy, -⟩
    · rw [hs] at hs'
      cases hs'
    · rw [hs] at hs'
      cases hs'
      obtain ⟨xs, rfl, hv⟩ := ih hx hy fun t ht => hu t (List.mem_cons_of_mem _ ht)
      exact ⟨xs, rfl, hv⟩

/-- The end token comes into view only when nothing of the source is left. -/
def Settled (w : Window) : Prop := w.next.kind = .eof → w.cursor.rest = []

theorem Settled.shows (h : w.Settled) : w.Shows w.upcoming w.pending? := ⟨h, rfl, rfl⟩

theorem settled_ofCursor {c : Cursor} (h : ofCursor c = .ok w) : w.Settled := by
  obtain ⟨d, -, hr⟩ := ofCursor_eq_ok h
  exact Cursor.readToken_end hr

theorem settled_shift (hs : w.shift = (.ok (), v)) : v.Settled := by
  obtain ⟨t, d, hr, rfl⟩ := shift_eq_ok hs
  exact Cursor.readToken_end hr

theorem Settled.shift_error (h : w.Settled) {e : LexicalError} (hs : w.shift = (.error e, v)) :
    v.Settled := by
  obtain ⟨d, hr, rfl⟩ := shift_eq_error hs
  intro hn
  rw [Cursor.readToken_nil (h hn)] at hr
  cases hr

end

end Window

theorem Parser.settled_script {σ : Type} [Collector σ] {c : Cursor} {trace : σ} {p : Parser σ}
    (h : ofCursor c trace = .ok p) (os : List Operation) : (p.script os).window.Settled :=
  @script_upholds σ _ (fun _ w => w.Settled) (fun _ _ _ _ hs => Window.settled_shift hs)
    (fun _ _ _ _ hw hs => hw.shift_error hs) p [] (Window.settled_ofCursor (ofCursor_eq_ok h)) os

theorem Phrase.before_taken (φ : Phrase) {w : Window} (h : (φ.recognizer.read w).result = .ok ()) :
    w.Before (φ.recognizer.read w).taken (φ.recognizer.read w).window := by
  have hs : Monitor.taking.Triple (fun us v => w.Before us v ∧ v.kind ≠ .eof) Recognizer.shift
      w.Before fun _ _ _ => True := by
    apply Monitor.Triple.shift
    · intro us v x hv hs
      exact ⟨trivial, hv.1.concat hs⟩
    · intros
      trivial
  have hu := φ.upholds hs fun _ _ _ _ => trivial
  exact (hu.read w.before_nil).1 h

namespace Reads

variable {n : Nat} {φ : Phrase} {α : Type} [DerivationTree α] {ext : Kind → Bool}
  (h : Reads n φ.walk α ext)

include h

theorem taken_eq {a : α} {ts : List Token} (hs : Stops ext ts) (hd : depth a ≤ n) :
    (φ.walk (tokens a ++ ts)).taken = tokens a := by
  have hsplit := (φ.walk_along (tokens a ++ ts)).split
  rw [(h.complete a ts hs hd).2] at hsplit
  exact List.append_cancel_right hsplit

theorem proper {a : α} {t : Token} (ht : ext t.kind = false) (hd : depth a ≤ n) :
    ∀ u ∈ tokens a, u.kind ≠ .eof := by
  have hs : Stops ext [t] := ⟨t, [], rfl, ht⟩
  rw [← h.taken_eq hs hd]
  exact (φ.walk_along (tokens a ++ [t])).proper

variable {w v : Window}

theorem exists_sentence (hw : w.Settled) (ho : (φ.recognizer.read w).result = .ok ()) :
    ∃ a : α, depth a ≤ n ∧ w.Before (tokens a) (φ.recognizer.read w).window := by
  have hb := φ.before_taken ho
  cases φ.tracks hw.shows with
  | through _ hk _ hm _ =>
    obtain ⟨a, hd, ht, -⟩ := h.sound _ hk
    have hmt : (φ.recognizer.read w).taken = (φ.walk w.upcoming).taken := by
      rw [Reading.taken, hm, Walk.taken]
    rw [hmt, ht] at hb
    exact ⟨a, hd, hb⟩
  | blocked e _ _ hr | stuck _ e _ hr =>
    rw [hr] at ho
    cases ho

/-- A sentence that is in front of the window and ends there is read, and nothing behind it. -/
theorem of_sentence (hw : w.Settled) {a : α} (hd : depth a ≤ n) (hb : w.Before (tokens a) v)
    (hv : ext v.kind = false) : (φ.recognizer.read w).result = .ok () ∧
      (φ.recognizer.read w).taken = tokens a ∧ (φ.recognizer.read w).window = v := by
  obtain ⟨ts, hts, hshows⟩ := hb.shows hw.shows (h.proper hv hd)
  obtain ⟨us, rfl⟩ := hshows.head
  have hs : Stops ext (v.current :: us) := ⟨_, us, rfl, hv⟩
  obtain ⟨hk, hrest⟩ := h.complete a _ hs hd
  have ht := φ.tracks hw.shows
  rw [hts] at ht
  cases ht with
  | blocked e he hl =>
    -- The window holds two tokens from the end of the sentence on, so no error is that near.
    rw [hrest] at hl
    rcases hshows.two_or_end with hn | hn
    · rw [hn] at he
      cases he
    · omega
  | stuck _ e he =>
    rw [Walk.error?, hk] at he
    cases he
  | through _ _ hr hm =>
    have htaken : (φ.recognizer.read w).taken = tokens a := by
      rw [← h.taken_eq hs hd, Reading.taken, hm, Walk.taken]
    have hbefore := φ.before_taken hr
    rw [htaken] at hbefore
    exact ⟨hr, htaken, hb.unique hbefore⟩

end Reads

inductive Nonterminal where
  | program
  | statement
  | lineEnd
  | comparison
  | expression
  | term
  | unary
  | primary

namespace Nonterminal

def Derivation : Nonterminal → Type
  | program => Node .program (List Newline × Block)
  | statement => Statement
  | lineEnd => LineEnd
  | comparison => Comparison
  | expression => Expression
  | term => Term
  | unary => Unary
  | primary => Primary

instance : (r : Nonterminal) → DerivationTree r.Derivation
  | program => inferInstanceAs (DerivationTree (Node .program (List Newline × Block)))
  | statement => inferInstanceAs (DerivationTree Statement)
  | lineEnd => inferInstanceAs (DerivationTree LineEnd)
  | comparison => inferInstanceAs (DerivationTree Comparison)
  | expression => inferInstanceAs (DerivationTree Expression)
  | term => inferInstanceAs (DerivationTree Term)
  | unary => inferInstanceAs (DerivationTree Unary)
  | primary => inferInstanceAs (DerivationTree Primary)

def continues : Nonterminal → Kind → Bool
  | program => (· != .eof)
  | statement | lineEnd => Kind.isNewline
  | comparison => Kind.continuesComparison
  | expression => Kind.continuesExpression
  | term => Kind.isFactorOperator
  | unary | primary => noKind

def operation : Nonterminal → Operation
  | program => .program
  | statement => .statement
  | lineEnd => .lineEnd
  | comparison => .comparison
  | expression => .expression
  | term => .term
  | unary => .unary
  | primary => .primary

/-- A derivation whose blocks nest no deeper than the limit. Its tokens lead from one window to
another, and what is current in the other does not go on with it. -/
structure Parses (r : Nonterminal) (w : Window) (a : r.Derivation) (v : Window) : Prop where
  depth : depth a ≤ nestingLimit
  tokens : w.Before (tokens a) v
  stops : r.continues v.kind = false

def phrase (levels : Nat) : Nonterminal → Phrase
  | program => .program levels
  | statement => .statement levels
  | lineEnd => .lineEnd
  | comparison => .comparison
  | expression => .expression
  | term => .term
  | unary => .unary
  | primary => .primary

theorem recognizer_phrase (r : Nonterminal) :
    (r.phrase nestingLimit).recognizer = r.operation.recognizer := by
  cases r with
  | program => exact Phrase.recognizer_program
  | statement => exact Phrase.recognizer_statement
  | comparison => exact Phrase.recognizer_comparison
  | expression => exact Phrase.recognizer_expression
  | term => exact Phrase.recognizer_term
  | unary => exact Phrase.recognizer_unary
  | lineEnd | primary => rfl

theorem reads (levels : Nat) (r : Nonterminal) :
    Reads levels (r.phrase levels).walk r.Derivation r.continues := by
  cases r with
  | program => exact Reads.program levels
  | statement => exact Reads.statementWith (Reads.block levels)
  | lineEnd => exact Reads.lineEnd
  | comparison => exact Reads.comparison
  | expression => exact Reads.expression
  | term => exact Reads.term
  | unary => exact Reads.unary
  | primary => exact Reads.primary

open Recognizer in
theorem stops_behind (r : Nonterminal) :
    r.operation.recognizer.Blames Blames.any fun k => r.continues k = false := by
  cases r with
  | program => exact Blames.program.weaken (fun _ => id) fun _ hk => bne_eq_false_iff_eq.2 hk
  | statement => exact Blames.statement
  | lineEnd => exact Blames.lineEnd
  | comparison => exact Blames.comparison
  | expression => exact Blames.expression
  | term => exact Blames.term
  | unary => exact Blames.unary.weaken (fun _ => id) fun _ _ => rfl
  | primary => exact Blames.primary.weaken (fun _ => id) fun _ _ => rfl

theorem parses_of_ok (r : Nonterminal) {w : Window} (hw : w.Settled)
    (h : (r.operation.recognizer.read w).result = .ok ()) :
    ∃ a, r.Parses w a (r.operation.recognizer.read w).window := by
  have hstops := (r.stops_behind [] w trivial).ok h
  rw [← r.recognizer_phrase] at h hstops ⊢
  obtain ⟨a, hd, hb⟩ := (r.reads nestingLimit).exists_sentence hw h
  exact ⟨a, hd, hb, hstops⟩

theorem Parses.ok {r : Nonterminal} {w v : Window} {a : r.Derivation} (hw : w.Settled)
    (h : r.Parses w a v) : (r.operation.recognizer.read w).result = .ok () ∧
      (r.operation.recognizer.read w).taken = DerivationTree.tokens a ∧
      (r.operation.recognizer.read w).window = v := by
  rw [← r.recognizer_phrase]
  exact (r.reads nestingLimit).of_sentence hw h.depth h.tokens h.stops

end Nonterminal

/-- After every script a rule succeeds exactly if a sentence of it is in front of the window, with
its blocks nested within the limit, with nothing behind it that would go on, and without a lexical
error among its tokens and the two behind them. It takes that sentence and nothing else. -/
theorem rule_reads_sentence {σ : Type} [Collector σ] {c : Cursor} {trace : σ} {p : Parser σ}
    (h : Parser.ofCursor c trace = .ok p) (os : List Operation) (r : Nonterminal) :
    (((p.script os).run r.operation.recognizer).1 = .ok () ↔
      ∃ a v, r.Parses (p.script os).window a v) ∧
    ∀ a v, r.Parses (p.script os).window a v →
      (r.operation.moves (p.script os)).filterMap Move.token? = tokens a ∧
      ((p.script os).run r.operation.recognizer).2.window = v := by
  have hw := Parser.settled_script h os
  refine ⟨⟨fun ho => ?_, fun ⟨a, v, ha⟩ => ?_⟩, fun a v ha => ?_⟩
  · obtain ⟨a, ha⟩ := r.parses_of_ok hw ho
    exact ⟨a, _, ha⟩
  · exact (ha.ok hw).1
  · exact (ha.ok hw).2

/-- Behind the keyword stands a sum, of which a term is the first summand only. -/
theorem rule_reads_summand : ∃ p : Parser Unit,
    Parser.ofCursor (.ofSource "PRINT x + 1") () = .ok p ∧
      ((p.script [.shift]).run Operation.term.recognizer).1 = .ok () ∧
      (Operation.term.moves (p.script [.shift])).filterMap Move.token? =
        [⟨.identifier, "x", ⟨1, 7⟩⟩] := by
  let p : Parser Unit := ⟨⟨⟨.print, "PRINT", ⟨1, 1⟩⟩, ⟨.identifier, "x", ⟨1, 7⟩⟩,
    ⟨" + 1\n".toList, ⟨1, 8⟩⟩⟩, ()⟩
  have hw : Window.ofCursor (.ofSource "PRINT x + 1") = .ok p.window := by decide +kernel
  have h : Parser.ofCursor (.ofSource "PRINT x + 1") () = .ok p := Parser.ofCursor_ok hw ()
  have hwindow : (p.script [.shift]).window = ⟨⟨.identifier, "x", ⟨1, 7⟩⟩,
      ⟨.plus, "+", ⟨1, 9⟩⟩, ⟨" 1\n".toList, ⟨1, 10⟩⟩⟩ := by decide +kernel
  let summand : Term := ⟨(⟨(none, ⟨⟨.identifier, "x", ⟨1, 7⟩⟩, rfl⟩)⟩, [])⟩
  have hyields : Cursor.Yields ⟨" 1\n".toList, ⟨1, 10⟩⟩ [⟨.number, "1", ⟨1, 11⟩⟩]
      ⟨['\n'], ⟨1, 12⟩⟩ := .cons (by decide +kernel) (.nil _)
  have hparses : Nonterminal.term.Parses (p.script [.shift]).window summand
      ⟨⟨.plus, "+", ⟨1, 9⟩⟩, ⟨.number, "1", ⟨1, 11⟩⟩, ⟨['\n'], ⟨1, 12⟩⟩⟩ := by
    rw [hwindow]
    exact ⟨Nat.zero_le _, ⟨_, hyields, rfl⟩, rfl⟩
  obtain ⟨hok, htaken⟩ := rule_reads_sentence h [.shift] .term
  exact ⟨p, h, hok.2 ⟨summand, _, hparses⟩, (htaken summand _ hparses).1⟩

end TeenyFront
