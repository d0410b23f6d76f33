import TeenyFront.Proofs.Lexing
import TeenyFront.Proofs.Walk

/-!
# Reading one token ahead

A window lexes one token more than the grammar looks at. A reading through a window follows the
walk along the tokens of the source, up to the shift that would bring a lexical error into the
window: there the reading ends with that error, whatever the walk does further on.
-/

set_option autoImplicit false

namespace TeenyFront

namespace Window

def upcoming (w : Window) : List Token :=
  if w.kind = .eof then [w.current]
  else if w.next.kind = .eof then [w.current, w.next]
  else w.current :: w.next :: w.cursor.lex.tokens

def pending? (w : Window) : Option LexicalError :=
  if w.kind = .eof ∨ w.next.kind = .eof then none else w.cursor.lex.error?

/-- The tokens and the lexical error in front of a window, which holds the end token only when
nothing of the source is left. -/
structure Shows (w : Window) (ts : List Token) (e? : Option LexicalError) : Prop where
  settled : w.next.kind = .eof → w.cursor.rest = []
  tokens : w.upcoming = ts
  error : w.pending? = e?

theorem shows_end {current next : Token} {c : Cursor} (hc : current.kind = .eof)
    (h : c.rest = []) : Shows ⟨current, next, c⟩ [current] none :=
  ⟨fun _ => h, by simp [upcoming, kind, hc], by simp [pending?, kind, hc]⟩

theorem shows_last {current next : Token} {c : Cursor} (hc : current.kind ≠ .eof)
    (hn : next.kind = .eof) (h : c.rest = []) :
    Shows ⟨current, next, c⟩ [current, next] none :=
  ⟨fun _ => h, by simp [upcoming, kind, hc, hn], by simp [pending?, hn]⟩

theorem shows_more {current next : Token} {c : Cursor} (hc : current.kind ≠ .eof)
    (hn : next.kind ≠ .eof) :
    Shows ⟨current, next, c⟩ (current :: next :: c.lex.tokens) c.lex.error? :=
  ⟨fun h => absurd h hn, by simp [upcoming, kind, hc, hn], by simp [pending?, kind, hc, hn]⟩

namespace Shows

variable {w : Window} {ts : List Token} {e? : Option LexicalError}

theorem head (h : w.Shows ts e?) : ∃ us, ts = w.current :: us := by
  rw [← h.tokens, upcoming]
  split
  · exact ⟨_, rfl⟩
  · split <;> exact ⟨_, rfl⟩

theorem two_or_end (h : w.Shows ts e?) : e? = none ∨ 2 ≤ ts.length := by
  rw [← h.tokens, ← h.error, upcoming, pending?]
  by_cases hc : w.kind = .eof
  · exact .inl (if_pos (.inl hc))
  · by_cases hn : w.next.kind = .eof
    · exact .inl (if_pos (.inr hn))
    · right
      simp [hc, hn]

/-- A shift fails exactly when it would bring a lexical error into the window. -/
theorem shift (h : w.Shows ts e?) (hk : w.kind ≠ .eof) :
    (∃ e v, w.shift = (.error e, v) ∧ e? = some e ∧ ts.length = 2) ∨
    ∃ v us, w.shift = (.ok (), v) ∧ ts = w.current :: us ∧ v.Shows us e? ∧
      (e? = none ∨ 2 ≤ us.length) := by
  obtain ⟨current, next, c⟩ := w
  by_cases hn : next.kind = .eof
  · have hs := shows_last hk hn (h.settled hn)
    obtain rfl := hs.tokens.symm.trans h.tokens
    obtain rfl := hs.error.symm.trans h.error
    have hr := Cursor.readToken_nil (h.settled hn)
    exact .inr ⟨_, _, shift_ok hr, rfl, shows_end hn (h.settled hn), .inl rfl⟩
  · have hs := shows_more (c := c) hk hn
    obtain rfl := hs.tokens.symm.trans h.tokens
    obtain rfl := hs.error.symm.trans h.error
    rcases hr : c.readToken with ⟨r, d⟩
    cases r with
    | error e =>
      rw [Cursor.lex_error hr]
      exact .inl ⟨e, _, shift_error hr, rfl, rfl⟩
    | ok t =>
      right
      by_cases ht : t.kind = .eof
      · rw [Cursor.lex_end hr ht]
        exact ⟨_, _, shift_ok hr, rfl, shows_last hn ht (Cursor.readToken_end hr ht), .inl rfl⟩
      · rw [Cursor.lex_token hr ht]
        exact ⟨_, _, shift_ok hr, rfl, shows_more hn ht, .inr (by simp)⟩

end Shows

theorem ofCursor_shows (c : Cursor) :
    (∃ e, ofCursor c = .error e ∧ c.lex.error? = some e ∧ c.lex.tokens.length < 2) ∨
    ∃ w, ofCursor c = .ok w ∧ w.Shows c.lex.tokens c.lex.error? := by
  rcases hr : c.readToken with ⟨r, d⟩
  cases r with
  | error e =>
    left
    rw [Cursor.lex_error hr]
    exact ⟨e, by simp [ofCursor, hr], rfl, by simp⟩
  | ok current =>
    by_cases hc : current.kind = .eof
    · have hd := Cursor.readToken_end hr hc
      right
      rw [Cursor.lex_end hr hc]
      refine ⟨⟨current, ⟨.eof, "", d.position⟩, d⟩, ?_, shows_end hc hd⟩
      simp only [ofCursor, hr, Cursor.readToken_nil hd]
    · rw [Cursor.lex_token hr hc]
      rcases hr' : d.readToken with ⟨r', d'⟩
      cases r' with
      | error e =>
        left
        rw [Cursor.lex_error hr']
        exact ⟨e, by simp only [ofCursor, hr, hr'], rfl, by simp⟩
      | ok next =>
        right
        refine ⟨⟨current, next, d'⟩, by simp only [ofCursor, hr, hr'], ?_⟩
        by_cases hn : next.kind = .eof
        · rw [Cursor.lex_end hr' hn]
          exact shows_last hc hn (Cursor.readToken_end hr' hn)
        · rw [Cursor.lex_token hr' hn]
          exact shows_more hc hn

end Window

namespace Reading

def taken (r : Reading) : List Token := r.moves.filterMap Move.token?

/-- How a reading goes that has a walk's tokens in front of it and behind them the error `e?`. It
is blocked by that error, or it does what the walk does. -/
inductive Tracks (e? : Option LexicalError) (r : Reading) (k : Walk) : Prop
  | blocked (e : LexicalError) (he : e? = some e) (hk : k.rest.length < 2)
      (hr : r.result = .error (.lexical e)) (ht : r.taken <+: k.taken)
      (hv : r.events <+: k.events)
  | through (hk : e? = none ∨ 2 ≤ k.rest.length) (ho : k.outcome = .through)
      (hr : r.result = .ok ()) (hm : r.moves = k.moves) (hw : r.window.Shows k.rest e?)
  | stuck (hk : e? = none ∨ 2 ≤ k.rest.length) (error : SyntaxError) (ho : k.error? = some error)
      (hr : r.result = .error (.syntactic error)) (hm : r.moves = k.moves)

theorem after_taken (ms : List Move) (r : Reading) :
    (r.after ms).taken = ms.filterMap Move.token? ++ r.taken := by
  simp [taken, after]

namespace Tracks

variable {e? : Option LexicalError} {r : Reading} {k : Walk}

theorem after (h : Tracks e? r k) (ms : List Move) : Tracks e? (r.after ms) (k.after ms) := by
  cases h with
  | blocked e he hk hr ht hv =>
    refine .blocked e he hk hr ?_ ?_
    · rw [after_taken, Walk.after_taken]
      exact (List.prefix_append_right_inj _).2 ht
    · rw [after_events, Walk.after_events]
      exact (List.prefix_append_right_inj _).2 hv
  | through hk ho hr hm hw => exact .through hk ho hr (congrArg (ms ++ ·) hm) hw
  | stuck hk error ho hr hm => exact .stuck hk error ho hr (congrArg (ms ++ ·) hm)

theorem blocked_andThen {e : LexicalError} {next : List Token → Walk} (he : e? = some e)
    (hk : k.rest.length < 2) (hr : r.result = .error (.lexical e)) (ht : r.taken <+: k.taken)
    (hv : r.events <+: k.events) (hn : ∀ ts, Walk.Along ts (next ts)) :
    Tracks e? r (k.andThen next) := by
  by_cases hw : k.outcome = .through
  · rw [Walk.andThen_through hw]
    have hl := (hn k.rest).length_eq
    refine .blocked e he ?_ hr ?_ ?_
    · rw [Walk.after_rest]
      omega
    · rw [Walk.after_taken]
      exact ht.trans (List.prefix_append _ _)
    · rw [Walk.after_events]
      exact hv.trans (List.prefix_append _ _)
  · rw [Walk.andThen_not_through hw]
    exact .blocked e he hk hr ht hv

theorem andThen (h : Tracks e? r k) {next : Window → Reading} {walk : List Token → Walk}
    (hn : ∀ ts, Walk.Along ts (walk ts))
    (hs : k.outcome = .through → r.window.Shows k.rest e? →
      Tracks e? (next r.window) (walk k.rest)) :
    Tracks e? (r.andThen next) (k.andThen walk) := by
  cases h with
  | blocked e he hk hr ht hv =>
    rw [andThen_error hr]
    exact blocked_andThen he hk hr ht hv hn
  | through hk ho hr hm hw =>
    rw [andThen_ok hr, Walk.andThen_through ho, hm]
    exact (hs ho hw).after k.moves
  | stuck hk error ho hr hm =>
    rw [andThen_error hr, Walk.andThen_not_through]
    · exact .stuck hk error ho hr hm
    · intro hw
      rw [Walk.error?, hw] at ho
      cases ho

theorem bracket (h : Tracks e? r k) :
    Tracks e? ⟨r.result, r.window, .openBlock :: (r.moves ++ [.closeBlock])⟩
      ⟨k.outcome, k.rest, .openBlock :: (k.moves ++ [.closeBlock])⟩ := by
  cases h with
  | blocked e he hk hr ht hv =>
    refine .blocked e he hk hr ?_ ?_
    · simpa [taken, Walk.taken, List.filterMap_cons, Move.token?] using ht
    · simpa [events, Walk.events, List.filterMap_cons, Move.event?] using hv
  | through hk ho hr hm hw => exact .through hk ho hr (by rw [hm]) hw
  | stuck hk error ho hr hm => exact .stuck hk error ho hr (by rw [hm])

end Tracks

end Reading

namespace Phrase

open Recognizer Reading

theorem not_eof {p : Kind → Bool} (hp : p .eof = false) {k : Kind} (hk : p k = true) :
    k ≠ .eof := by
  rintro rfl
  rw [hp] at hk
  cases hk

theorem tracks_shift {w : Window} {us : List Token} {e? : Option LexicalError}
    (h : w.Shows (w.current :: us) e?) (hk : w.kind ≠ .eof) :
    Tracks e? (shift.read w) ⟨.through, us, [.shift w.current]⟩ := by
  rcases h.shift hk with ⟨e, v, hs, he, hl⟩ | ⟨v, vs, hs, ht, hv, hl⟩
  · rw [read_shift_error hs]
    exact .blocked e he (Nat.lt_of_succ_lt_succ (hl ▸ Nat.lt_succ_self _)) rfl
      List.nil_prefix List.nil_prefix
  · obtain rfl := (List.cons.inj ht).2
    rw [read_shift_ok hs]
    exact .through hl rfl rfl rfl hv

theorem tracks_loop {p : Kind → Bool} {body : Recognizer}
    {shrinks : ∀ w, p w.kind = true → (body.read w).result = .ok () →
      (body.read w).window.unread < w.unread}
    {walk : List Token → Walk} {e? : Option LexicalError}
    (hl : ∀ ts, Walk.Along ts (walk ts)) (hs : Walk.Shrinks walk)
    (hb : ∀ w us, w.Shows (w.current :: us) e? → p w.kind = true →
      Tracks e? (body.read w) (walk (w.current :: us)))
    {w : Window} {ts : List Token} (h : w.Shows ts e?) :
    Tracks e? ((loop p body shrinks).read w) (Walk.again p walk ts) := by
  induction ts using Walk.again_induction (p := p) hs generalizing w with
  | nil =>
    obtain ⟨us, hu⟩ := h.head
    cases hu
  | stop t ts hp =>
    obtain ⟨us, rfl, rfl⟩ := h.head
    rw [read_loop_stop _ _ _ hp, Walk.again_stop hp]
    exact .through h.two_or_end rfl rfl rfl h
  | go t ts hp ih =>
    obtain ⟨us, rfl, rfl⟩ := h.head
    rw [read_loop_go _ _ _ hp, Walk.again_go hp hs]
    exact (hb w _ h hp).andThen (Walk.along_again hl) fun ho hw => ih ho hw

/-- A phrase is read through a window as it is walked along the tokens in front of the window. -/
theorem tracks (φ : Phrase) {w : Window} {ts : List Token} {e? : Option LexicalError}
    (h : w.Shows ts e?) : Tracks e? (φ.recognizer.read w) (φ.walk ts) := by
  induction φ generalizing w ts with
  | done => exact .through h.two_or_end rfl rfl rfl h
  | fail cause =>
    obtain ⟨us, rfl⟩ := h.head
    exact .stuck h.two_or_end ⟨cause, w.current⟩ rfl rfl rfl
  | enterWith event =>
    obtain ⟨us, rfl⟩ := h.head
    exact .through h.two_or_end rfl rfl rfl h
  | accept p hp cause =>
    show Tracks e? ((Recognizer.accept p cause).read w) (Walk.accept p cause ts)
    obtain ⟨us, rfl⟩ := h.head
    cases hk : p w.kind with
    | false =>
      rw [read_accept_neg hk, Walk.accept_neg hk]
      exact .stuck h.two_or_end ⟨cause, w.current⟩ rfl rfl rfl
    | true =>
      rw [read_accept_pos hk, Walk.accept_pos hk]
      exact tracks_shift h (not_eof hp hk)
  | choose f ih =>
    obtain ⟨us, rfl⟩ := h.head
    exact ih w.kind h
  | andThen φ ψ ihφ ihψ =>
    show Tracks e? ((φ.recognizer.andThen ψ.recognizer).read w) ((φ.walk ts).andThen ψ.walk)
    rw [read_andThen]
    exact (ihφ h).andThen ψ.walk_along fun _ hw => ihψ hw
  | bracket φ ih =>
    show Tracks e? ((Recognizer.bracket φ.recognizer).read w) _
    rw [read_bracket]
    exact (ih h).bracket
  | chain p hp φ ih =>
    rw [walk_chain]
    refine tracks_loop (Phrase.walk_along _) (takes_shrinks rfl) (fun v us hv hk => ?_) h
    show Tracks e? _ ((Walk.accept p .noOperand (v.current :: us)).andThen φ.walk)
    rw [read_andThen, Walk.accept_pos hk]
    exact (tracks_shift hv (not_eof hp hk)).andThen φ.walk_along fun _ hw => ih hw
  | upTo closer φ ih =>
    by_cases ht : φ.takes = true
    · rw [recognizer_upTo closer ht rfl (φ.interpret.2 ht), walk_upTo closer ht]
      exact tracks_loop φ.walk_along (takes_shrinks ht) (fun v us hv _ => ih hv) h
    · have hr : (upTo closer φ).recognizer = Recognizer.done := by
        rw [recognizer, interpret, dif_neg ht]
      rw [hr, walk, if_neg ht]
      exact .through h.two_or_end rfl rfl rfl h

end Phrase

end TeenyFront
