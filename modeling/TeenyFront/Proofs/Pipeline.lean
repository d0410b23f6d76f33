import TeenyFront.Proofs.Descent
import TeenyFront.Proofs.Lookahead

/-!
# Checking a source

Checking a source is walking along its tokens. Lexing runs ahead by one token of what the grammar
looks at, so a syntax error is reported only if two more tokens can be lexed from it on, and else
the lexical error behind them is. Nothing is accepted that cannot be lexed to its end.
-/

set_option autoImplicit false

namespace TeenyFront

instance decidableEqExcept {ε α : Type} [DecidableEq ε] [DecidableEq α] :
    DecidableEq (Except ε α)
  | .error e, .error e' => decidable_of_iff (e = e') (Iff.symm (Except.error.injEq e e' ▸ Iff.rfl))
  | .ok a, .ok b => decidable_of_iff (a = b) (Iff.symm (Except.ok.injEq a b ▸ Iff.rfl))
  | .error _, .ok _ => isFalse nofun
  | .ok _, .error _ => isFalse nofun

def lexing (source : String) : Lexing := (TokenStream.ofSource source).remaining

/-- How a program goes along a list of tokens. -/
def programWalk (ts : List Token) : Walk := (Phrase.program nestingLimit).walk ts

theorem programWalk_along (ts : List Token) : Walk.Along ts (programWalk ts) :=
  Phrase.walk_along _ ts

theorem programWalk_through {ts : List Token} (h : (programWalk ts).outcome = .through) :
    ∃ t us, (programWalk ts).rest = t :: us ∧ t.kind = .eof := by
  obtain ⟨he, h⟩ := Walk.through_of_andThen h
  obtain ⟨hb, h⟩ := Walk.through_of_andThen h
  obtain ⟨hu, -⟩ := Walk.through_of_andThen h
  rw [programWalk, Phrase.program, Phrase.sequence, Phrase.walk_andThen, Walk.andThen_rest he,
    Phrase.sequence, Phrase.walk_andThen, Walk.andThen_rest hb, Phrase.sequence,
    Phrase.walk_andThen, Walk.andThen_rest hu]
  rw [Phrase.walk_upTo .eof rfl] at hu ⊢
  obtain ⟨t, us, hr, hk⟩ := Walk.again_through (Phrase.takes_shrinks rfl) hu
  exact ⟨t, us, hr, by simpa using hk⟩

theorem traceInto_unwindowed {source : String} {e : LexicalError}
    (h : Window.ofSource source = .error e) :
    traceInto source (#[] : Array Event) = (.error (.lexical e), #[]) := by
  have hw : Window.ofCursor (.ofSource source) = .error e := h
  rw [traceInto_eq_run, Parser.ofCursor, hw]

theorem parse_unwindowed {source : String} {e : LexicalError}
    (h : Window.ofSource source = .error e) : parse source = .error (.lexical e) := by
  rw [parse, traceInto_unwindowed h]

theorem traceInto_windowed {source : String} {w : Window} (h : Window.ofSource source = .ok w) :
    traceInto source #[] = ((Recognizer.program.read w).result,
      (Recognizer.program.read w).events.toArray) := by
  have hw : Window.ofCursor (.ofSource source) = .ok w := h
  rw [traceInto_eq_run, Parser.ofCursor, hw]
  refine Prod.ext rfl ?_
  simp [Parser.run, Collector.add]

theorem parse_windowed {source : String} {w : Window} (h : Window.ofSource source = .ok w) :
    parse source = (Recognizer.program.read w).result.map fun _ =>
      (Recognizer.program.read w).events.toArray := by
  rw [parse, traceInto_windowed h]
  cases (Recognizer.program.read w).result <;> rfl

/-- The window over a source fails, or a program is read through it as along its tokens. -/
theorem source_tracks (source : String) :
    (∃ e, Window.ofSource source = .error e ∧ (lexing source).error? = some e ∧
      (lexing source).tokens.length < 2) ∨
    ∃ w, Window.ofSource source = .ok w ∧ Reading.Tracks (lexing source).error?
      (Recognizer.program.read w) (programWalk (lexing source).tokens) := by
  rcases Window.ofCursor_shows (.ofSource source) with h | ⟨w, hw, hs⟩
  · exact .inl h
  · refine .inr ⟨w, hw, ?_⟩
    rw [← Phrase.recognizer_program]
    exact Phrase.tracks _ hs

/-- What checking a source comes to: the lexical error behind its tokens, the syntax error that
its tokens are stuck with, or the events of its tokens. -/
theorem parse_cases (source : String) :
    (∃ e, (lexing source).error? = some e ∧
      (programWalk (lexing source).tokens).rest.length < 2 ∧
      parse source = .error (.lexical e)) ∨
    (((lexing source).error? = none ∨ 2 ≤ (programWalk (lexing source).tokens).rest.length) ∧
      ∃ e, (programWalk (lexing source).tokens).error? = some e ∧
        parse source = .error (.syntactic e)) ∨
    ((lexing source).error? = none ∧ (programWalk (lexing source).tokens).outcome = .through ∧
      parse source = .ok (programWalk (lexing source).tokens).events.toArray) := by
  have hl := (programWalk_along (lexing source).tokens).length_eq
  rcases source_tracks source with ⟨e, hw, he, ht⟩ | ⟨w, hw, ht⟩
  · exact .inl ⟨e, he, by omega, parse_unwindowed hw⟩
  · rw [parse_windowed hw]
    cases ht with
    | blocked e he hk hr => exact .inl ⟨e, he, hk, by rw [hr]; rfl⟩
    | stuck hk e he hr => exact .inr (.inl ⟨hk, e, he, by rw [hr]; rfl⟩)
    | through hk ho hr hm =>
      obtain ⟨t, us, hrest, ht⟩ := programWalk_through ho
      have hs := (programWalk_along (lexing source).tokens).split
      rw [hrest] at hs
      refine .inr (.inr ⟨(Cursor.lex_behind_end _ hs.symm ht).2, ho, ?_⟩)
      rw [hr, Reading.events, hm]
      rfl

section

variable {source : String}

theorem parse_of_blocked {e : LexicalError} (he : (lexing source).error? = some e)
    (hr : (programWalk (lexing source).tokens).rest.length < 2) :
    parse source = .error (.lexical e) := by
  rcases parse_cases source with ⟨e', he', -, h⟩ | ⟨hk, -⟩ | ⟨hn, -⟩
  · rw [he] at he'
    cases he'
    exact h
  · rw [he] at hk
    have hle := hk.resolve_left nofun
    omega
  · rw [he] at hn
    cases hn

theorem parse_of_stuck {e : SyntaxError} (hk : (lexing source).error? = none ∨
      2 ≤ (programWalk (lexing source).tokens).rest.length)
    (he : (programWalk (lexing source).tokens).error? = some e) :
    parse source = .error (.syntactic e) := by
  rcases parse_cases source with ⟨e', he', hr, -⟩ | ⟨-, e', he', h⟩ | ⟨-, ho, -⟩
  · rw [he'] at hk
    have hle := hk.resolve_left nofun
    omega
  · rw [he] at he'
    cases he'
    exact h
  · rw [Walk.error?_eq_some, ho] at he
    cases he.1

theorem parse_of_through (he : (lexing source).error? = none)
    (ho : (programWalk (lexing source).tokens).outcome = .through) :
    parse source = .ok (programWalk (lexing source).tokens).events.toArray := by
  rcases parse_cases source with ⟨e', he', -⟩ | ⟨-, e', he', -⟩ | ⟨-, -, h⟩
  · rw [he] at he'
    cases he'
  · rw [Walk.error?_eq_some, ho] at he'
    cases he'.1
  · exact h

end

def firstSyntaxError? (ts : List Token) : Option (Nat × SyntaxError) :=
  (programWalk ts).error?.map fun e => ((programWalk ts).taken.length, e)

theorem firstSyntaxError?_eq_some {ts : List Token} {k : Nat} {e : SyntaxError}
    (h : firstSyntaxError? ts = some (k, e)) :
    (programWalk ts).error? = some e ∧ (programWalk ts).taken.length = k := by
  obtain ⟨e', he, hp⟩ := Option.map_eq_some_iff.1 h
  obtain ⟨rfl, rfl⟩ := Prod.mk.inj hp
  exact ⟨he, rfl⟩

theorem firstSyntaxError?_token {ts : List Token} {k : Nat} {e : SyntaxError}
    (h : firstSyntaxError? ts = some (k, e)) : ts[k]? = some e.token := by
  obtain ⟨he, rfl⟩ := firstSyntaxError?_eq_some h
  exact (programWalk_along ts).getElem?_error he

section

variable {source : String}

theorem parse_syntactic {k : Nat} {e : SyntaxError}
    (h : firstSyntaxError? (lexing source).tokens = some (k, e))
    (hk : ∀ l, (lexing source).error? = some l → k + 2 ≤ (lexing source).tokens.length) :
    parse source = .error (.syntactic e) := by
  obtain ⟨he, rfl⟩ := firstSyntaxError?_eq_some h
  have hl := (programWalk_along (lexing source).tokens).length_eq
  refine parse_of_stuck ?_ he
  cases hs : (lexing source).error? with
  | none => exact .inl rfl
  | some l =>
    have hlt := hk l hs
    exact .inr (by omega)

theorem parse_lexical {l : LexicalError} (h : (lexing source).error? = some l)
    (hk : ∀ k e, firstSyntaxError? (lexing source).tokens = some (k, e) →
      (lexing source).tokens.length < k + 2) : parse source = .error (.lexical l) := by
  have hl := (programWalk_along (lexing source).tokens).length_eq
  rcases parse_cases source with ⟨l', hl', -, hp⟩ | ⟨hw, e, he, -⟩ | ⟨hn, -, -⟩
  · rw [h] at hl'
    obtain rfl := Option.some.inj hl'
    exact hp
  · have hlt := hk _ e (Option.map_eq_some_iff.2 ⟨e, he, rfl⟩)
    rcases hw with hw | hw
    · rw [h] at hw
      cases hw
    · omega
  · rw [h] at hn
    cases hn

theorem parse_accepts (hn : (lexing source).error? = none)
    (hf : firstSyntaxError? (lexing source).tokens = none) :
    ∃ events, parse source = .ok events := by
  rcases parse_cases source with ⟨l, hl, -, -⟩ | ⟨-, e, he, -⟩ | ⟨-, -, hp⟩
  · rw [hn] at hl
    cases hl
  · rw [firstSyntaxError?, he] at hf
    cases hf
  · exact ⟨_, hp⟩

theorem parse_rejects {l : LexicalError} (h : (lexing source).result = .error l)
    (events : Array Event) : parse source ≠ .ok events := by
  intro hp
  rw [Lexing.result_eq_error] at h
  rcases parse_cases source with ⟨_, -, -, hp'⟩ | ⟨-, _, -, hp'⟩ | ⟨hn, -, -⟩
  · rw [hp] at hp'
    cases hp'
  · rw [hp] at hp'
    cases hp'
  · rw [h] at hn
    cases hn

theorem parse_lexical_eq {l : LexicalError} (h : parse source = .error (.lexical l)) :
    (lexing source).result = .error l := by
  rw [Lexing.result_eq_error]
  rcases parse_cases source with ⟨l', hl', -, hp⟩ | ⟨-, _, -, hp⟩ | ⟨-, -, hp⟩
  · rw [h] at hp
    cases hp
    exact hl'
  · rw [h] at hp
    cases hp
  · rw [h] at hp
    cases hp

end

/-- Which of a lexical and a syntax error is reported. The syntax error that is met first along
the tokens is, if the token behind it can be lexed as well; otherwise the lexical error is, if
there is one. A source that cannot be lexed to its end is not accepted, and a lexical error is
reported as lexing alone reports it. -/
theorem reported_error (source : String) :
    (∀ k e, firstSyntaxError? (lexing source).tokens = some (k, e) →
      (lexing source).tokens[k]? = some e.token ∧
      ((∀ l, (lexing source).error? = some l → k + 2 ≤ (lexing source).tokens.length) →
        parse source = .error (.syntactic e))) ∧
    (∀ l, (lexing source).error? = some l →
      (∀ k e, firstSyntaxError? (lexing source).tokens = some (k, e) →
        (lexing source).tokens.length < k + 2) →
      parse source = .error (.lexical l)) ∧
    ((lexing source).error? = none → firstSyntaxError? (lexing source).tokens = none →
      ∃ events, parse source = .ok events) ∧
    (∀ l events, (lexing source).result = .error l → parse source ≠ .ok events) ∧
    ∀ l, parse source = .error (.lexical l) → (lexing source).result = .error l := by
  refine ⟨fun k e h => ⟨firstSyntaxError?_token h, parse_syntactic h⟩, ?_, ?_, ?_, ?_⟩
  · intro l h hk
    exact parse_lexical h hk
  · intro hn hf
    exact parse_accepts hn hf
  · intro l events h
    exact parse_rejects h events
  · intro l h
    exact parse_lexical_eq h

end TeenyFront
