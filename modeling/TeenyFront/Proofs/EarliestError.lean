import TeenyFront.Proofs.Acceptance

/-!
# The earliest error

A syntax error is reported at the first token that no program goes on with. The tokens in front of
it begin a program, and with it they begin none. A block that nests too deep is the one error that
a program can be behind.
-/

set_option autoImplicit false

namespace TeenyFront

open DerivationTree

def Parser.consumed {σ : Type} (p : Parser σ) : List Token :=
  (Recognizer.program.read p.window).taken

theorem Parser.stuck_at {σ : Type} [Collector σ] {source : String} {trace : σ} {p : Parser σ}
    {e : SyntaxError} (hp : Parser.ofCursor (.ofSource source) trace = .ok p)
    (he : (p.run .program).1 = .error (.syntactic e)) :
    (programWalk (lexing source).tokens).error? = some e ∧
      p.consumed = (programWalk (lexing source).tokens).taken := by
  rcases source_tracks source with ⟨l, hw, -, -⟩ | ⟨w, hw, ht⟩
  · have hw' : Window.ofCursor (.ofSource source) = .error l := hw
    rw [Parser.ofCursor, hw'] at hp
    cases hp
  · have hw' : Window.ofCursor (.ofSource source) = .ok w := hw
    rw [Parser.ofCursor, hw'] at hp
    cases hp
    change (Recognizer.program.read w).result = _ at he
    cases ht with
    | blocked l _ _ hr =>
      rw [hr] at he
      cases he
    | through _ _ hr =>
      rw [hr] at he
      cases he
    | stuck _ e' ho hr hm =>
      rw [hr] at he
      cases he
      exact ⟨ho, congrArg (List.filterMap Move.token?) hm⟩

/-- The tokens that are taken up to an error begin a program. -/
theorem taken_viable {ts : List Token} {e : SyntaxError}
    (h : (programWalk ts).error? = some e) (hc : e.cause ≠ tooDeep) :
    ∃ kinds, Derivable ((programWalk ts).taken.map Token.kind ++ kinds) := by
  obtain ⟨ho, -⟩ := Walk.error?_eq_some.1 h
  obtain ⟨a, us, ha⟩ := (Reads.program nestingLimit).viable ts e.cause ho hc
  let p : Program := ⟨(a.parts.1, a.parts.2, ⟨⟨.eof, "", .start⟩, rfl⟩)⟩
  refine ⟨us.map Token.kind ++ [.eof], p, ?_⟩
  have hk : (programWalk ts).taken.map Token.kind ++ us.map Token.kind =
      (tokens a).map Token.kind := by
    rw [← ha, List.map_append]
    rfl
  rw [Program.kinds, p.tokens_eq, ← List.append_assoc, hk, List.map_append]
  rfl

/-- With the token of the error they begin none, since along its tokens a walk would be stuck at
the same place. -/
theorem error_exact {ts : List Token} {e : SyntaxError}
    (h : (programWalk ts).error? = some e) (hc : e.cause ≠ tooDeep) (kinds : List Kind) :
    ¬Derivable ((programWalk ts).taken.map Token.kind ++ e.token.kind :: kinds) := by
  rintro ⟨p, hp⟩
  obtain ⟨ho, -⟩ := Walk.error?_eq_some.1 h
  have ha : Alike ((programWalk ts).taken.length + 1) ts (tokens p) := by
    rw [Alike, (programWalk_along ts).take_error h, List.map_append, List.map_take, ← Program.kinds,
      hp, ← List.length_map Token.kind]
    show _ ++ (e.token.kind :: kinds).take 1 = _
    exact (List.take_length_add_append 1).symm
  have hn : (programWalk ts).outcome ≠ .starved := ho ▸ Outcome.stuck_ne_starved e.cause
  have hl := Phrase.walk_localAt _ ts hn (tokens p) ha
  have ho' : (programWalk (tokens p)).outcome = .stuck e.cause := hl.1.trans ho
  -- A program is got through, or is refused for its depth alone.
  by_cases hd : depth p ≤ nestingLimit
  · rw [programWalk_within p hd] at ho'
    cases ho'
  · rw [programWalk_beyond p (Nat.lt_of_not_le hd)] at ho'
    exact hc (Outcome.stuck.inj ho').symm

/-- A syntax error other than a block that nests too deep is at the earliest token possible. What
is taken is what stands in front of it; this begins a program, whatever its depth, and with the
kind of the error's token it does not. -/
theorem error_at_earliest_token {σ : Type} [Collector σ] {source : String} {trace : σ}
    {p : Parser σ} {e : SyntaxError} (hp : Parser.ofCursor (.ofSource source) trace = .ok p)
    (he : (p.run .program).1 = .error (.syntactic e))
    (hc : ∀ limit, e.cause ≠ .nestedTooDeep limit) :
    p.consumed = (lexing source).tokens.take p.consumed.length ∧
      (lexing source).tokens[p.consumed.length]? = some e.token ∧
      (∃ kinds, Derivable (p.consumed.map Token.kind ++ kinds)) ∧
      ∀ kinds, ¬Derivable (p.consumed.map Token.kind ++ e.token.kind :: kinds) := by
  obtain ⟨hw, ht⟩ := Parser.stuck_at hp he
  have hfirst := firstSyntaxError?_token (Option.map_eq_some_iff.2 ⟨e, hw, rfl⟩)
  rw [ht]
  exact ⟨(programWalk_along _).take_taken.symm, hfirst, taken_viable hw (hc nestingLimit),
    error_exact hw (hc nestingLimit)⟩

theorem error_at_unassigned_name :
    ∃ p : Parser Unit, Parser.ofCursor (.ofSource "LET a b\n") () = .ok p ∧
      p.consumed = (lexing "LET a b\n").tokens.take p.consumed.length ∧
      (lexing "LET a b\n").tokens[p.consumed.length]? = some ⟨.identifier, "b", ⟨1, 7⟩⟩ ∧
      (∃ kinds, Derivable (p.consumed.map Token.kind ++ kinds)) ∧
      ∀ kinds, ¬Derivable (p.consumed.map Token.kind ++ .identifier :: kinds) := by
  have hp : Parser.ofCursor (.ofSource "LET a b\n") () =
      .ok ⟨⟨⟨.let, "LET", ⟨1, 1⟩⟩, ⟨.identifier, "a", ⟨1, 5⟩⟩, ⟨[' ', 'b', '\n'], ⟨1, 6⟩⟩⟩, ()⟩ :=
    rfl
  exact ⟨_, hp, error_at_earliest_token hp
    (e := ⟨.expected .assign, ⟨.identifier, "b", ⟨1, 7⟩⟩⟩) (by decide +kernel) nofun⟩

end TeenyFront
