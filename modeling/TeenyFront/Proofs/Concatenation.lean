import TeenyFront.Proofs.Acceptance
import TeenyFront.Proofs.Displacement

/-!
# One source behind another

A source behind an accepted one that ends in a line feed is checked as it is alone, only further
down. The blank lines that it begins with are taken by the line end of the last statement in front
of them, so a program is best seen as blank lines and statements wherever it is entered.
-/

set_option autoImplicit false

namespace TeenyFront

open DerivationTree

/-- How the lines of a program go along a list of tokens. -/
def linesWalk (ts : List Token) : Walk :=
  (Phrase.blankLines.walk ts).andThen (Phrase.upTo .eof (Phrase.statement nestingLimit)).walk

theorem events_shifts (ls : List Newline) :
    (ls.map fun l => Move.shift l.token).filterMap Move.event? = [] := by
  rw [List.filterMap_map]
  exact List.filterMap_eq_nil_iff.2 fun _ _ => rfl

theorem blankLines_append (ls : List Newline) (ts : List Token) :
    Phrase.blankLines.walk (tokens ls ++ ts) =
      (Phrase.blankLines.walk ts).after (ls.map fun l => .shift l.token) := by
  induction ls with
  | nil => rfl
  | cons l ls ih =>
    have hb : ∀ us, ((Phrase.accept (· == .newline) Kind.newline_beq_eof .noOperand).andThen
        .done).walk (l.token :: us) = ⟨.through, us, [.shift l.token]⟩ := by
      intro us
      rw [Phrase.walk_andThen_done]
      exact Walk.accept_pos l.holds _ us
    show Phrase.blankLines.walk (l.token :: (tokens ls ++ ts)) = _
    rw [Phrase.blankLines, Phrase.walk_chain] at ih ⊢
    rw [Walk.again_go l.holds (Phrase.takes_shrinks rfl), hb, Walk.andThen_through rfl, ih,
      Walk.after_after]
    rfl

theorem blankLines_stops {ts : List Token} (h : Stops Kind.isNewline ts) :
    Phrase.blankLines.walk ts = ⟨.through, ts, []⟩ := by
  obtain ⟨t, us, rfl, ht⟩ := h
  exact Walk.again_stop ht _ us

theorem lineEnd_walk (t : Newline) (ts : List Token) : Phrase.lineEnd.walk (t.token :: ts) =
    (Phrase.blankLines.walk ts).after [.enter ⟨.newline, none⟩, .shift t.token] := by
  have he : (Phrase.expect .newline).walk (t.token :: ts) = ⟨.through, ts, [.shift t.token]⟩ :=
    Walk.accept_pos t.holds _ ts
  rw [Phrase.lineEnd, Phrase.sequence, Phrase.enter, Phrase.walk_enterWith, Phrase.sequence,
    Phrase.walk_andThen, he, Walk.andThen_through rfl, Phrase.sequence, Phrase.sequence,
    Phrase.walk_andThen_done, Walk.after_after]
  rfl

theorem linesWalk_newlines (ls : List Newline) (ts : List Token) :
    linesWalk (tokens ls ++ ts) = (linesWalk ts).after (ls.map fun l => .shift l.token) := by
  rw [linesWalk, blankLines_append, Walk.after_andThen]
  rfl

theorem linesWalk_begins {ts : List Token} (h : Begins Kind.beginsStatement ts) :
    linesWalk ts = ((Phrase.statement nestingLimit).walk ts).andThen
      (Phrase.upTo .eof (Phrase.statement nestingLimit)).walk := by
  have hline : Stops Kind.isNewline ts := h.stops fun k => by cases k <;> decide
  obtain ⟨t, us, rfl, hk⟩ := h
  have heof : (t.kind != .eof) = true := by
    revert hk
    cases t.kind <;> decide
  rw [linesWalk, blankLines_stops hline, Walk.andThen_through rfl, Phrase.walk_upTo .eof rfl]
  exact Walk.again_go heof (Phrase.takes_shrinks rfl) us

theorem statement_walk {c : Clause} (hd : depth c ≤ nestingLimit) (t : Newline)
    (ts : List Token) : ∃ ms, (Phrase.statement nestingLimit).walk (tokens c ++ t.token :: ts) =
      (Phrase.blankLines.walk ts).after (ms ++ [.enter ⟨.newline, none⟩, .shift t.token]) ∧
      ms.filterMap Move.event? = events c := by
  have hc : Reads nestingLimit (Phrase.choose (Phrase.clause (Phrase.block nestingLimit))).walk
      Clause Kind.continuesExpression := Reads.clause (Reads.block nestingLimit)
  have hstops : Stops Kind.continuesExpression (t.token :: ts) :=
    ⟨_, _, rfl, by rw [beq_iff_eq.1 t.holds]; rfl⟩
  obtain ⟨ms, hw, hev⟩ := hc.walk_eq c hstops hd
  refine ⟨ms, ?_, hev⟩
  rw [Phrase.statement, Phrase.statementWith, Phrase.walk_andThen, hw, Walk.andThen_through rfl,
    lineEnd_walk, Walk.after_after]

theorem linesWalk_statement {s : Statement} (hd : depth s ≤ nestingLimit) (ts : List Token) :
    ∃ ms, linesWalk (tokens s ++ ts) = (linesWalk ts).after ms ∧
      ms.filterMap Move.event? = events s := by
  have hb := Reads.opens_statement s ts
  obtain ⟨c, ⟨⟨t, ls⟩⟩⟩ := s
  obtain ⟨ms, hms, hev⟩ := statement_walk (Nat.max_le.1 hd).1 t (tokens ls ++ ts)
  have htokens : tokens (c, (⟨(t, ls)⟩ : LineEnd)) ++ ts =
      tokens c ++ t.token :: (tokens ls ++ ts) := by
    rw [tokens_pair, List.append_assoc]
    rfl
  refine ⟨ms ++ [.enter ⟨.newline, none⟩, .shift t.token] ++ ls.map fun l => .shift l.token, ?_, ?_⟩
  · rw [linesWalk_begins hb, htokens, hms, Walk.after_andThen, ← linesWalk, linesWalk_newlines,
      Walk.after_after]
  · rw [List.filterMap_append, List.filterMap_append, hev, events_shifts, events_pair,
      events_lineEnd, List.append_nil]
    rfl

theorem linesWalk_statements {ss : List Statement} (hd : depth ss ≤ nestingLimit)
    (ts : List Token) : ∃ ms, linesWalk (tokens ss ++ ts) = (linesWalk ts).after ms ∧
      ms.filterMap Move.event? = events ss := by
  induction ss with
  | nil => exact ⟨[], rfl, rfl⟩
  | cons s ss ih =>
    obtain ⟨hs, hss⟩ := Nat.max_le.1 hd
    obtain ⟨ms, hms, hev⟩ := ih hss
    obtain ⟨ns, hns, hen⟩ := linesWalk_statement hs (tokens ss ++ ts)
    refine ⟨ns ++ ms, ?_, ?_⟩
    · rw [tokens_cons, List.append_assoc, hns, hms, Walk.after_after]
    · rw [List.filterMap_append, hen, hev, events_cons]

/-- Behind the lines of a program its lines could go on. -/
theorem linesWalk_program (p : Program) (hd : depth p ≤ nestingLimit) (ts : List Token) :
    ∃ ms, linesWalk (tokens p.body ++ ts) = (linesWalk ts).after ms ∧
      events p = ⟨.program, none⟩ :: ms.filterMap Move.event? := by
  rw [p.depth_eq] at hd
  rw [p.events_eq]
  generalize p.body = body at hd ⊢
  obtain ⟨ls, block⟩ := body
  obtain ⟨ss, rfl⟩ := exists_ofStatements block
  obtain ⟨ms, hms, hev⟩ := linesWalk_statements (depth_ofStatements ss ▸ (Nat.max_le.1 hd).2) ts
  refine ⟨ls.map (fun l => .shift l.token) ++ ms, ?_, ?_⟩
  · rw [tokens_node, tokens_pair, tokens_ofStatements, List.append_assoc, linesWalk_newlines, hms,
      Walk.after_after]
  · rw [List.filterMap_append, events_shifts, hev, events_node, events_pair, events_blankLines,
      events_ofStatements]

theorem programWalk_cons (t : Token) (ts : List Token) :
    programWalk (t :: ts) = (linesWalk (t :: ts)).after [.enter ⟨.program, none⟩] := by
  rw [programWalk, Phrase.program, Phrase.sequence, Phrase.enter, Phrase.walk_enterWith,
    Phrase.sequence, Phrase.walk_andThen, Phrase.sequence, Phrase.sequence,
    Phrase.walk_andThen_done]
  rfl

theorem programWalk_lines (ts : List Token) : (programWalk ts).outcome = (linesWalk ts).outcome ∧
    (programWalk ts).rest = (linesWalk ts).rest ∧ ((programWalk ts).outcome = .through →
      (programWalk ts).events = ⟨.program, none⟩ :: (linesWalk ts).events) := by
  cases ts with
  | nil =>
    have hp : programWalk [] = .starved := rfl
    have hl : linesWalk [] = .starved := by
      simp [linesWalk, Phrase.blankLines, Phrase.walk_chain, Walk.again, Walk.andThen, Walk.starved]
    rw [hp, hl]
    refine ⟨rfl, rfl, fun h => ?_⟩
    cases h
  | cons t ts =>
    rw [programWalk_cons]
    refine ⟨rfl, rfl, fun _ => ?_⟩
    rw [Walk.after_events]
    rfl

/-- What is behind a program that could go on is read as a program of its own. -/
theorem programWalk_append (p : Program) (hd : depth p ≤ nestingLimit) (ts : List Token) :
    (programWalk (tokens p.body ++ ts)).outcome = (programWalk ts).outcome ∧
      (programWalk (tokens p.body ++ ts)).rest = (programWalk ts).rest ∧
      ((programWalk ts).outcome = .through → ∃ es,
        (programWalk ts).events = ⟨.program, none⟩ :: es ∧
        (programWalk (tokens p.body ++ ts)).events = events p ++ es) := by
  obtain ⟨ms, hms, hev⟩ := linesWalk_program p hd ts
  obtain ⟨ho, hr, he⟩ := programWalk_lines (tokens p.body ++ ts)
  obtain ⟨ho', hr', he'⟩ := programWalk_lines ts
  have hout : (programWalk (tokens p.body ++ ts)).outcome = (programWalk ts).outcome := by
    rw [ho, hms, ho']
    rfl
  refine ⟨hout, ?_, fun h => ⟨_, he' h, ?_⟩⟩
  · rw [hr, hms, hr']
    rfl
  · rw [he (hout.trans h), hms, Walk.after_events, hev]
    rfl

theorem programWalk_down (k : Nat) (ts : List Token) :
    programWalk (ts.map (Token.down k)) = (programWalk ts).down k :=
  Phrase.walk_down (Phrase.Textual.program nestingLimit).placeless ts

theorem terminated_append {cs ds : List Char} (h : ds ≠ []) :
    Cursor.terminated (cs ++ ds) = cs ++ Cursor.terminated ds := by
  unfold Cursor.terminated
  obtain ⟨c, hc⟩ := Option.isSome_iff_exists.1 (List.getLast?_isSome.2 h)
  rw [List.getLast?_append, hc, Option.some_or]
  split <;> simp

section

variable {front back : String} (hf : front.toList.getLast? = some '\n') (hb : back ≠ "")

include hf

theorem terminated_lines : Cursor.terminated front.toList = front.toList := if_pos hf

theorem behind_lines : Cursor.mk (Cursor.terminated back.toList)
    ((Cursor.ofSource front).position.after (Cursor.ofSource front).rest) =
      (Cursor.ofSource back).down (front.toList.count '\n') := by
  have hpos : (Cursor.ofSource front).position.after (Cursor.ofSource front).rest =
      Position.start.down (front.toList.count '\n') := by
    rw [← Position.behind_line hf, ← Position.start_after]
    exact congrArg _ (terminated_lines hf)
  rw [hpos]
  rfl

include hb

theorem ofSource_append : Cursor.ofSource (front ++ back) =
    (Cursor.ofSource front).followedBy (Cursor.terminated back.toList) := by
  have hne : back.toList ≠ [] := by
    intro he
    exact hb (String.ext he)
  rw [Cursor.ofSource, String.toList_append, terminated_append hne, Cursor.followedBy,
    Cursor.ofSource, terminated_lines hf]

theorem lexing_append {ts : List Token} {t : Token}
    (h : (lexing front).result = .ok (ts ++ [t])) :
    (lexing (front ++ back)).tokens =
        ts ++ (lexing back).tokens.map (Token.down (front.toList.count '\n')) ∧
      (lexing (front ++ back)).error? =
        (lexing back).error?.map (LexicalError.down (front.toList.count '\n')) := by
  obtain ⟨herror, htokens⟩ := Lexing.result_eq_ok.1 h
  obtain ⟨us, u, hus, -, ht, he⟩ := Cursor.lex_followedBy (c := Cursor.ofSource front)
    (.terminated _) herror (Cursor.terminated back.toList)
  rw [behind_lines hf, ← ofSource_append hf hb] at ht he
  have hl := (Translation.down (front.toList.count '\n')).lex_cursor (.ofSource back)
  change Cursor.lex ((Cursor.ofSource back).down _) = _ at hl
  rw [hl] at ht he
  have hts : us = ts := (List.append_inj' (hus.symm.trans htokens) rfl).1
  rw [hts] at ht
  exact ⟨ht, he⟩

theorem lexing_append_error {e : LexicalError} (h : (lexing front).result = .error e) :
    (lexing (front ++ back)).tokens = (lexing front).tokens ∧
      (lexing (front ++ back)).error? = some e := by
  have herror : (Cursor.ofSource front).lex.error? = some e := Lexing.result_eq_error.1 h
  have hl := Cursor.lex_followedBy_error (.terminated _) herror (Cursor.terminated back.toList)
  rw [← ofSource_append hf hb] at hl
  exact hl

/-- Lexing goes by lines. An error in whole lines is the error with any source behind them, after
the same tokens. Lines that are lexed give their tokens without the end token, and behind these come
the tokens or the error of the other source, as many lines further down as there are line feeds. -/
theorem lexing_line_by_line :
    (∀ e, (lexing front).result = .error e →
      (lexing (front ++ back)).tokens = (lexing front).tokens ∧
        (lexing (front ++ back)).error? = some e) ∧
    ∀ ts, (lexing front).result = .ok ts → ∃ before t, ts = before ++ [t] ∧ t.kind = .eof ∧
      (lexing (front ++ back)).tokens =
        before ++ (lexing back).tokens.map (Token.down (front.toList.count '\n')) ∧
      (lexing (front ++ back)).error? =
        (lexing back).error?.map (LexicalError.down (front.toList.count '\n')) := by
  constructor
  · intro e h
    exact lexing_append_error hf hb h
  · intro ts h
    obtain ⟨herror, rfl⟩ := Lexing.result_eq_ok.1 h
    obtain ⟨before, t, ht, hk⟩ := Cursor.lex_ends (Cursor.ofSource front) herror
    have hts : (lexing front).tokens = before ++ [t] := ht
    rw [hts] at h ⊢
    exact ⟨before, t, rfl, hk, lexing_append hf hb h⟩

end

/-- An open string ends the lexing in its own line, be it the last or not. -/
theorem lexing_line_by_line_open_string :
    (lexing ("PRINT \"50 \n" ++ "\"\n")).error? =
        some ⟨.forbiddenInString '\n', ⟨1, 11⟩⟩ ∧
      ∃ before t, (lexing "LET a = 1 # \"\n\n").tokens = before ++ [t] ∧
        (lexing ("LET a = 1 # \"\n\n" ++ "b \"50%\"")).tokens =
          before ++ [⟨.identifier, "b", ⟨3, 1⟩⟩] ∧
        (lexing ("LET a = 1 # \"\n\n" ++ "b \"50%\"")).error? =
          some ⟨.forbiddenInString '%', ⟨3, 6⟩⟩ := by
  constructor
  · exact ((lexing_line_by_line (by decide) (by decide)).1 _ (by decide +kernel)).2
  · have hs : (lexing "b \"50%\"").tokens = [⟨.identifier, "b", ⟨1, 1⟩⟩] ∧
        (lexing "b \"50%\"").error? = some ⟨.forbiddenInString '%', ⟨1, 6⟩⟩ := by decide +kernel
    have hr : (lexing "LET a = 1 # \"\n\n").result =
        .ok (lexing "LET a = 1 # \"\n\n").tokens := by decide +kernel
    obtain ⟨before, t, ht, -, htokens, herror⟩ :=
      (lexing_line_by_line (by decide) (show "b \"50%\"" ≠ "" by decide)).2 _ hr
    rw [hs.1] at htokens
    rw [hs.2] at herror
    exact ⟨before, t, ht, htokens, herror⟩

theorem programWalk_behind {front back : String} {p : Program}
    (hf : front.toList.getLast? = some '\n') (hb : back ≠ "")
    (hp : (lexing front).result = .ok (tokens p)) (hd : depth p ≤ nestingLimit) :
    (programWalk (lexing (front ++ back)).tokens).outcome =
        (programWalk (lexing back).tokens).outcome ∧
      (programWalk (lexing (front ++ back)).tokens).rest =
        (programWalk (lexing back).tokens).rest.map (Token.down (front.toList.count '\n')) ∧
      ((programWalk (lexing back).tokens).outcome = .through → ∃ es,
        (programWalk (lexing back).tokens).events = ⟨.program, none⟩ :: es ∧
        (programWalk (lexing (front ++ back)).tokens).events = events p ++ es) := by
  rw [p.tokens_eq] at hp
  rw [(lexing_append hf hb hp).1]
  obtain ⟨ho, hr, hv⟩ := programWalk_append p hd
    ((lexing back).tokens.map (Token.down (front.toList.count '\n')))
  rw [programWalk_down] at ho hr hv
  rw [Walk.events_down] at hv
  exact ⟨ho, hr, hv⟩

def ParseError.down (k : Nat) : ParseError → ParseError
  | lexical e => lexical (e.down k)
  | syntactic e => syntactic (e.down k)

theorem parse_empty : parse "" = .ok #[⟨.program, none⟩] := by decide +kernel

/-- A source behind an accepted one that ends in a line feed is accepted with its own events, or it
is refused with its own error on a later line. -/
theorem parse_append {front back : String} {trace : Array Event}
    (hf : front.toList.getLast? = some '\n') (h : parse front = .ok trace) :
    (∀ trace', parse back = .ok trace' → ∃ es, trace'.toList = ⟨.program, none⟩ :: es ∧
      parse (front ++ back) = .ok (trace ++ es.toArray)) ∧
    ∀ e, parse back = .error e →
      parse (front ++ back) = .error (e.down (front.toList.count '\n')) := by
  by_cases hb : back = ""
  · subst hb
    rw [parse_empty, String.append_empty, h]
    constructor
    · intro trace' ht
      cases ht
      exact ⟨[], rfl, by simp⟩
    · intro e he
      cases he
  · obtain ⟨p, hp, hv, hd⟩ := parse_ok h
    obtain ⟨ho, hr, hev⟩ := programWalk_behind hf hb hp hd
    have hlex := (lexing_append hf hb (p.tokens_eq ▸ hp)).2
    rcases parse_cases back with ⟨e, he, hlt, hback⟩ | ⟨hk, e, he, hback⟩ | ⟨he, hthrough, hback⟩
    · rw [he] at hlex
      have hlen : (programWalk (lexing (front ++ back)).tokens).rest.length < 2 := by
        rw [hr, List.length_map]
        exact hlt
      rw [hback, parse_of_blocked hlex hlen]
      constructor
      · intro trace' ht
        cases ht
      · intro e' he'
        cases he'
        rfl
    · have hk' : (lexing (front ++ back)).error? = none ∨
          2 ≤ (programWalk (lexing (front ++ back)).tokens).rest.length := by
        rw [hlex, hr, List.length_map, Option.map_eq_none_iff]
        exact hk
      have he' : (programWalk (lexing (front ++ back)).tokens).error? =
          some (e.down (front.toList.count '\n')) := by
        rw [Walk.error?_congr (w := (programWalk (lexing back).tokens).down _) ho hr,
          Walk.error?_down, he]
        rfl
      rw [hback, parse_of_stuck hk' he']
      constructor
      · intro trace' ht
        cases ht
      · intro e' he'
        cases he'
        rfl
    · obtain ⟨es, hes, happend⟩ := hev hthrough
      rw [he] at hlex
      rw [hback, parse_of_through hlex (ho.trans hthrough), happend, ← hv]
      constructor
      · intro trace' ht
        cases ht
        exact ⟨es, hes, by simp⟩
      · intro e he
        cases he

/-- The blank line that begins a second source is taken by the line end in front of it, and an error
in the second source is two lines further down. -/
theorem parse_append_print :
    parse ("PRINT \"a\"\n\n" ++ "\nLABEL b") = .ok #[⟨.program, none⟩, ⟨.printStatement, none⟩,
      ⟨.newline, none⟩, ⟨.labelStatement, none⟩, ⟨.newline, none⟩] ∧
    parse ("PRINT \"a\"\n\n" ++ "\nGOTO 1") =
      .error (.syntactic ⟨.expected .identifier, ⟨.number, "1", ⟨4, 6⟩⟩⟩) := by
  have hf : "PRINT \"a\"\n\n".toList.getLast? = some '\n' := by decide
  have h : parse "PRINT \"a\"\n\n" =
      .ok #[⟨.program, none⟩, ⟨.printStatement, none⟩, ⟨.newline, none⟩] := by decide +kernel
  have hok : parse "\nLABEL b" =
      .ok #[⟨.program, none⟩, ⟨.labelStatement, none⟩, ⟨.newline, none⟩] := by decide +kernel
  have herror : parse "\nGOTO 1" =
      .error (.syntactic ⟨.expected .identifier, ⟨.number, "1", ⟨2, 6⟩⟩⟩) := by decide +kernel
  obtain ⟨es, hes, happend⟩ := (parse_append hf h).1 _ hok
  cases hes
  exact ⟨happend, (parse_append hf h).2 _ herror⟩

end TeenyFront
