import TeenyFront.Proofs.Language
import TeenyFront.Proofs.Pipeline

/-!
# Accepted sources

A source is accepted if its tokens are those of a program whose blocks nest no deeper than the
limit, and then there is one such program only. Its rules in pre-order are the trace.
-/

set_option autoImplicit false

namespace TeenyFront

open DerivationTree

namespace Program

def body (p : Program) : Node .program (List Newline × Block) := ⟨(p.parts.1, p.parts.2.1)⟩

def ending (p : Program) : Exactly .eof := p.parts.2.2

theorem tokens_eq (p : Program) : tokens p = tokens p.body ++ [p.ending.token] := by
  obtain ⟨lines, block, ending⟩ := p
  exact (List.append_assoc (tokens lines) (tokens block) [ending.token]).symm

theorem events_eq (p : Program) : events p = events p.body := by
  obtain ⟨lines, block, ending⟩ := p
  exact congrArg (fun vs => _ :: (events lines ++ vs)) (List.append_nil (events block))

theorem depth_eq (p : Program) : depth p = depth p.body := by
  obtain ⟨lines, block, ending⟩ := p
  exact congrArg (max (depth lines)) (Nat.max_zero (depth block))

theorem stops_ending (p : Program) : Stops (· != .eof) [p.ending.token] :=
  ⟨_, _, rfl, bne_eq_false_iff_eq.2 (beq_iff_eq.1 p.ending.holds)⟩

theorem eq_of_tokens_eq {p q : Program} (h : tokens p = tokens q) : p = q := by
  rw [tokens_eq, tokens_eq] at h
  have hb : p.body = q.body := (Reads.program (max (depth p.body) (depth q.body))).unique _ _ _ _ h
    p.stops_ending q.stops_ending (Nat.le_max_left _ _) (Nat.le_max_right _ _)
  rw [hb] at h
  have he : p.ending = q.ending :=
    Leaf.ext (List.cons.inj (List.append_cancel_left h)).1
  obtain ⟨lines, block, ending⟩ := p
  obtain ⟨lines', block', ending'⟩ := q
  cases hb
  cases he
  rfl

end Program

theorem programWalk_within (p : Program) (h : depth p ≤ nestingLimit) :
    (programWalk (tokens p)).outcome = .through := by
  rw [p.depth_eq] at h
  rw [p.tokens_eq]
  exact ((Reads.program nestingLimit).complete p.body _ p.stops_ending h).1

theorem programWalk_beyond (p : Program) (h : nestingLimit < depth p) :
    (programWalk (tokens p)).outcome = .stuck tooDeep := by
  rw [p.depth_eq] at h
  rw [p.tokens_eq]
  exact (Reads.program nestingLimit).deep p.body _ p.stops_ending h

theorem programWalk_kinds {ts us : List Token} (h : ts.map Token.kind = us.map Token.kind)
    (ho : (programWalk ts).outcome ≠ .starved) :
    (programWalk us).outcome = (programWalk ts).outcome := by
  refine (Phrase.walk_localAt _ ts ho us ?_).1
  rw [Alike, List.map_take, List.map_take, h]

/-- Tokens that a walk gets through are those of a program, if nothing is behind the end token that
it stops at. -/
theorem exists_program {ts : List Token} (h : (programWalk ts).outcome = .through)
    (hl : ∀ t us, (programWalk ts).rest = t :: us → t.kind = .eof → us = []) :
    ∃ p : Program, tokens p = ts ∧ events p = (programWalk ts).events ∧
      depth p ≤ nestingLimit := by
  obtain ⟨a, hd, ht, hv⟩ := (Reads.program nestingLimit).sound ts h
  obtain ⟨t, us, hr, hk⟩ := programWalk_through h
  obtain rfl := hl t us hr hk
  let p : Program := ⟨(a.parts.1, a.parts.2, ⟨t, beq_iff_eq.2 hk⟩)⟩
  refine ⟨p, ?_, p.events_eq.trans hv.symm, p.depth_eq ▸ hd⟩
  have hs := (programWalk_along ts).split
  rw [hr] at hs
  rw [p.tokens_eq, ← hs]
  exact congrArg (· ++ [t]) ht.symm

theorem parse_ok {source : String} {trace : Array Event} (h : parse source = .ok trace) :
    ∃ p : Program, (lexing source).result = .ok (tokens p) ∧ trace.toList = events p ∧
      depth p ≤ nestingLimit := by
  rcases parse_cases source with ⟨e, -, -, hp⟩ | ⟨-, e, -, hp⟩ | ⟨he, ho, hp⟩
  · rw [hp] at h
    cases h
  · rw [hp] at h
    cases h
  · rw [hp] at h
    cases h
    obtain ⟨p, ht, hv, hd⟩ := exists_program ho fun t us hr hk => by
      have hs := (programWalk_along (lexing source).tokens).split
      rw [hr] at hs
      exact (Cursor.lex_behind_end _ hs.symm hk).1
    exact ⟨p, Lexing.result_eq_ok.2 ⟨he, ht.symm⟩, hv.symm, hd⟩

theorem parse_derivable {source : String} {ts : List Token}
    (h : (lexing source).result = .ok ts)
    (hd : DerivableWithin nestingLimit (ts.map Token.kind)) :
    ∃ trace, parse source = .ok trace := by
  obtain ⟨he, rfl⟩ := Lexing.result_eq_ok.1 h
  obtain ⟨p, hk, hd⟩ := hd
  have hp := programWalk_within p hd
  have ho : (programWalk (lexing source).tokens).outcome = .through :=
    (programWalk_kinds hk (hp ▸ Outcome.through_ne_starved)).trans hp
  rcases parse_cases source with ⟨e, he', -, -⟩ | ⟨-, e, he', -⟩ | ⟨-, -, hp⟩
  · rw [he] at he'
    cases he'
  · rw [Walk.error?_eq_some, ho] at he'
    cases he'.1
  · exact ⟨_, hp⟩

/-- A source is accepted exactly if it can be lexed and the kinds of its tokens are derivable
with blocks that nest no deeper than the limit. -/
theorem accepted_iff_derivable (source : String) :
    (∃ trace, parse source = .ok trace) ↔
      ∃ ts, (lexing source).result = .ok ts ∧
        DerivableWithin nestingLimit (ts.map Token.kind) := by
  constructor
  · rintro ⟨trace, h⟩
    obtain ⟨p, ht, -, hd⟩ := parse_ok h
    exact ⟨tokens p, ht, p, rfl, hd⟩
  · rintro ⟨ts, h, hd⟩
    exact parse_derivable h hd

namespace Derivation

/-- Derivations of the same tokens differ in no more than the line ends that the blank lines are
grouped into. -/
theorem tokens_eq_iff {d d' : Derivation} : tokens d = tokens d' ↔
    tokens d.leading = tokens d'.leading ∧ d.block = d'.block ∧ d.ending = d'.ending := by
  constructor
  · intro h
    rw [← tokens_ungrouped, ← tokens_ungrouped] at h
    obtain ⟨hlines, hrest⟩ := Prod.mk.inj (Node.mk.inj (Program.eq_of_tokens_eq h))
    obtain ⟨hblock, hending⟩ := Prod.mk.inj hrest
    refine ⟨?_, hblock, hending⟩
    rw [← d.tokens_blankLines, ← d'.tokens_blankLines, hlines]
  · rintro ⟨hleading, hblock, hending⟩
    show tokens d.leading ++ (tokens d.block ++ [d.ending.token]) = _
    rw [hleading, hblock, hending]
    rfl

theorem events_eq {d d' : Derivation} (h : d.block = d'.block) : events d = events d' :=
  congrArg (fun b => ⟨.program, none⟩ :: events b) h

theorem leading_nil {ls : List LineEnd} (h : tokens ls = []) : ls = [] := by
  cases ls with
  | nil => rfl
  | cons l ls => cases h

theorem leading_singleton {ls : List LineEnd} {t : Token} (h : tokens ls = [t]) :
    ∃ x : Newline, x.token = t ∧ ls = [⟨(x, [])⟩] := by
  cases ls with
  | nil => cases h
  | cons l ls =>
    obtain ⟨x, xs⟩ := l
    obtain ⟨rfl, hrest⟩ := List.cons.inj (h : x.token :: (tokens xs ++ tokens ls) = [t])
    obtain ⟨hxs, hls⟩ := List.append_eq_nil_iff.1 hrest
    cases xs with
    | nil => exact ⟨x, rfl, by rw [leading_nil hls]⟩
    | cons y ys => cases hxs

theorem leading_eq {ls ls' : List LineEnd} (h : tokens ls = tokens ls')
    (hle : (tokens ls).length ≤ 1) : ls = ls' := by
  match hl : tokens ls, hle with
  | [], _ => rw [leading_nil hl, leading_nil (h.symm.trans hl)]
  | [t], _ =>
    obtain ⟨x, hx, rfl⟩ := leading_singleton hl
    obtain ⟨y, hy, rfl⟩ := leading_singleton (h.symm.trans hl)
    rw [Leaf.ext (hx.trans hy.symm)]

end Derivation

/-- The tokens of an accepted source have one derivation, up to the grouping of its leading blank
lines, and none but one if there is no more than one such line. However they are grouped, the trace
lists the rules of the derivation in pre-order. -/
theorem trace_lists_derivation {source : String} {trace : Array Event}
    (h : parse source = .ok trace) :
    ∃ d : Derivation, (lexing source).result = .ok (tokens d) ∧
      (∀ d' : Derivation, (lexing source).result = .ok (tokens d') ↔
        tokens d'.leading = tokens d.leading ∧ d'.block = d.block ∧ d'.ending = d.ending) ∧
      (∀ d' : Derivation, (lexing source).result = .ok (tokens d') → trace.toList = events d') ∧
      ((tokens d.leading).length ≤ 1 →
        ∀ d' : Derivation, (lexing source).result = .ok (tokens d') → d' = d) := by
  obtain ⟨p, ht, hv, -⟩ := parse_ok h
  obtain ⟨d, rfl⟩ := Derivation.exists_ungrouped p
  rw [d.tokens_ungrouped] at ht
  rw [d.events_ungrouped] at hv
  have hiff (d' : Derivation) : (lexing source).result = .ok (tokens d') ↔
      tokens d'.leading = tokens d.leading ∧ d'.block = d.block ∧ d'.ending = d.ending := by
    rw [ht, ← Derivation.tokens_eq_iff]
    exact ⟨fun he => (Except.ok.inj he).symm, fun he => congrArg _ he.symm⟩
  refine ⟨d, ht, hiff, ?_, ?_⟩
  · intro d' hd
    rw [hv]
    exact Derivation.events_eq ((hiff d').1 hd).2.1.symm
  · intro hle d' hd
    obtain ⟨hleading, hblock, hending⟩ := (hiff d').1 hd
    have hlines := Derivation.leading_eq hleading.symm hle
    obtain ⟨leading, block, ending⟩ := d'
    cases hlines
    cases hblock
    cases hending
    rfl

theorem trace_lists_empty_block : ∃ d : Derivation,
    (lexing "\nIF a > 1 THEN\nENDIF\n").result = .ok (tokens d) ∧
      (∀ d' : Derivation, (lexing "\nIF a > 1 THEN\nENDIF\n").result = .ok (tokens d') ↔
        tokens d'.leading = tokens d.leading ∧ d'.block = d.block ∧ d'.ending = d.ending) ∧
      (∀ d' : Derivation, (lexing "\nIF a > 1 THEN\nENDIF\n").result = .ok (tokens d') →
        [⟨.program, none⟩, ⟨.ifStatement, none⟩, ⟨.comparison, none⟩, ⟨.expression, none⟩,
          ⟨.term, none⟩, ⟨.unary, none⟩, ⟨.primary, some "a"⟩, ⟨.expression, none⟩, ⟨.term, none⟩,
          ⟨.unary, none⟩, ⟨.primary, some "1"⟩, ⟨.newline, none⟩, ⟨.newline, none⟩] =
        events d') ∧
      ((tokens d.leading).length ≤ 1 → ∀ d' : Derivation,
        (lexing "\nIF a > 1 THEN\nENDIF\n").result = .ok (tokens d') → d' = d) := by
  have h : parse "\nIF a > 1 THEN\nENDIF\n" = .ok #[⟨.program, none⟩, ⟨.ifStatement, none⟩,
      ⟨.comparison, none⟩, ⟨.expression, none⟩, ⟨.term, none⟩, ⟨.unary, none⟩,
      ⟨.primary, some "a"⟩, ⟨.expression, none⟩, ⟨.term, none⟩, ⟨.unary, none⟩,
      ⟨.primary, some "1"⟩, ⟨.newline, none⟩, ⟨.newline, none⟩] := by decide +kernel
  exact trace_lists_derivation h

/-- Two blank lines are one line end or two, so the tokens of this source have no derivation that
is the only one, and yet it is accepted. -/
theorem two_blank_lines_derived_twice : parse "\n\n" = .ok #[⟨.program, none⟩] ∧
    ¬∃ d : Derivation, (lexing "\n\n").result = .ok (tokens d) ∧
      ∀ d' : Derivation, (lexing "\n\n").result = .ok (tokens d') → d' = d := by
  let first : Newline := ⟨⟨.newline, "\n", ⟨1, 1⟩⟩, rfl⟩
  let second : Newline := ⟨⟨.newline, "\n", ⟨2, 1⟩⟩, rfl⟩
  let ending : Exactly .eof := ⟨⟨.eof, "", ⟨3, 1⟩⟩, rfl⟩
  have hl : (lexing "\n\n").result = .ok [first.token, second.token, ending.token] := by
    decide +kernel
  refine ⟨by decide +kernel, ?_⟩
  rintro ⟨d, -, hd⟩
  have hone : (⟨[⟨(first, [second])⟩], .nil, ending⟩ : Derivation) = d := hd _ hl
  have htwo : (⟨[⟨(first, [])⟩, ⟨(second, [])⟩], .nil, ending⟩ : Derivation) = d := hd _ hl
  cases hone.trans htwo.symm

end TeenyFront
