import TeenyFront.Proofs.EarliestError

/-!
# Traces that end in an error

Until an error is met, a trace is that of a program that begins with the tokens taken so far. Only
the primary that finds no operand is listed too early: its event stands behind those of the program,
with the text of the token in its place. Nothing is listed when no window can be opened.
-/

set_option autoImplicit false

namespace TeenyFront

open DerivationTree

/-- The event of a primary that has no operand, which is recorded before its token is looked at. -/
def ParseError.missing : ParseError → List Event
  | syntactic ⟨.noOperand, t⟩ => [⟨.primary, some t.text⟩]
  | _ => []

/-- A reading that succeeds has taken a whole derivation, and one that fails the beginning of one.
Its events are those of the derivation, as far as it came. -/
inductive Foretold (α : Type) [DerivationTree α] (r : Reading) : Prop
  | whole (a : α) (hr : r.result = .ok ()) (ht : r.taken = tokens a) (hv : r.events = events a)
  | part (a : α) (e : ParseError) (es : List Event) (hr : r.result = .error e)
      (ht : r.taken <+: tokens a) (hv : r.events = es ++ e.missing) (hp : es <+: events a)

namespace Foretold

variable {α β : Type} [DerivationTree α] [DerivationTree β] {r : Reading}

theorem derivation (h : Foretold α r) : Nonempty α := by
  cases h with
  | whole a => exact ⟨a⟩
  | part a => exact ⟨a⟩

theorem carry {r' : Reading} (h : Foretold α r) (vs : List Event) (hr : r'.result = r.result)
    (ht : r'.taken = r.taken) (hv : r'.events = vs ++ r.events) (g : α → β)
    (hgt : ∀ a, tokens (g a) = tokens a) (hgv : ∀ a, events (g a) = vs ++ events a) :
    Foretold β r' := by
  cases h with
  | whole a hra hta hva =>
    apply whole (g a) (hr.trans hra)
    · rw [ht, hgt, hta]
    · rw [hv, hgv, hva]
  | part a e es hra hta hva hp =>
    apply part (g a) e (vs ++ es) (hr.trans hra)
    · rw [ht, hgt]
      exact hta
    · rw [hv, hva, List.append_assoc]
    · rw [hgv]
      exact (List.prefix_append_right_inj _).2 hp

theorem map (h : Foretold α r) (g : α → β) (ht : ∀ a, tokens (g a) = tokens a)
    (hv : ∀ a, events (g a) = events a) : Foretold β r := h.carry [] rfl rfl rfl g ht hv

theorem still {w : Window} (a : α) (ht : tokens a = []) (hv : events a = []) :
    Foretold α ⟨.ok (), w, []⟩ := whole a rfl ht.symm hv.symm

theorem stopped {e : ParseError} (he : e.missing = []) (w : Window) (a : α) :
    Foretold α ⟨.error e, w, []⟩ := by
  apply part a e [] rfl
  · exact List.nil_prefix
  · rw [he]
    rfl
  · exact List.nil_prefix

theorem andThen {next : Window → Reading} (h : Foretold α r) (b : β)
    (hn : r.result = .ok () → Foretold β (next r.window)) :
    Foretold (α × β) (r.andThen next) := by
  cases h with
  | whole a hr ht hv =>
    have hm : (r.andThen next).taken = tokens a ++ (next r.window).taken ∧
        (r.andThen next).events = events a ++ (next r.window).events := by
      rw [Reading.andThen_ok hr, Reading.after_taken, Reading.after_events, ← ht, ← hv]
      exact ⟨rfl, rfl⟩
    have ho : (r.andThen next).result = (next r.window).result := by
      rw [Reading.andThen_ok hr]
      rfl
    cases hn hr with
    | whole b hr' ht' hv' =>
      apply whole (a, b) (ho.trans hr')
      · rw [hm.1, ht', tokens_pair]
      · rw [hm.2, hv', events_pair]
    | part b e es hr' ht' hv' hp =>
      apply part (a, b) e (events a ++ es) (ho.trans hr')
      · rw [hm.1, tokens_pair]
        exact (List.prefix_append_right_inj _).2 ht'
      · rw [hm.2, hv', List.append_assoc]
      · rw [events_pair]
        exact (List.prefix_append_right_inj _).2 hp
  | part a e es hr ht hv hp =>
    rw [Reading.andThen_error hr]
    apply part (a, b) e es hr
    · exact ht.trans (List.prefix_append _ _)
    · exact hv
    · exact hp.trans (List.prefix_append _ _)

theorem node {rule : Rule} (h : Foretold α r) :
    Foretold (Node rule α) (r.after [.enter ⟨rule, none⟩]) := by
  have ht : (r.after [.enter ⟨rule, none⟩]).taken = r.taken := Reading.after_taken _ r
  have hv : (r.after [.enter ⟨rule, none⟩]).events = [⟨rule, none⟩] ++ r.events :=
    Reading.after_events _ r
  exact h.carry [⟨rule, none⟩] rfl ht hv Node.mk tokens_node events_node

theorem bracket (h : Foretold α r) :
    Foretold α ⟨r.result, r.window, .openBlock :: (r.moves ++ [.closeBlock])⟩ := by
  have ht : Reading.taken ⟨r.result, r.window, .openBlock :: (r.moves ++ [.closeBlock])⟩ =
      r.taken := by
    simp [Reading.taken, List.filterMap_cons, Move.token?]
  have hv : Reading.events ⟨r.result, r.window, .openBlock :: (r.moves ++ [.closeBlock])⟩ =
      [] ++ r.events := by
    simp [Reading.events, List.filterMap_cons, Move.event?]
  exact h.carry [] rfl ht hv id (fun _ => rfl) fun _ => rfl

theorem loop {p : Kind → Bool} {body : Recognizer}
    {shrinks : ∀ w, p w.kind = true → (body.read w).result = .ok () →
      (body.read w).window.unread < w.unread}
    (h : ∀ w, p w.kind = true → Foretold α (body.read w)) (w : Window) :
    Foretold (List α) ((Recognizer.loop p body shrinks).read w) := by
  -- Each round leaves less to read, so what the later rounds read is foretold before.
  generalize hn : w.unread = n
  induction n using Nat.strongRecOn generalizing w with
  | ind n ih =>
    cases hp : p w.kind with
    | false =>
      rw [Recognizer.read_loop_stop _ _ _ hp]
      exact still [] rfl rfl
    | true =>
      rw [Recognizer.read_loop_go _ _ _ hp]
      have hc := (h w hp).andThen [] fun hr => ih _ (hn ▸ shrinks w hp hr) _ rfl
      apply hc.map (fun a => a.1 :: a.2)
      · intro a
        rfl
      · intro a
        rfl

theorem shift {p : Kind → Bool} {w : Window} (hp : p w.kind = true) :
    Foretold (Leaf p) (Recognizer.shift.read w) := by
  let t : Leaf p := ⟨w.current, hp⟩
  rcases hs : w.shift with ⟨result, v⟩
  cases result with
  | error e =>
    rw [Recognizer.read_shift_error hs]
    exact stopped rfl v t
  | ok _ =>
    rw [Recognizer.read_shift_ok hs]
    exact whole t rfl rfl rfl

end Foretold

namespace Phrase

def Foretells (φ : Phrase) (α : Type) [DerivationTree α] : Prop :=
  ∀ w, Foretold α (φ.recognizer.read w)

namespace Foretells

variable {α β : Type} [DerivationTree α] [DerivationTree β] {φ ψ : Phrase} {p : Kind → Bool}

theorem map (h : φ.Foretells α) (g : α → β) (ht : ∀ a, tokens (g a) = tokens a)
    (hv : ∀ a, events (g a) = events a) : φ.Foretells β := fun w => (h w).map g ht hv

theorem inl (h : φ.Foretells α) : φ.Foretells (α ⊕ β) := h.map .inl (fun _ => rfl) fun _ => rfl

theorem inr (h : φ.Foretells β) : φ.Foretells (α ⊕ β) := h.map .inr (fun _ => rfl) fun _ => rfl

theorem done : Phrase.done.Foretells Unit := fun _ => .still () rfl rfl

theorem fail {cause : SyntaxCause} (hc : cause ≠ .noOperand) (a : α) :
    (Phrase.fail cause).Foretells α := by
  intro w
  apply Foretold.stopped _ w a
  cases cause with
  | noOperand => contradiction
  | _ => rfl

theorem accept_known {hp : p .eof = false} {cause : SyntaxCause} {w : Window}
    (hk : p w.kind = true) :
    Foretold (Leaf p) ((Phrase.accept p hp cause).recognizer.read w) := by
  show Foretold (Leaf p) ((Recognizer.accept p cause).read w)
  rw [Recognizer.read_accept_pos hk]
  exact .shift hk

theorem accept {hp : p .eof = false} {cause : SyntaxCause} (hc : cause ≠ .noOperand)
    (t : Leaf p) : (Phrase.accept p hp cause).Foretells (Leaf p) := by
  intro w
  cases hk : p w.kind with
  | true => exact accept_known hk
  | false =>
    show Foretold (Leaf p) ((Recognizer.accept p cause).read w)
    rw [Recognizer.read_accept_neg hk]
    exact fail hc t w

theorem expect (kind : Kind) [kind.Proper] : (Phrase.expect kind).Foretells (Exactly kind) :=
  accept nofun ⟨⟨kind, kind.name, .start⟩, beq_self_eq_true kind⟩

theorem choose {f : Kind → Phrase} (h : ∀ k, (f k).Foretells α) :
    (choose f).Foretells α := fun w => h w.kind w

theorem andThen (hφ : φ.Foretells α) (hψ : ψ.Foretells β) :
    (φ.andThen ψ).Foretells (α × β) := by
  intro w
  obtain ⟨b⟩ := (hψ w).derivation
  show Foretold (α × β) ((φ.recognizer.andThen ψ.recognizer).read w)
  rw [Recognizer.read_andThen]
  exact (hφ w).andThen b fun _ => hψ _

theorem last (h : φ.Foretells α) : (φ.andThen Phrase.done).Foretells α := by
  apply (h.andThen done).map Prod.fst
  · intro a
    exact (List.append_nil _).symm
  · intro a
    exact (List.append_nil _).symm

theorem node {rule : Rule} (h : φ.Foretells α) :
    ((enter rule).andThen φ).Foretells (Node rule α) := by
  intro w
  show Foretold (Node rule α) (((Recognizer.enter rule).andThen φ.recognizer).read w)
  rw [Recognizer.read_andThen, Recognizer.enter, Recognizer.read_enterWith,
    Reading.andThen_ok rfl]
  exact (h w).node

theorem chain (hp : p .eof = false) (h : φ.Foretells α) :
    (chain p hp φ).Foretells (List (Leaf p × α)) := by
  intro w
  apply Foretold.loop
  intro v hv
  obtain ⟨a⟩ := (h v).derivation
  rw [Recognizer.read_andThen]
  exact (Foretold.shift hv).andThen a fun _ => h _

theorem upTo (closer : Kind) (ht : φ.takes = true) (h : φ.Foretells α) :
    (upTo closer φ).Foretells (List α) := by
  intro w
  rw [recognizer_upTo closer ht rfl (φ.interpret.2 ht)]
  apply Foretold.loop
  intro v _
  exact h v

/-! Each rule foretells what it reads. -/

/-- The event of a primary is listed before its token is looked at, so an error comes behind it. -/
theorem primary : Phrase.primary.Foretells Primary := by
  intro w
  show Foretold Primary (((Recognizer.enterWith fun t => ⟨.primary, some t.text⟩).andThen
    (Recognizer.accept Kind.isOperand .noOperand)).read w)
  rw [Recognizer.read_andThen, Recognizer.read_enterWith, Reading.andThen_ok rfl]
  show Foretold Primary (((Recognizer.accept Kind.isOperand .noOperand).read w).after _)
  cases hk : w.kind.isOperand with
  | false =>
    rw [Recognizer.read_accept_neg hk]
    exact .part ⟨⟨⟨.number, "0", .start⟩, rfl⟩⟩ (.syntactic ⟨.noOperand, w.current⟩) [] rfl
      List.nil_prefix rfl List.nil_prefix
  | true =>
    rw [Recognizer.read_accept_pos hk]
    let a : Primary := ⟨⟨w.current, hk⟩⟩
    rcases hs : w.shift with ⟨result, v⟩
    cases result with
    | error e =>
      rw [Recognizer.read_shift_error hs]
      exact .part a (.lexical e) (events a) rfl List.nil_prefix (List.append_nil _).symm
        List.prefix_rfl
    | ok _ =>
      rw [Recognizer.read_shift_ok hs]
      exact .whole a rfl rfl rfl

theorem sign : Phrase.sign.Foretells (Option Sign) := by
  intro w
  have hchoice : Phrase.sign.recognizer.read w = (Phrase.recognizer
      (if w.kind.isSign then Phrase.accept Kind.isSign Kind.isSign_eof .noOperand
        else Phrase.done)).read w := rfl
  rw [hchoice]
  by_cases hk : w.kind.isSign = true
  · rw [if_pos hk]
    exact (accept_known hk).map some (fun _ => rfl) fun _ => rfl
  · rw [if_neg hk]
    exact .still none rfl rfl

theorem unary : Phrase.unary.Foretells Unary := node (andThen sign (last primary))

theorem term : Phrase.term.Foretells Term :=
  node (andThen unary (last (chain Kind.isFactorOperator_eof unary)))

theorem expression : Phrase.expression.Foretells Expression :=
  node (andThen term (last (chain Kind.isSign_eof term)))

theorem comparison : Phrase.comparison.Foretells Comparison := by
  have hl : (Phrase.accept Kind.isComparison Kind.isComparison_eof .noComparison).Foretells
      ComparisonOperator := accept nofun ⟨⟨.equal, "==", .start⟩, rfl⟩
  have ho := andThen hl (andThen expression (last (chain Kind.isComparison_eof expression)))
  exact node (andThen expression ho)

theorem blankLines : Phrase.blankLines.Foretells (List Newline) :=
  (chain Kind.newline_beq_eof done).map (List.map Prod.fst) tokens_map_fst events_map_fst

theorem lineEnd : Phrase.lineEnd.Foretells LineEnd :=
  node (andThen (expect .newline) (last blankLines))

theorem printed : Phrase.printed.Foretells (Exactly .string ⊕ Expression) := by
  apply choose
  intro k
  cases k == .string with
  | true => exact inl (expect .string)
  | false => exact inr expression

theorem print : (sequence [Phrase.enter .printStatement, Phrase.expect .print,
    Phrase.printed]).Foretells Print := node (andThen (expect .print) (last printed))

theorem naming (form : NamingForm) : (Phrase.naming form).Foretells (Naming form) :=
  node (andThen (expect _) (last (expect .identifier)))

theorem assignment : (sequence [Phrase.enter .letStatement, Phrase.expect .let,
    Phrase.expect .identifier, Phrase.expect .assign, Phrase.expression]).Foretells
    Assignment := by
  have ha := andThen (expect .identifier) (andThen (expect .assign) (last expression))
  exact node (andThen (expect .let) ha)

section

variable {block : BlockForm → Phrase} (hblock : ∀ form, (block form).Foretells (Body form))

include hblock

theorem compound (form : BlockForm) : (Phrase.compound block form).Foretells (Compound form) := by
  have hl := andThen lineEnd (last (hblock form))
  have hc := andThen comparison (andThen (expect form.divider) hl)
  exact node (andThen (expect form.opener) hc)

theorem clause (k : Kind) : (Phrase.clause block k).Foretells Clause := by
  have hnone : (Phrase.fail .noStatement).Foretells Clause := by
    let a : Naming .input := ⟨(⟨⟨.input, "INPUT", .start⟩, rfl⟩, ⟨⟨.identifier, "x", .start⟩, rfl⟩)⟩
    exact fail nofun (.inr (.inr (.inr (.inr (.inr (.inr a))))))
  cases k with
  | «if» => exact inl (compound hblock .if)
  | «while» => exact inr (inl (compound hblock .while))
  | print => exact inr (inr (inl print))
  | label => exact inr (inr (inr (inl (naming .label))))
  | goto => exact inr (inr (inr (inr (inl (naming .goto)))))
  | «let» => exact inr (inr (inr (inr (inr (inl assignment)))))
  | input => exact inr (inr (inr (inr (inr (inr (naming .input))))))
  | _ => exact hnone

theorem statementWith : (Phrase.statementWith block).Foretells Statement :=
  andThen (choose (clause hblock)) lineEnd

theorem statements (closer : Kind) :
    (Phrase.upTo closer (Phrase.statementWith block)).Foretells Block :=
  (upTo closer rfl (statementWith hblock)).map Block.ofStatements tokens_ofStatements
    events_ofStatements

end

theorem body {form : BlockForm} (h : φ.Foretells (Block × Exactly form.closer)) :
    (Phrase.bracket φ).Foretells (Body form) := by
  intro w
  show Foretold (Body form) ((Recognizer.bracket φ.recognizer).read w)
  rw [Recognizer.read_bracket]
  apply ((h w).map (fun b => (⟨b.1, b.2⟩ : Body form)) _ _).bracket
  · intro b
    rfl
  · intro b
    exact (List.append_nil _).symm

theorem block (levels : Nat) (form : BlockForm) :
    (Phrase.block levels form).Foretells (Body form) := by
  -- A block is read with one level less for the statements in it.
  induction levels generalizing form with
  | zero =>
    let closer : Exactly form.closer :=
      ⟨⟨form.closer, form.closer.name, .start⟩, beq_self_eq_true form.closer⟩
    exact fail nofun ⟨.nil, closer⟩
  | succ levels ih => exact body (andThen (statements ih form.closer) (expect form.closer))

theorem program (levels : Nat) :
    (Phrase.program levels).Foretells (Node .program (List Newline × Block)) :=
  node (andThen blankLines (last (statements (block levels) .eof)))

end Foretells

end Phrase

theorem events_read_program_ne_nil (w : Window) : (Recognizer.program.read w).events ≠ [] := by
  show (((Recognizer.enter .program).andThen _).read w).events ≠ []
  rw [Recognizer.read_andThen, Recognizer.enter, Recognizer.read_enterWith,
    Reading.andThen_ok rfl, Reading.after_events]
  exact List.cons_ne_nil _ _

theorem program_foretold {w : Window} {e : ParseError}
    (he : (Recognizer.program.read w).result = .error e) :
    ∃ (p : Program) (es : List Event), (Recognizer.program.read w).events = es ++ e.missing ∧
      es <+: events p ∧ (Recognizer.program.read w).taken <+: tokens p := by
  have hf := Phrase.Foretells.program nestingLimit w
  rw [Phrase.recognizer_program] at hf
  cases hf with
  | whole a hr =>
    rw [he] at hr
    cases hr
  | part a e' es hr ht hv hp =>
    rw [he] at hr
    cases hr
    let p : Program := ⟨(a.parts.1, a.parts.2, ⟨⟨.eof, "", .start⟩, rfl⟩)⟩
    have htokens : tokens p = tokens a ++ [⟨.eof, "", .start⟩] := p.tokens_eq
    have hevents : events p = events a := p.events_eq
    exact ⟨p, es, hv, hevents ▸ hp, htokens ▸ ht.trans (List.prefix_append _ _)⟩

section

variable {source : String} {e : ParseError} {trace : Array Event}

theorem partial_trace_unwindowed {l : LexicalError} (hw : Window.ofSource source = .error l)
    (h : traceInto source #[] = (.error e, trace)) :
    trace = #[] ∧ e.missing = [] ∧
      ∀ p, Parser.ofCursor (.ofSource source) (#[] : Array Event) ≠ .ok p := by
  rw [traceInto_unwindowed hw] at h
  cases h
  have hw' : Window.ofCursor (.ofSource source) = .error l := hw
  constructor
  · rfl
  constructor
  · rfl
  · intro p hp
    rw [Parser.ofCursor, hw'] at hp
    cases hp

theorem partial_trace_windowed {w : Window} (hw : Window.ofSource source = .ok w)
    (h : traceInto source #[] = (.error e, trace)) :
    (Recognizer.program.read w).result = .error e ∧
      trace.toList = (Recognizer.program.read w).events ∧
      ∀ p, Parser.ofCursor (.ofSource source) (#[] : Array Event) = .ok p → p.window = w := by
  rw [traceInto_windowed hw] at h
  obtain ⟨hr, rfl⟩ := Prod.mk.inj h
  have hw' : Window.ofCursor (.ofSource source) = .ok w := hw
  constructor
  · exact hr
  constructor
  · rfl
  · intro p hp
    rw [Parser.ofCursor, hw'] at hp
    cases hp
    rfl

/-- The trace that an error leaves is one of a program as far as it goes, but for the primary that
the error is about. This program begins with the tokens consumed. The trace is empty exactly if the
first token or the second is a lexical error. -/
theorem partial_trace_sound (h : traceInto source #[] = (.error e, trace)) :
    (∃ (p : Program) (es : List Event), trace.toList = es ++ e.missing ∧ es <+: events p ∧
      ∀ parser, Parser.ofCursor (.ofSource source) (#[] : Array Event) = .ok parser →
        parser.consumed <+: tokens p) ∧
    (trace = #[] ↔ ∃ l, (lexing source).error? = some l ∧ (lexing source).tokens.length < 2) := by
  -- Opening a window takes the first two tokens; only then the program is listed.
  rcases Window.ofCursor_shows (.ofSource source) with ⟨l, hw, hl, hlt⟩ | ⟨w, hw, hs⟩
  · obtain ⟨rfl, hm, hp⟩ := partial_trace_unwindowed hw h
    constructor
    · let p : Program := ⟨([], .nil, ⟨⟨.eof, "", .start⟩, rfl⟩)⟩
      rw [hm]
      exact ⟨p, [], rfl, List.nil_prefix, fun parser hparser => absurd hparser (hp parser)⟩
    · constructor
      · intro _
        exact ⟨l, hl, hlt⟩
      · intro _
        rfl
  · obtain ⟨hr, ht, hp⟩ := partial_trace_windowed hw h
    constructor
    · obtain ⟨p, es, hv, hpre, htaken⟩ := program_foretold hr
      refine ⟨p, es, ht.trans hv, hpre, fun parser hparser => ?_⟩
      rw [Parser.consumed, hp parser hparser]
      exact htaken
    · constructor
      · intro he
        rw [he] at ht
        exact absurd ht.symm (events_read_program_ne_nil w)
      · rintro ⟨l, hl, hlt⟩
        rcases hs.two_or_end with hn | hle
        · have hno : (lexing source).error? = none := hn
          rw [hl] at hno
          cases hno
        · exact absurd hlt (Nat.not_lt.2 hle)

end

theorem partial_trace_behind_sign : ∃ trace : Array Event,
    traceInto "PRINT 1 +\n" #[] =
      (.error (.syntactic ⟨.noOperand, ⟨.newline, "\n", ⟨1, 10⟩⟩⟩), trace) ∧
    (∃ (p : Program) (es : List Event), trace.toList = es ++ [⟨.primary, some "\n"⟩] ∧
      es <+: events p ∧
      ∀ parser, Parser.ofCursor (.ofSource "PRINT 1 +\n") (#[] : Array Event) = .ok parser →
        parser.consumed <+: tokens p) ∧
    (trace = #[] ↔ ∃ l, (lexing "PRINT 1 +\n").error? = some l ∧
      (lexing "PRINT 1 +\n").tokens.length < 2) := by
  have h : traceInto "PRINT 1 +\n" #[] =
      (.error (.syntactic ⟨.noOperand, ⟨.newline, "\n", ⟨1, 10⟩⟩⟩),
        (traceInto "PRINT 1 +\n" (#[] : Array Event)).2) := by decide +kernel
  exact ⟨_, h, partial_trace_sound h⟩

end TeenyFront
