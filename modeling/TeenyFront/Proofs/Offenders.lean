import TeenyFront.Proofs.Language
import TeenyFront.Proofs.Nesting
import TeenyFront.Proofs.Shifts

/-!
# Offending tokens

A syntax error names the token that is current when it is met, and the cause of the error rules
that token out. For most causes it does so because the token was looked at just before; that none
goes on with a comparison follows from the loops that ended in front of it. A closing keyword is
never found missing by a rule, for statements are read up to it.
-/

set_option autoImplicit false

namespace TeenyFront

/-- The kinds that a token does not have where an error of this cause names it. -/
def SyntaxCause.RulesOut : SyntaxCause → Kind → Prop
  | expected kind, found => found ≠ kind
  | noStatement, found => found.beginsStatement = false
  | noComparison, found => found.continuesComparison = false
  | noOperand, found => found.isOperand = false
  | nestedTooDeep _, _ => True

/-- An error that is met by a rule, with the current token to blame. -/
inductive Blamed (w : Window) : ParseError → Prop
  | lexical (e : LexicalError) : Blamed w (.lexical e)
  | syntactic (cause : SyntaxCause) (hr : cause.RulesOut w.kind)
      (hc : ∀ k, cause = .expected k → k.isCloser = false) :
      Blamed w (.syntactic ⟨cause, w.current⟩)

/-- What the kind of the current token is in front of a reading and behind it, with the right token
blamed for an error. -/
def Recognizer.Blames (P : Kind → Prop) (r : Recognizer) (Q : Kind → Prop) : Prop :=
  Monitor.taking.Triple (fun _ w => P w.kind) r (fun _ w => Q w.kind) fun e _ w => Blamed w e

namespace Recognizer.Blames

def any : Kind → Prop := fun _ => True

variable {P P' Q Q' R : Kind → Prop} {r s : Recognizer}

theorem weaken (h : Blames P r Q) (hP : ∀ k, P' k → P k) (hQ : ∀ k, Q k → Q' k) :
    Blames P' r Q' :=
  Monitor.Triple.weaken h (fun _ _ => hP _) (fun _ _ => hQ _) fun _ _ _ => id

theorem anywhere (h : Blames any r Q) : Blames P r Q := h.weaken (fun _ _ => trivial) fun _ => id

theorem whatever (h : Blames P r Q) : Blames P r any := h.weaken (fun _ => id) fun _ _ => trivial

theorem done : Blames P Recognizer.done P := Monitor.Triple.done fun _ _ => id

theorem fail {cause : SyntaxCause} (h : ∀ k, P k → cause.RulesOut k)
    (hc : ∀ k, cause = .expected k → k.isCloser = false) : Blames P (Recognizer.fail cause) Q :=
  Monitor.Triple.fail fun _ _ hw => .syntactic cause (h _ hw) hc

theorem enter (rule : Rule) : Blames P (Recognizer.enter rule) P :=
  Monitor.Triple.enterWith fun _ _ hw => ⟨trivial, hw⟩

theorem shift : Blames P Recognizer.shift any :=
  Monitor.Triple.shift (fun _ _ _ _ _ => ⟨trivial, trivial⟩) fun _ _ _ e _ _ => .lexical e

theorem choose {f : Kind → Recognizer} (h : ∀ k, Blames (· = k) (f k) Q) :
    Blames P (Recognizer.choose f) Q :=
  Monitor.Triple.choose fun k => Monitor.Triple.before (h k) fun _ _ hw => hw.2

theorem andThen (h : Blames P r R) (h' : Blames R s Q) : Blames P (r.andThen s) Q :=
  Monitor.Triple.andThen h h'

theorem accept {p : Kind → Bool} {cause : SyntaxCause}
    (h : ∀ k, P k → p k = false → cause.RulesOut k)
    (hc : ∀ k, cause = .expected k → k.isCloser = false) :
    Blames P (Recognizer.accept p cause) any :=
  Monitor.Triple.accept (shift.anywhere (P := fun k => P k ∧ p k = true))
    (fail (P := fun k => P k ∧ p k = false) (fun k hk => h k hk.1 hk.2) hc)

theorem expect {kind : Kind} (hk : kind.isCloser = false) :
    Blames P (Recognizer.expect kind) any := by
  apply accept
  · intro k _ hp
    exact beq_eq_false_iff_ne.1 hp
  · rintro k ⟨⟩
    exact hk

theorem expect_current (kind : Kind) : Blames (· = kind) (Recognizer.expect kind) any := by
  intro us w hw
  have hp : (w.kind == kind) = true := beq_iff_eq.2 hw
  rw [Recognizer.expect, read_accept_pos hp]
  exact shift (P := any) us w trivial

theorem chain {p : Kind → Bool} {hp : p .eof = false} (h : Blames any r Q) :
    Blames Q (Recognizer.chain p hp r) fun k => Q k ∧ p k = false :=
  Monitor.Triple.chain (shift.anywhere (P := fun k => Q k ∧ p k = true)) h

theorem upTo {closer : Kind} {hr : r.Consumes} (h : Blames any r any) :
    Blames any (Recognizer.upTo closer r hr) (· = closer) :=
  Monitor.Triple.after (.upTo (h.anywhere (P := fun k => True ∧ k ≠ closer)))
    fun _ _ hw => hw.2

theorem primary : Blames any Recognizer.primary any :=
  .andThen (R := any) (Monitor.Triple.enterWith fun _ _ hw => ⟨trivial, hw⟩)
    (accept (fun _ _ => id) nofun)

theorem unary : Blames any Recognizer.unary any := by
  apply (enter _).andThen
  apply andThen (R := any)
  · apply choose
    intro k
    by_cases hk : k.isSign
    · rw [if_pos hk]
      exact shift
    · rw [if_neg hk]
      exact done.whatever
  · exact primary.andThen done

theorem term : Blames any Recognizer.term fun k => k.isFactorOperator = false := by
  have hc : Blames any (Recognizer.chain Kind.isFactorOperator rfl Recognizer.unary)
      fun k => k.isFactorOperator = false := (chain unary).weaken (fun _ => id) fun _ => And.right
  exact (enter _).andThen (unary.andThen (hc.andThen done))

theorem expression : Blames any Recognizer.expression fun k => k.continuesExpression = false := by
  have hc : Blames (fun k => k.isFactorOperator = false)
      (Recognizer.chain Kind.isSign rfl Recognizer.term)
      fun k => k.continuesExpression = false :=
    (chain term).weaken (fun _ => id) fun k hk => Bool.or_eq_false_iff.2 ⟨hk.2, hk.1⟩
  exact (enter _).andThen (term.andThen (hc.andThen done))

theorem comparison :
    Blames any Recognizer.comparison fun k => k.continuesComparison = false := by
  have hc : Blames (fun k => k.continuesExpression = false)
      (Recognizer.accept Kind.isComparison .noComparison) any :=
    accept (fun k hk hp => Bool.or_eq_false_iff.2 ⟨hp, hk⟩) nofun
  have ho : Blames (fun k => k.continuesExpression = false)
      (Recognizer.chain Kind.isComparison rfl Recognizer.expression)
      fun k => k.continuesComparison = false :=
    (chain expression).weaken (fun _ => id) fun k hk => Bool.or_eq_false_iff.2 ⟨hk.2, hk.1⟩
  exact (enter _).andThen (expression.andThen (hc.andThen (expression.andThen (ho.andThen done))))

theorem blankLines : Blames any Recognizer.blankLines fun k => k.isNewline = false :=
  (chain done).weaken (fun _ => id) fun _ => And.right

theorem lineEnd : Blames any Recognizer.lineEnd fun k => k.isNewline = false :=
  (enter _).andThen ((expect rfl).andThen (blankLines.andThen done))

theorem printed : Blames any Recognizer.printed any := by
  apply choose
  intro k
  by_cases hk : k = .string
  · rw [if_pos hk]
    exact shift
  · rw [if_neg hk]
    exact expression.anywhere.whatever

section

variable {block : Kind → Recognizer}
  (h : ∀ closer : Kind, closer.isCloser = true → Blames any (block closer) any)

include h

theorem compound (rule : Rule) {divider closer : Kind} (hd : divider.isCloser = false)
    (hc : closer.isCloser = true) : Blames P
      (sequence [.enter rule, .shift, .comparison, .expect divider, .lineEnd, block closer]) any :=
  (enter _).andThen (shift.andThen (comparison.whatever.andThen ((expect hd).andThen
    (lineEnd.whatever.andThen ((h closer hc).andThen done)))))

theorem clause (k : Kind) : Blames (· = k) (Recognizer.clause block k) any := by
  have naming (rule : Rule) : Blames (· = k) (sequence [.enter rule, .shift, .expect .identifier])
      any := (enter _).andThen (shift.andThen ((expect rfl).andThen done))
  have refused (hk : k.beginsStatement = false) :
      Blames (· = k) (Recognizer.fail .noStatement) any := fail (fun _ he => he ▸ hk) nofun
  cases k with
  | print => exact (enter _).andThen (shift.andThen (printed.andThen done))
  | «if» | «while» => exact compound h _ rfl rfl
  | label | goto | input => exact naming _
  | «let» =>
    exact (enter _).andThen (shift.andThen ((expect rfl).andThen ((expect rfl).andThen
      (expression.whatever.andThen done))))
  | _ => exact refused (by decide)

theorem statementWith : Blames any (Recognizer.statementWith block) fun k => k.isNewline = false :=
  (choose (clause h)).andThen lineEnd

end

theorem block (levels : Nat) (closer : Kind) (hc : closer.isCloser = true) :
    Blames any (Recognizer.block levels closer) any := by
  induction levels generalizing closer with
  | zero => exact fail (fun _ _ => trivial) nofun
  | succ levels ih =>
    have hu : Blames any (Recognizer.upTo closer
        (Recognizer.statementWith (Recognizer.block levels)) (statementWith_consumes _))
        (· = closer) := upTo (statementWith ih).whatever
    refine Monitor.Triple.bracket (fun _ _ hw => ⟨trivial, hw⟩) (hu.andThen (expect_current closer))
      (fun _ _ hw => ⟨trivial, hw⟩) fun _ _ _ he => ⟨trivial, he⟩

theorem statement : Blames any Recognizer.statement fun k => k.isNewline = false :=
  statementWith (block nestingLimit)

theorem program : Blames any Recognizer.program (· = .eof) :=
  (enter _).andThen (blankLines.whatever.andThen ((upTo statement.whatever).andThen done))

end Recognizer.Blames

end TeenyFront
