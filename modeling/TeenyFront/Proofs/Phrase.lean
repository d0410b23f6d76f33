import TeenyFront.Grammar

/-!
# Phrases

A phrase is the shape of a recognizer. The rules of the grammar are phrases here, and reading them
through a window gives back the recognizers that check a program. Having the shape apart lets the
same rules be read from a list of tokens too.
-/

set_option autoImplicit false

namespace TeenyFront

inductive BlockForm where
  | «if»
  | «while»
  deriving DecidableEq, Repr

namespace BlockForm

def opener : BlockForm → Kind
  | «if» => .if
  | «while» => .while

def divider : BlockForm → Kind
  | «if» => .then
  | «while» => .repeat

def closer : BlockForm → Kind
  | «if» => .endIf
  | «while» => .endWhile

def rule : BlockForm → Rule
  | «if» => .ifStatement
  | «while» => .whileStatement

end BlockForm

inductive NamingForm where
  | label
  | goto
  | input
  deriving DecidableEq, Repr

namespace NamingForm

def keyword : NamingForm → Kind
  | label => .label
  | goto => .goto
  | input => .input

def rule : NamingForm → Rule
  | label => .labelStatement
  | goto => .gotoStatement
  | input => .inputStatement

end NamingForm

namespace Kind

theorem isSign_eof : isSign eof = false := rfl

theorem isFactorOperator_eof : isFactorOperator eof = false := rfl

theorem isComparison_eof : isComparison eof = false := rfl

theorem isOperand_eof : isOperand eof = false := rfl

theorem newline_beq_eof : (eof == newline) = false := rfl

class Proper (kind : Kind) : Prop where
  ne_eof : kind ≠ eof

instance : Proper newline := ⟨by decide⟩

instance : Proper string := ⟨by decide⟩

instance : Proper identifier := ⟨by decide⟩

instance : Proper assign := ⟨by decide⟩

instance : Proper print := ⟨by decide⟩

instance : Proper «let» := ⟨by decide⟩

instance (form : NamingForm) : Proper form.keyword := ⟨by cases form <;> decide⟩

instance (form : BlockForm) : Proper form.opener := ⟨by cases form <;> decide⟩

instance (form : BlockForm) : Proper form.divider := ⟨by cases form <;> decide⟩

instance (form : BlockForm) : Proper form.closer := ⟨by cases form <;> decide⟩

end Kind

/-- No phrase takes the end of input: what `accept` and `chain` take is never of that kind. -/
inductive Phrase where
  | done
  | fail (cause : SyntaxCause)
  | enterWith (event : Token → Event)
  | accept (p : Kind → Bool) (hp : p .eof = false) (cause : SyntaxCause)
  | choose (f : Kind → Phrase)
  | andThen (first second : Phrase)
  | bracket (inner : Phrase)
  | chain (p : Kind → Bool) (hp : p .eof = false) (operand : Phrase)
  | upTo (closer : Kind) (phrase : Phrase)

namespace Phrase

/-- Whether success is sure to take a token. Only such a phrase is repeated by `upTo`. -/
def takes : Phrase → Bool
  | fail _ | accept _ _ _ => true
  | andThen first second => first.takes || second.takes
  | bracket inner => inner.takes
  | done | enterWith _ | choose _ | chain _ _ _ | upTo _ _ => false

theorem fail_consumes (cause : SyntaxCause) : (Recognizer.fail cause).Consumes := by
  intro w hw
  rw [Recognizer.read_fail] at hw
  cases hw

theorem bracket_consumes {r : Recognizer} (h : r.Consumes) : r.bracket.Consumes := by
  intro w hw
  rw [Recognizer.read_bracket] at hw ⊢
  exact h w hw

theorem andThen_consumes {r s : Recognizer} (h : r.Consumes ∨ s.Consumes) :
    (r.andThen s).Consumes := by
  rcases h with hr | hs
  · exact hr.andThen_left s
  · exact .andThen_right r hs

/-- The recognizer of a phrase, and why it consumes if the phrase takes a token. -/
def interpret : (φ : Phrase) → {r : Recognizer // φ.takes = true → r.Consumes}
  | done => ⟨.done, fun h => absurd h Bool.false_ne_true⟩
  | fail cause => ⟨.fail cause, fun _ => fail_consumes cause⟩
  | enterWith event => ⟨.enterWith event, fun h => absurd h Bool.false_ne_true⟩
  | accept p hp cause => ⟨.accept p cause, fun _ => Recognizer.accept_consumes hp cause⟩
  | choose f => ⟨.choose fun k => (interpret (f k)).1, fun h => absurd h Bool.false_ne_true⟩
  | andThen φ ψ => ⟨(interpret φ).1.andThen (interpret ψ).1, fun h =>
      andThen_consumes ((Bool.or_eq_true_iff.1 h).imp (interpret φ).2 (interpret ψ).2)⟩
  | bracket φ => ⟨(interpret φ).1.bracket, fun h => bracket_consumes ((interpret φ).2 h)⟩
  | chain p hp φ => ⟨.chain p hp (interpret φ).1, fun h => absurd h Bool.false_ne_true⟩
  | upTo closer φ =>
    if h : φ.takes = true then
      ⟨.upTo closer (interpret φ).1 ((interpret φ).2 h), fun h => absurd h Bool.false_ne_true⟩
    else ⟨.done, fun h => absurd h Bool.false_ne_true⟩

def recognizer (φ : Phrase) : Recognizer := φ.interpret.1

def enter (rule : Rule) : Phrase := enterWith fun _ => ⟨rule, none⟩

def expect (kind : Kind) [h : kind.Proper] : Phrase :=
  accept (· == kind) (beq_eq_false_iff_ne.2 h.ne_eof.symm) (.expected kind)

def sequence : List Phrase → Phrase
  | [] => done
  | φ :: φs => φ.andThen (sequence φs)

def primary : Phrase :=
  (enterWith fun t => ⟨.primary, some t.text⟩).andThen
    (accept Kind.isOperand Kind.isOperand_eof .noOperand)

def sign : Phrase :=
  choose fun k => if k.isSign then accept Kind.isSign Kind.isSign_eof .noOperand else done

def unary : Phrase := sequence [enter .unary, sign, primary]

def term : Phrase :=
  sequence [enter .term, unary, chain Kind.isFactorOperator Kind.isFactorOperator_eof unary]

def expression : Phrase :=
  sequence [enter .expression, term, chain Kind.isSign Kind.isSign_eof term]

def comparison : Phrase :=
  sequence [enter .comparison, expression,
    accept Kind.isComparison Kind.isComparison_eof .noComparison, expression,
    chain Kind.isComparison Kind.isComparison_eof expression]

def blankLines : Phrase := chain (· == .newline) Kind.newline_beq_eof done

def lineEnd : Phrase := sequence [enter .newline, expect .newline, blankLines]

def printed : Phrase :=
  choose fun k => if k == .string then expect .string else expression

def naming (form : NamingForm) : Phrase :=
  sequence [enter form.rule, expect form.keyword,
    expect .identifier]

def compound (block : BlockForm → Phrase) (form : BlockForm) : Phrase :=
  sequence [enter form.rule, expect form.opener, comparison,
    expect form.divider, lineEnd, block form]

def clause (block : BlockForm → Phrase) : Kind → Phrase
  | .print => sequence [enter .printStatement, expect .print, printed]
  | .if => compound block .if
  | .while => compound block .while
  | .label => naming .label
  | .goto => naming .goto
  | .let => sequence [enter .letStatement, expect .let, expect .identifier,
      expect .assign, expression]
  | .input => naming .input
  | _ => fail .noStatement

def statementWith (block : BlockForm → Phrase) : Phrase :=
  (choose (clause block)).andThen lineEnd

def block : Nat → BlockForm → Phrase
  | 0, _ => fail (.nestedTooDeep nestingLimit)
  | levels + 1, form =>
    bracket ((upTo form.closer (statementWith (block levels))).andThen
      (expect form.closer))

def statement (levels : Nat) : Phrase := statementWith (block levels)

def program (levels : Nat) : Phrase :=
  sequence [enter .program, blankLines, upTo .eof (statement levels)]

/-!
The recognizers of these phrases are those of the grammar. The grammar shifts without a look at a
token whose kind it knows already, where a phrase accepts it.
-/

theorem recognizer_ext {r s : Recognizer} (h : ∀ w seen, r.run w seen = s.run w seen) :
    r = s := by
  obtain ⟨run, _, _⟩ := r
  obtain ⟨run', _, _⟩ := s
  obtain rfl : run = run' := funext fun w => funext (h w)
  rfl

theorem recognizer_choose {f : Kind → Phrase} {g : Kind → Recognizer}
    (h : ∀ w seen, (f w.kind).recognizer.run w seen = (g w.kind).run w seen) :
    (choose f).recognizer = Recognizer.choose g := recognizer_ext h

theorem run_accept {p : Kind → Bool} {w : Window} (hp : p w.kind = true) (cause : SyntaxCause)
    (seen : List Move) : (Recognizer.accept p cause).run w seen = Recognizer.shift.run w seen := by
  show (if p w.kind then Recognizer.shift else Recognizer.fail cause).run w seen = _
  rw [if_pos hp]

theorem run_expect {w : Window} {kind : Kind} (hk : w.kind = kind) (seen : List Move) :
    (Recognizer.expect kind).run w seen = Recognizer.shift.run w seen := by
  have hp : (w.kind == kind) = true := beq_iff_eq.2 hk
  exact run_accept hp _ seen

theorem run_keyword {w : Window} {kind : Kind} (hk : w.kind = kind) (rule : Rule)
    (rest : Recognizer) (seen : List Move) :
    ((Recognizer.enter rule).andThen ((Recognizer.expect kind).andThen rest)).run w seen =
      ((Recognizer.enter rule).andThen (Recognizer.shift.andThen rest)).run w seen := by
  show ((Recognizer.expect kind).run w _).andThen rest.run =
    (Recognizer.shift.run w _).andThen rest.run
  rw [run_expect hk]

theorem recognizer_unary : unary.recognizer = Recognizer.unary := by
  have hs : sign.recognizer =
      Recognizer.choose fun k => if k.isSign then .shift else .done := by
    refine recognizer_choose fun w seen => ?_
    cases hk : w.kind.isSign with
    | false => rfl
    | true => exact run_accept hk _ seen
  show Recognizer.sequence [.enter .unary, sign.recognizer, .primary] = _
  rw [hs]
  rfl

theorem recognizer_term : term.recognizer = Recognizer.term := by
  show Recognizer.sequence [.enter .term, unary.recognizer,
    .chain Kind.isFactorOperator rfl unary.recognizer] = _
  rw [recognizer_unary]
  rfl

theorem recognizer_expression : expression.recognizer = Recognizer.expression := by
  show Recognizer.sequence [.enter .expression, term.recognizer,
    .chain Kind.isSign rfl term.recognizer] = _
  rw [recognizer_term]
  rfl

theorem recognizer_comparison : comparison.recognizer = Recognizer.comparison := by
  show Recognizer.sequence [.enter .comparison, expression.recognizer,
    .accept Kind.isComparison .noComparison, expression.recognizer,
    .chain Kind.isComparison rfl expression.recognizer] = _
  rw [recognizer_expression]
  rfl

theorem recognizer_printed : printed.recognizer = Recognizer.printed := by
  refine recognizer_choose fun w seen => ?_
  by_cases hk : w.kind = .string
  · rw [if_pos (beq_iff_eq.2 hk), if_pos hk]
    exact run_expect hk seen
  · rw [if_neg (mt beq_iff_eq.1 hk), if_neg hk, recognizer_expression]

section

variable {block : BlockForm → Phrase} {blocks : Kind → Recognizer}
  (hb : ∀ form, (block form).recognizer = blocks form.closer)

include hb

theorem run_compound {w : Window} (form : BlockForm) (hk : w.kind = form.opener)
    (seen : List Move) :
    (compound block form).recognizer.run w seen =
      (Recognizer.sequence [.enter form.rule, .shift, .comparison, .expect form.divider,
        .lineEnd, blocks form.closer]).run w seen := by
  rw [← hb, ← recognizer_comparison]
  exact run_keyword hk _ _ seen

theorem recognizer_clause :
    (choose (clause block)).recognizer = Recognizer.choose (Recognizer.clause blocks) := by
  refine recognizer_choose fun w seen => ?_
  cases hk : w.kind with
  | «if» => exact run_compound hb .if hk seen
  | «while» => exact run_compound hb .while hk seen
  | label | goto | input => exact run_keyword hk _ _ seen
  | print =>
    rw [Recognizer.clause, ← recognizer_printed]
    exact run_keyword hk _ _ seen
  | «let» =>
    rw [Recognizer.clause, ← recognizer_expression]
    exact run_keyword hk _ _ seen
  | _ => rfl

theorem recognizer_statementWith :
    (statementWith block).recognizer = Recognizer.statementWith blocks :=
  congrArg (fun r : Recognizer => r.andThen .lineEnd) (recognizer_clause hb)

end

theorem recognizer_upTo (closer : Kind) {φ : Phrase} (h : φ.takes = true) {r : Recognizer}
    (hr : φ.recognizer = r) (hc : r.Consumes) :
    (upTo closer φ).recognizer = Recognizer.upTo closer r hc := by
  subst hr
  simp only [recognizer, interpret, h, dite_true]

theorem recognizer_block (levels : Nat) (form : BlockForm) :
    (block levels form).recognizer = Recognizer.block levels form.closer := by
  induction levels generalizing form with
  | zero => rfl
  | succ levels ih =>
    have hs := recognizer_upTo form.closer (by rfl) (recognizer_statementWith ih)
      (Recognizer.statementWith_consumes _)
    show Recognizer.bracket ((upTo form.closer _).recognizer.andThen _) = _
    rw [hs]
    rfl

theorem recognizer_statement : (statement nestingLimit).recognizer = Recognizer.statement :=
  recognizer_statementWith (recognizer_block nestingLimit)

theorem recognizer_program : (program nestingLimit).recognizer = Recognizer.program := by
  have hs := recognizer_upTo .eof (by rfl) recognizer_statement
    (Recognizer.statementWith_consumes _)
  show Recognizer.sequence [.enter .program, .blankLines, (upTo .eof _).recognizer] = _
  rw [hs]
  rfl

end Phrase

end TeenyFront
