import TeenyFront.Parser

/-!
# Recursive descent

A parser goes down the rules of the grammar. It hands an event to its trace as soon as it enters a
rule, and it counts the blocks that it has opened and not closed. A block that would be one too many
is refused by that count, and the count is taken back however a block ends.
-/

set_option autoImplicit false

namespace TeenyFront

/-- A parser and the count of the blocks that it has opened and not closed. -/
structure CountedParser (σ : Type) where
  parser : Parser σ
  depth : Nat

/-- An action has a result and leaves a parser, be it with an error or not. -/
abbrev Action (σ : Type) : Type := CountedParser σ → Except ParseError Unit × CountedParser σ

namespace Action

variable {σ : Type}

def done : Action σ := fun c => (.ok (), c)

def fail (cause : SyntaxCause) : Action σ := fun c =>
  (.error (.syntactic ⟨cause, c.parser.window.current⟩), c)

def shift : Action σ := fun c =>
  match c.parser.window.shift with
  | (.ok (), w) => (.ok (), ⟨⟨w, c.parser.trace⟩, c.depth⟩)
  | (.error e, w) => (.error (.lexical e), ⟨⟨w, c.parser.trace⟩, c.depth⟩)

def choose (f : Kind → Action σ) : Action σ := fun c => f c.parser.window.kind c

def andThen (a b : Action σ) : Action σ := fun c =>
  match a c with
  | (.ok (), d) => b d
  | (.error e, d) => (.error e, d)

def sequence : List (Action σ) → Action σ
  | [] => done
  | a :: as => a.andThen (sequence as)

def accept (p : Kind → Bool) (cause : SyntaxCause) : Action σ :=
  choose fun k => if p k then shift else fail cause

def expect (kind : Kind) : Action σ := accept (· == kind) (.expected kind)

def again (p : Kind → Bool) (body : Action σ) (c : CountedParser σ) :
    Except ParseError Unit × CountedParser σ :=
  if p c.parser.window.kind then
    match body c with
    | (.ok (), d) =>
      if d.parser.window.unread < c.parser.window.unread then again p body d else (.ok (), d)
    | (.error e, d) => (.error e, d)
  else (.ok (), c)
termination_by c.parser.window.unread

def chain (p : Kind → Bool) (operand : Action σ) : Action σ := again p (shift.andThen operand)

def upTo (closer : Kind) (phrase : Action σ) : Action σ := again (· != closer) phrase

/-- With a block more in the count, which is taken back after an error too. -/
def counted (body : Action σ) : Action σ := fun c =>
  let (result, d) := body ⟨c.parser, c.depth + 1⟩
  (result, ⟨d.parser, d.depth - 1⟩)

variable [Collector σ]

def recordWith (event : Token → Event) : Action σ := fun c =>
  (.ok (), ⟨⟨c.parser.window, Collector.add c.parser.trace (event c.parser.window.current)⟩,
    c.depth⟩)

def record (rule : Rule) : Action σ := recordWith fun _ => ⟨rule, none⟩

def primary : Action σ :=
  (recordWith fun t => ⟨.primary, some t.text⟩).andThen (accept Kind.isOperand .noOperand)

def unary : Action σ :=
  sequence [record .unary, choose fun k => if k.isSign then shift else done, primary]

def term : Action σ := sequence [record .term, unary, chain Kind.isFactorOperator unary]

def expression : Action σ := sequence [record .expression, term, chain Kind.isSign term]

def comparison : Action σ :=
  sequence [record .comparison, expression, accept Kind.isComparison .noComparison, expression,
    chain Kind.isComparison expression]

def blankLines : Action σ := chain (· == .newline) done

def lineEnd : Action σ := sequence [record .newline, expect .newline, blankLines]

def printed : Action σ := choose fun k => if k = .string then shift else expression

def clause (block : Kind → Action σ) : Kind → Action σ
  | .print => sequence [record .printStatement, shift, printed]
  | .if => sequence [record .ifStatement, shift, comparison, expect .then, lineEnd, block .endIf]
  | .while =>
    sequence [record .whileStatement, shift, comparison, expect .repeat, lineEnd, block .endWhile]
  | .label => sequence [record .labelStatement, shift, expect .identifier]
  | .goto => sequence [record .gotoStatement, shift, expect .identifier]
  | .let => sequence [record .letStatement, shift, expect .identifier, expect .assign, expression]
  | .input => sequence [record .inputStatement, shift, expect .identifier]
  | _ => fail .noStatement

def statementWith (block : Kind → Action σ) : Action σ := (choose (clause block)).andThen lineEnd

/-- The statements of a block and its closing keyword, unless the count says that there are as many
blocks around it as there may be. Within it the count is greater, so blocks do not go down for
ever. -/
def block (closer : Kind) (c : CountedParser σ) : Except ParseError Unit × CountedParser σ :=
  if _hc : nestingLimit ≤ c.depth then fail (.nestedTooDeep nestingLimit) c
  else
    let inner closer d :=
      if _hd : c.depth < d.depth then block closer d else fail (.nestedTooDeep nestingLimit) d
    counted ((upTo closer (statementWith inner)).andThen (expect closer)) c
termination_by nestingLimit - c.depth

def statement : Action σ := statementWith block

def program : Action σ := sequence [record .program, blankLines, upTo .eof statement]

end Action

/-- An operation on a parser. -/
inductive Operation where
  | look
  | shift
  | expect (kind : Kind)
  | program
  | statement
  | lineEnd
  | comparison
  | expression
  | term
  | unary
  | primary

namespace Operation

variable {σ : Type} [Collector σ]

def act : Operation → Action σ
  | look => .done
  | shift => .shift
  | expect kind => .expect kind
  | program => .program
  | statement => .statement
  | lineEnd => .lineEnd
  | comparison => .comparison
  | expression => .expression
  | term => .term
  | unary => .unary
  | primary => .primary

/-- What an operation does outside of all blocks. -/
def perform (o : Operation) (p : Parser σ) : Except ParseError Unit × Parser σ :=
  let (result, c) := o.act ⟨p, 0⟩
  (result, c.parser)

end Operation

namespace CountedParser

variable {σ : Type} [Collector σ]

def perform (c : CountedParser σ) (o : Operation) : CountedParser σ := (o.act c).2

def script (c : CountedParser σ) (os : List Operation) : CountedParser σ := os.foldl perform c

end CountedParser

/-- Checks a source text and adds the rules that it is read by to a trace. -/
def traceInto {σ : Type} [Collector σ] (source : String) (trace : σ) :
    Except ParseError Unit × σ :=
  match Parser.ofCursor (.ofSource source) trace with
  | .error e => (.error e, trace)
  | .ok p =>
    let (result, p) := Operation.program.perform p
    (result, p.trace)

def parse (source : String) : Except ParseError (Array Event) :=
  match traceInto source #[] with
  | (.error e, _) => .error e
  | (.ok (), events) => .ok events

end TeenyFront
