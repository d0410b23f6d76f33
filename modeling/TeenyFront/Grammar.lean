import TeenyFront.Recognizer

/-!
# The grammar

One recognizer for each rule of the language Teeny Tiny. Blocks nest at most 256 deep: a block is
read with the number of levels that are still free, and one that finds none is an error at its
first token. A block gives its level back however it ends, so outside of blocks all are free.

    program     ::= (nl)* (statement)* EOF
    statement   ::= PRINT (string | expression) nl
                  | IF comparison THEN nl (statement)* ENDIF nl
                  | WHILE comparison REPEAT nl (statement)* ENDWHILE nl
                  | LABEL ident nl | GOTO ident nl | INPUT ident nl
                  | LET ident = expression nl
    comparison  ::= expression (operator expression)+
    expression  ::= term ((+ | -) term)*
    term        ::= unary ((* | /) unary)*
    unary       ::= (+ | -)? primary
    primary     ::= number | ident
    nl          ::= (newline)+

The line ends in front of the statements are read as one run of line feeds. Two line feeds there are
one line end or two, and nothing in the trace tells which.
-/

set_option autoImplicit false

namespace TeenyFront

/-- The deepest nesting of blocks that a program may have. -/
def nestingLimit : Nat := 256

namespace Recognizer

def primary : Recognizer :=
  (enterWith fun t => ⟨.primary, some t.text⟩).andThen (accept Kind.isOperand .noOperand)

def unary : Recognizer :=
  sequence [enter .unary, choose fun k => if k.isSign then shift else done, primary]

def term : Recognizer :=
  sequence [enter .term, unary, chain Kind.isFactorOperator rfl unary]

def expression : Recognizer :=
  sequence [enter .expression, term, chain Kind.isSign rfl term]

def comparison : Recognizer :=
  sequence [enter .comparison, expression, accept Kind.isComparison .noComparison,
    expression, chain Kind.isComparison rfl expression]

def blankLines : Recognizer := chain (· == .newline) rfl done

def lineEnd : Recognizer := sequence [enter .newline, expect .newline, blankLines]

def printed : Recognizer := choose fun k => if k = .string then shift else expression

def clause (block : Kind → Recognizer) : Kind → Recognizer
  | .print => sequence [enter .printStatement, shift, printed]
  | .if => sequence [enter .ifStatement, shift, comparison, expect .then, lineEnd, block .endIf]
  | .while =>
    sequence [enter .whileStatement, shift, comparison, expect .repeat, lineEnd, block .endWhile]
  | .label => sequence [enter .labelStatement, shift, expect .identifier]
  | .goto => sequence [enter .gotoStatement, shift, expect .identifier]
  | .let => sequence [enter .letStatement, shift, expect .identifier, expect .assign, expression]
  | .input => sequence [enter .inputStatement, shift, expect .identifier]
  | _ => fail .noStatement

def statementWith (block : Kind → Recognizer) : Recognizer :=
  (choose (clause block)).andThen lineEnd

theorem lineEnd_consumes : lineEnd.Consumes :=
  .andThen_right _ (.andThen_left (accept_consumes rfl _) _)

theorem statementWith_consumes (block : Kind → Recognizer) : (statementWith block).Consumes :=
  .andThen_right _ lineEnd_consumes

/-- The statements of a block and its closing keyword, with so many levels free. -/
def block : Nat → Kind → Recognizer
  | 0, _ => fail (.nestedTooDeep nestingLimit)
  | levels + 1, closer =>
    bracket ((upTo closer (statementWith (block levels)) (statementWith_consumes _)).andThen
      (expect closer))

def statement : Recognizer := statementWith (block nestingLimit)

def program : Recognizer :=
  sequence [enter .program, blankLines,
    upTo .eof statement (statementWith_consumes _)]

end Recognizer

end TeenyFront
