import TeenyFront.Json.Record

/-!
# Trace events

A trace lists the grammar rules that a program was read by, in the order in which they were
entered. The event of a primary carries the text of its token.
-/

set_option autoImplicit false

namespace TeenyFront

inductive Rule where
  | program
  | printStatement
  | ifStatement
  | whileStatement
  | labelStatement
  | gotoStatement
  | letStatement
  | inputStatement
  | newline
  | comparison
  | expression
  | term
  | unary
  | primary
  deriving DecidableEq, Repr

def Rule.name : Rule → String
  | program => "PROGRAM"
  | printStatement => "STATEMENT-PRINT"
  | ifStatement => "STATEMENT-IF"
  | whileStatement => "STATEMENT-WHILE"
  | labelStatement => "STATEMENT-LABEL"
  | gotoStatement => "STATEMENT-GOTO"
  | letStatement => "STATEMENT-LET"
  | inputStatement => "STATEMENT-INPUT"
  | newline => "NEWLINE"
  | comparison => "COMPARISON"
  | expression => "EXPRESSION"
  | term => "TERM"
  | unary => "UNARY"
  | primary => "PRIMARY"

structure Event where
  rule : Rule
  text? : Option String
  deriving DecidableEq, Repr

namespace Event

def describe (e : Event) : String :=
  match e.text? with
  | none => e.rule.name
  | some text => e.rule.name ++ " (" ++ text ++ ")"

def toRecord (e : Event) : Json.Record :=
  ("rule", .text e.rule.name) :: (e.text?.map fun text => ("text", .text text)).toList

end Event

end TeenyFront
