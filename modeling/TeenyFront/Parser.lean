import TeenyFront.Grammar

/-!
# Parsers

A parser is a window over a source together with what is kept of the trace. What becomes of the
events never decides what is read, so a phrase can be recognized first and its events be collected
after that, in order and also when the phrase ends in an error.
-/

set_option autoImplicit false

namespace TeenyFront

/-- A type whose values take in trace events. -/
class Collector (σ : Type) where
  add : σ → Event → σ

instance : Collector (Array Event) := ⟨Array.push⟩

instance : Collector Unit := ⟨fun _ _ => ()⟩

structure Parser (σ : Type) where
  window : Window
  trace : σ

namespace Parser

variable {σ : Type}

/-- A parser from a cursor on, unless one of the first two tokens is a lexical error. -/
def ofCursor (c : Cursor) (trace : σ) : Except ParseError (Parser σ) :=
  match Window.ofCursor c with
  | .error e => .error (.lexical e)
  | .ok w => .ok ⟨w, trace⟩

/-- Reads a phrase and adds its events to the trace. -/
def run [Collector σ] (p : Parser σ) (r : Recognizer) : Except ParseError Unit × Parser σ :=
  let reading := r.read p.window
  (reading.result, ⟨reading.window, reading.events.foldl Collector.add p.trace⟩)

end Parser

end TeenyFront
