import TeenyFront.Proofs.Sessions

/-!
# Recording

A parser hands each event to its trace when the rule is entered, or it reads a whole phrase first
and hands over the events after that. Both come to the same, also after an error, because no rule
looks at the trace. What takes in the trace is only added to, so it changes neither what is read nor
which events are added.
-/

set_option autoImplicit false

namespace TeenyFront

section

variable {σ : Type} [Collector σ]

namespace Parser

def steps (p : Parser σ) : List Operation → List (Except ParseError Unit × Window)
  | [] => []
  | o :: os => ((o.perform p).1, (o.perform p).2.window) :: (o.perform p).2.steps os

/-- The trace behind a script. -/
def traceBehind (p : Parser σ) : List Operation → σ
  | [] => p.trace
  | o :: os => (o.perform p).2.traceBehind os

end Parser

end

theorem script_records (w : Window) (os : List Operation) :
    ∃ (steps : List (Except ParseError Unit × Window)) (events : List Event),
      ∀ {σ : Type} [Collector σ] (trace : σ), (Parser.mk w trace).steps os = steps ∧
        (Parser.mk w trace).traceBehind os = events.foldl Collector.add trace := by
  induction os generalizing w with
  | nil => exact ⟨[], [], fun trace => ⟨rfl, rfl⟩⟩
  | cons o os ih =>
    obtain ⟨steps, events, h⟩ := ih (o.recognizer.read w).window
    refine ⟨((o.recognizer.read w).result, (o.recognizer.read w).window) :: steps,
      (o.recognizer.read w).events ++ events, fun trace => ?_⟩
    obtain ⟨hs, ht⟩ := h ((o.recognizer.read w).events.foldl Collector.add trace)
    simp only [Parser.steps, Parser.traceBehind, o.perform_eq_run, Parser.run, List.foldl_append]
    exact ⟨congrArg _ hs, ht⟩

theorem foldl_add_array (events : List Event) (trace : Array Event) :
    events.foldl Collector.add trace = trace ++ events.toArray := by
  simp [Collector.add]

theorem traceInto_records (source : String) :
    ∃ (result : Except ParseError Unit) (events : List Event),
      ∀ {σ : Type} [Collector σ] (trace : σ),
        traceInto source trace = (result, events.foldl Collector.add trace) := by
  simp only [traceInto_eq_run, Parser.ofCursor]
  cases Window.ofCursor (.ofSource source) with
  | error e => exact ⟨.error (.lexical e), [], fun trace => rfl⟩
  | ok w =>
    exact ⟨(Recognizer.program.read w).result, (Recognizer.program.read w).events, fun trace => rfl⟩

/-- Nothing that takes in a trace influences what a parser does, and a trace is only added to. On
every cursor and along every script, with each rule recorded when it is entered, a parser fails to
start alike or makes the same steps, whatever takes in the trace. An array is behind the script what
it was, with events behind it that do not depend on it. The same is true of checking a source, and
the trace of an accepted source is what is added. -/
theorem trace_only_added_to :
    (∀ {σ : Type} [Collector σ] (o : Operation) (p : Parser σ),
      o.perform p = p.run o.recognizer) ∧
    (∀ (c : Cursor) (os : List Operation),
      (∃ e, ∀ {σ : Type} (trace : σ), Parser.ofCursor c trace = .error e) ∨
      ∃ (w : Window) (steps : List (Except ParseError Unit × Window)) (events : Array Event),
        (∀ {σ : Type} [Collector σ] (trace : σ), Parser.ofCursor c trace = .ok ⟨w, trace⟩ ∧
          (Parser.mk w trace).steps os = steps) ∧
        ∀ trace : Array Event, (Parser.mk w trace).traceBehind os = trace ++ events) ∧
    ∀ source : String, ∃ (result : Except ParseError Unit) (events : Array Event),
      (∀ {σ : Type} [Collector σ] (trace : σ), (traceInto source trace).1 = result) ∧
      (∀ trace : Array Event, (traceInto source trace).2 = trace ++ events) ∧
      parse source = result.map fun _ => events := by
  refine ⟨fun o p => o.perform_eq_run p, fun c os => ?_, fun source => ?_⟩
  · cases hw : Window.ofCursor c with
    | error e => exact .inl ⟨.lexical e, fun trace => by rw [Parser.ofCursor, hw]⟩
    | ok w =>
      obtain ⟨steps, events, h⟩ := script_records w os
      refine .inr ⟨w, steps, events.toArray, fun trace => ?_, fun trace => ?_⟩
      · exact ⟨Parser.ofCursor_ok hw trace, (h trace).1⟩
      · rw [← foldl_add_array]
        exact (h trace).2
  · obtain ⟨result, events, h⟩ := traceInto_records source
    refine ⟨result, events.toArray, fun trace => by rw [h], fun trace => ?_, ?_⟩
    · rw [h, foldl_add_array]
    · rw [parse, h, foldl_add_array, Array.empty_append]
      cases result <;> rfl

end TeenyFront
