import TeenyFront.Command.Run
import TeenyFront.Proofs.Monitor
import TeenyFront.Proofs.Pipeline
import TeenyFront.Proofs.WellFormed

/-!
# The lines of a printed trace

A trace is printed with a line feed behind each event. An event has none of its own, except where
a program is refused because a line ends in place of a number or a name. The primary that is asked
for there is the last event, and the line feed that it names breaks its line in two.
-/

set_option autoImplicit false

namespace TeenyFront

open Text

def Event.OneLine (e : Event) : Prop := '\n' ∉ e.describe.toList

theorem Event.oneLine_rule (rule : Rule) : OneLine ⟨rule, none⟩ := by
  unfold OneLine
  cases rule <;> decide

theorem Event.oneLine_primary {text : String} (h : '\n' ∉ text.toList) :
    OneLine ⟨.primary, some text⟩ := by
  have hn : '\n' ∉ Rule.primary.name.toList := by decide
  simp [OneLine, describe, h, hn]

/-- The event whose line is broken by the end of a line that an operand is missing from. -/
def brokenLine : Except ParseError Unit → List Event
  | .error (.syntactic ⟨.noOperand, t⟩) => if t.kind = .newline then [⟨.primary, some "\n"⟩] else []
  | _ => []

namespace Window

structure WellFormed (w : Window) : Prop where
  current : w.current.lexeme.WellFormed
  next : w.next.lexeme.WellFormed

theorem WellFormed.shift {w v : Window} (h : w.WellFormed) (hs : w.shift = (.ok (), v)) :
    v.WellFormed := by
  obtain ⟨t, d, hr, rfl⟩ := shift_eq_ok hs
  exact ⟨h.next, Cursor.readToken_wellFormed hr⟩

theorem ofCursor_wellFormed {c : Cursor} {w : Window} (h : ofCursor c = .ok w) : w.WellFormed := by
  obtain ⟨d, hr, hr'⟩ := ofCursor_eq_ok h
  exact ⟨Cursor.readToken_wellFormed hr, Cursor.readToken_wellFormed hr'⟩

end Window

namespace Recognizer

def Written (es : List Event) (w : Window) : Prop := (∀ e ∈ es, e.OneLine) ∧ w.WellFormed

/-- All events fit on a line but the broken one, which is the last. -/
def Broken (e : ParseError) (es : List Event) (_ : Window) : Prop :=
  ∃ before, (∀ x ∈ before, x.OneLine) ∧ es = before ++ brokenLine (.error e)

/-- Every event that is added fits on a line, up to one that an error breaks. -/
def Lined (r : Recognizer) : Prop :=
  (Monitor.collect Move.event?).Triple Written r Written Broken

theorem Written.broken {es : List Event} {w : Window} (h : Written es w) {e : ParseError}
    (he : brokenLine (.error e) = []) : Broken e es w :=
  ⟨es, h.1, by rw [he, List.append_nil]⟩

namespace Lined

theorem done : Lined Recognizer.done := Monitor.Triple.done fun _ _ => id

theorem fail {cause : SyntaxCause} (h : cause ≠ .noOperand) : Lined (Recognizer.fail cause) := by
  refine Monitor.Triple.fail fun es w hs => hs.broken ?_
  cases cause with
  | noOperand => exact absurd rfl h
  | _ => rfl

theorem enter (rule : Rule) : Lined (Recognizer.enter rule) := by
  refine Monitor.Triple.enterWith fun es w hs => ⟨trivial, fun e he => ?_, hs.2⟩
  rcases List.mem_append.1 he with he | he
  · exact hs.1 e he
  · rw [List.mem_singleton.1 he]
    exact Event.oneLine_rule rule

theorem shift : Lined Recognizer.shift := by
  refine Monitor.Triple.shift (fun es w v hs hv => ⟨trivial, ?_⟩) fun es w v e hs _ => ?_
  · exact ⟨by simpa [Monitor.collect, Move.event?] using hs.1, hs.2.shift hv⟩
  · exact ⟨es, hs.1, (List.append_nil es).symm⟩

theorem choose {f : Kind → Recognizer} (h : ∀ k, Lined (f k)) : Lined (Recognizer.choose f) :=
  Monitor.Triple.choose fun k => (h k).before fun _ _ => And.left

theorem andThen {r s : Recognizer} (h : Lined r) (h' : Lined s) : Lined (r.andThen s) :=
  Monitor.Triple.andThen h h'

theorem bracket {r : Recognizer} (h : Lined r) : Lined r.bracket := by
  refine Monitor.Triple.bracket (fun es w hs => ?_) h (fun es w hs => ?_) fun e es w hs => ?_
  all_goals exact ⟨trivial, by simpa [Monitor.collect, Move.event?] using hs⟩

theorem accept {p : Kind → Bool} {cause : SyntaxCause} (h : cause ≠ .noOperand) :
    Lined (Recognizer.accept p cause) :=
  Monitor.Triple.accept (shift.before fun _ _ => And.left) ((fail h).before fun _ _ => And.left)

theorem expect (kind : Kind) : Lined (Recognizer.expect kind) := accept nofun

theorem chain {p : Kind → Bool} {hp : p .eof = false} {r : Recognizer} (h : Lined r) :
    Lined (Recognizer.chain p hp r) :=
  Monitor.Triple.after (.chain (shift.before fun _ _ => And.left) h) fun _ _ => And.left

theorem upTo {closer : Kind} {r : Recognizer} {hc : r.Consumes} (h : Lined r) :
    Lined (Recognizer.upTo closer r hc) :=
  Monitor.Triple.after (.upTo (h.before fun _ _ => And.left)) fun _ _ => And.left

end Lined

def Asked (es : List Event) (w : Window) : Prop :=
  w.WellFormed ∧ ∃ before, (∀ e ∈ before, e.OneLine) ∧
    es = before ++ [⟨.primary, some w.current.text⟩]

theorem Asked.written {es : List Event} {w : Window} (h : Asked es w) (hk : w.kind ≠ .newline) :
    Written es w := by
  obtain ⟨hw, before, hb, rfl⟩ := h
  refine ⟨fun e he => ?_, hw⟩
  rcases List.mem_append.1 he with he | he
  · exact hb e he
  · rw [List.mem_singleton.1 he]
    exact Event.oneLine_primary (hw.current.line_text hk)

theorem Asked.broken {es : List Event} {w : Window} (h : Asked es w) :
    Broken (.syntactic ⟨.noOperand, w.current⟩) es w := by
  by_cases hk : w.kind = .newline
  · obtain ⟨hw, before, hb, rfl⟩ := h
    have ht : w.current.text = "\n" := hw.current.newline_text hk
    refine ⟨before, hb, ?_⟩
    rw [ht]
    exact congrArg (before ++ ·) (if_pos hk).symm
  · exact (h.written hk).broken (if_neg hk)

namespace Lined

/-- The text of a primary is recorded before its kind is looked at. -/
theorem primary : Lined Recognizer.primary := by
  refine Monitor.Triple.andThen (R := Asked) ?_ (.accept ?_ ?_)
  · exact .enterWith fun es w hs => ⟨trivial, hs.2, es, hs.1, rfl⟩
  · refine shift.before fun es w hs => hs.1.written fun hk => ?_
    rw [hk] at hs
    cases hs.2
  · exact .fail fun es w hs => hs.1.broken

theorem unary : Lined Recognizer.unary := by
  refine (enter _).andThen (.andThen (choose fun k => ?_) (primary.andThen done))
  split
  · exact shift
  · exact done

theorem term : Lined Recognizer.term :=
  (enter _).andThen (unary.andThen ((chain unary).andThen done))

theorem expression : Lined Recognizer.expression :=
  (enter _).andThen (term.andThen ((chain term).andThen done))

theorem comparison : Lined Recognizer.comparison :=
  (enter _).andThen (expression.andThen (.andThen (accept nofun)
    (expression.andThen ((chain expression).andThen done))))

theorem lineEnd : Lined Recognizer.lineEnd :=
  (enter _).andThen ((expect _).andThen ((chain done).andThen done))

theorem printed : Lined Recognizer.printed := by
  refine choose fun k => ?_
  split
  · exact shift
  · exact expression

section

variable {block : Kind → Recognizer} (h : ∀ closer, Lined (block closer))

include h

theorem compound (rule : Rule) (divider closer : Kind) :
    Lined (sequence [.enter rule, .shift, .comparison, .expect divider, .lineEnd, block closer]) :=
  (enter _).andThen (shift.andThen (comparison.andThen ((expect _).andThen
    (lineEnd.andThen ((h closer).andThen done)))))

theorem clause (kind : Kind) : Lined (Recognizer.clause block kind) := by
  have naming (rule : Rule) : Lined (sequence [.enter rule, .shift, .expect .identifier]) :=
    (enter _).andThen (shift.andThen ((expect _).andThen done))
  cases kind with
  | print => exact (enter _).andThen (shift.andThen (printed.andThen done))
  | «if» => exact compound h _ _ _
  | «while» => exact compound h _ _ _
  | label | goto | input => exact naming _
  | «let» =>
    exact (enter _).andThen (shift.andThen ((expect _).andThen ((expect _).andThen
      (expression.andThen done))))
  | _ => exact fail nofun

theorem statementWith : Lined (Recognizer.statementWith block) :=
  (choose (clause h)).andThen lineEnd

end

theorem block (levels : Nat) (closer : Kind) : Lined (Recognizer.block levels closer) := by
  induction levels generalizing closer with
  | zero => exact fail nofun
  | succ levels ih => exact .bracket ((upTo (statementWith ih)).andThen (expect closer))

theorem program : Lined Recognizer.program :=
  (enter _).andThen ((chain done).andThen ((upTo (statementWith (block _))).andThen done))

end Lined

end Recognizer

theorem traceInto_lines (source : String) : ∃ result events before,
    traceInto source #[] = (result, List.toArray events) ∧ (∀ e ∈ before, Event.OneLine e) ∧
      events = before ++ brokenLine result := by
  cases hw : Window.ofSource source with
  | error e => exact ⟨_, [], [], traceInto_unwindowed hw, nofun, rfl⟩
  | ok w =>
    have hp := Recognizer.Lined.program [] w ⟨nofun, Window.ofCursor_wellFormed hw⟩
    have hm := Monitor.collect_after Move.event? [] (Recognizer.program.read w).moves
    rw [List.nil_append] at hm
    cases hr : (Recognizer.program.read w).result with
    | ok _ =>
      have hs := (hp.ok hr).1
      rw [hm] at hs
      exact ⟨_, _, _, traceInto_windowed hw, hs, hr ▸ (List.append_nil _).symm⟩
    | error e =>
      obtain ⟨before, hb, he⟩ := hp.error e hr
      rw [hm] at he
      exact ⟨_, _, before, traceInto_windowed hw, hb, hr ▸ he⟩

theorem Report.toList_lines (ls : List String) :
    (lines ls).toList = ls.flatMap fun l => l.toList ++ ['\n'] := by
  have hfold (s : String) : (ls.foldl (fun s l => s ++ l ++ "\n") s).toList =
      s.toList ++ ls.flatMap fun l => l.toList ++ ['\n'] := by
    induction ls generalizing s with
    | nil => exact (List.append_nil _).symm
    | cons l ls ih =>
      rw [List.foldl_cons, ih, List.flatMap_cons]
      simp
  exact hfold ""

theorem Report.lines_append (ls ms : List String) : lines (ls ++ ms) = lines ls ++ lines ms := by
  apply String.toList_inj.1
  simp only [toList_lines, String.toList_append, List.flatMap_append]

theorem Report.count_lines (ls : List String) : (lines ls).toList.count '\n' =
    (ls.flatMap String.toList).count '\n' + ls.length := by
  rw [toList_lines]
  induction ls with
  | nil => rfl
  | cons l ls ih =>
    rw [List.flatMap_cons, List.count_append, ih, List.flatMap_cons, List.length_cons]
    simp
    omega

theorem Event.count_oneLine {events : List Event} (h : ∀ e ∈ events, e.OneLine) :
    (events.flatMap fun e => e.describe.toList).count '\n' = 0 := by
  refine List.count_eq_zero.2 fun hn => ?_
  obtain ⟨e, he, hm⟩ := List.mem_flatMap.1 hn
  exact h e he hm

theorem count_brokenLine (result : Except ParseError Unit) :
    ((brokenLine result).flatMap fun e => e.describe.toList).count '\n' =
      (brokenLine result).length := by
  unfold brokenLine
  split
  · split <;> rfl
  · rfl

theorem printTrace_output {source : String} {result : Except ParseError Unit}
    {events : List Event} (h : traceInto source #[] = (result, events.toArray))
    (format : TraceFormat) :
    (Command.printTrace source format).output =
      Report.lines (events.map (Command.eventLine format) ++
        if result = .ok () ∧ format = .text then ["Parsing completed."] else []) := by
  rw [Command.printTrace, h]
  cases result with
  | error e => simp [Report.failure]
  | ok _ =>
    cases format with
    | text => simp [Report.success]
    | json => simp [Report.success]

/-- A printed trace has as many lines as events, one more if the program is accepted, and one more
if it is refused where a line ends in place of an operand. In that case the last event is that of
the operand, and its line is the one that is broken. -/
theorem printTrace_lines (source : String) : ∃ result events before,
    traceInto source #[] = (result, List.toArray events) ∧ (∀ e ∈ before, Event.OneLine e) ∧
      events = before ++ brokenLine result ∧
      (Command.printTrace source .text).output.toList.count '\n' =
        events.length + (brokenLine result).length + if result = .ok () then 1 else 0 := by
  obtain ⟨result, events, before, h, hb, he⟩ := traceInto_lines source
  refine ⟨result, events, before, h, hb, he, ?_⟩
  have hcount : (events.flatMap fun e => e.describe.toList).count '\n' =
      (brokenLine result).length := by
    rw [he, List.flatMap_append, List.count_append, Event.count_oneLine hb, count_brokenLine,
      Nat.zero_add]
  have hdone : "Parsing completed.".toList.count '\n' = 0 := by decide
  have hlines : events.map (Command.eventLine .text) = events.map Event.describe := rfl
  rw [printTrace_output h, hlines, Report.count_lines, List.flatMap_append, List.count_append,
    List.flatMap_map, List.length_append, List.length_map, hcount]
  simp only [and_true]
  split
  · rw [List.flatMap_singleton, hdone, List.length_singleton]
    omega
  · rw [List.flatMap_nil, List.count_nil, List.length_nil]
    omega

theorem printTrace_missing_operand :
    (traceInto "PRINT\n" (#[] : Array Event)).2.size = 6 ∧
      (Command.printTrace "PRINT\n" .text).output =
        "PROGRAM\nSTATEMENT-PRINT\nEXPRESSION\nTERM\nUNARY\nPRIMARY (\n)\n" ∧
      (Command.printTrace "PRINT\n" .text).output.toList.count '\n' = 7 := by
  decide +kernel

end TeenyFront
