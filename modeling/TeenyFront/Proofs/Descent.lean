import TeenyFront.Descent

/-!
# What a descent does

Going down a rule with a count of open blocks is the same as reading its phrase with the levels that
the count leaves free and adding the events after that. The count refuses a block just where no
level is free, and after every rule it is what it was before. No rule looks at the trace, so it does
not matter when the events are added to it.
-/

set_option autoImplicit false

namespace TeenyFront

namespace Action

variable {σ : Type}

theorem again_stop {p : Kind → Bool} {c : CountedParser σ} (h : p c.parser.window.kind = false)
    (body : Action σ) : again p body c = (.ok (), c) := by
  rw [again, h]
  rfl

theorem again_go {p : Kind → Bool} {c : CountedParser σ} (h : p c.parser.window.kind = true)
    {body : Action σ}
    (hb : (body c).1 = .ok () → (body c).2.parser.window.unread < c.parser.window.unread) :
    again p body c = body.andThen (again p body) c := by
  rw [again, if_pos h, andThen]
  rcases hr : body c with ⟨r, d⟩
  rw [hr] at hb
  cases r with
  | error e => rfl
  | ok _ => exact if_pos (hb rfl)

variable [Collector σ]

/-- With so many blocks open, an action reads what a recognizer does and leaves the count as it
was. -/
def Does (d : Nat) (a : Action σ) (r : Recognizer) : Prop :=
  ∀ p : Parser σ, a ⟨p, d⟩ = ((p.run r).1, ⟨(p.run r).2, d⟩)

namespace Does

open Recognizer (read_fail read_shift_ok read_shift_error read_andThen read_loop_stop read_loop_go
  read_bracket)

variable {d : Nat} {a b : Action σ} {r s : Recognizer}

theorem done : Does d (Action.done : Action σ) .done := fun _ => rfl

theorem fail (cause : SyntaxCause) : Does d (Action.fail cause : Action σ) (.fail cause) :=
  fun _ => rfl

theorem recordWith (event : Token → Event) :
    Does d (Action.recordWith event : Action σ) (.enterWith event) := fun _ => rfl

theorem record (rule : Rule) : Does d (Action.record rule : Action σ) (.enter rule) := recordWith _

theorem shift : Does d (Action.shift : Action σ) .shift := by
  intro p
  rcases hs : p.window.shift with ⟨result, w⟩
  cases result with
  | error e =>
    rw [Action.shift, hs, Parser.run, read_shift_error hs]
    rfl
  | ok _ =>
    rw [Action.shift, hs, Parser.run, read_shift_ok hs]
    rfl

theorem choose {f : Kind → Action σ} {g : Kind → Recognizer} (h : ∀ k, Does d (f k) (g k)) :
    Does d (choose f) (.choose g) := fun p => h p.window.kind p

theorem accept (p : Kind → Bool) (cause : SyntaxCause) :
    Does d (Action.accept p cause : Action σ) (.accept p cause) := by
  refine choose fun k => ?_
  split
  · exact shift
  · exact fail cause

theorem expect (kind : Kind) : Does d (Action.expect kind : Action σ) (.expect kind) := accept _ _

theorem andThen (ha : Does d a r) (hb : Does d b s) : Does d (a.andThen b) (r.andThen s) := by
  intro p
  rw [Action.andThen, ha p, Parser.run, Parser.run, read_andThen]
  cases hr : (r.read p.window).result with
  | error e => rw [Reading.andThen_error hr, hr]
  | ok _ =>
    rw [Reading.andThen_ok hr, Reading.after_events, List.foldl_append]
    exact hb _

theorem again {test : Kind → Bool} {shrinks : ∀ w, test w.kind = true →
      (r.read w).result = .ok () → (r.read w).window.unread < w.unread} (h : Does d a r) :
    Does d (again test a) (.loop test r shrinks) := by
  intro p
  generalize hn : p.window.unread = n
  induction n using Nat.strongRecOn generalizing p with
  | ind n ih =>
    cases hk : test p.window.kind with
    | false =>
      rw [again_stop hk, Parser.run, read_loop_stop _ _ _ hk]
      rfl
    | true =>
      have hs := shrinks p.window hk
      have hb : (a ⟨p, d⟩).1 = .ok () →
          (a ⟨p, d⟩).2.parser.window.unread < p.window.unread := by
        rw [h p]
        exact hs
      rw [again_go hk hb, Action.andThen, h p, Parser.run, Parser.run, read_loop_go _ _ _ hk]
      cases hr : (r.read p.window).result with
      | error e => rw [Reading.andThen_error hr, hr]
      | ok _ =>
        rw [Reading.andThen_ok hr, Reading.after_events, List.foldl_append]
        exact ih _ (hn ▸ hs hr) _ rfl

theorem chain {p : Kind → Bool} (hp : p .eof = false) (h : Does d a r) :
    Does d (chain p a) (.chain p hp r) := again (shift.andThen h)

theorem upTo (closer : Kind) (hc : r.Consumes) (h : Does d a r) :
    Does d (upTo closer a) (.upTo closer r hc) := again h

theorem counted (h : Does (d + 1) a r) : Does d (counted a) (.bracket r) := by
  intro p
  rw [Action.counted, h p, Parser.run, Parser.run, read_bracket]
  simp [Reading.events, List.filterMap_cons, Move.event?]

theorem primary : Does d (Action.primary : Action σ) .primary := (recordWith _).andThen (accept _ _)

theorem unary : Does d (Action.unary : Action σ) .unary := by
  have hsign : Does d
      (Action.choose fun k => if k.isSign then .shift else .done : Action σ)
      (.choose fun k => if k.isSign then .shift else .done) := by
    refine choose fun k => ?_
    split
    · exact shift
    · exact done
  exact (record _).andThen (hsign.andThen (primary.andThen done))

theorem term : Does d (Action.term : Action σ) .term :=
  (record _).andThen (unary.andThen ((chain rfl unary).andThen done))

theorem expression : Does d (Action.expression : Action σ) .expression :=
  (record _).andThen (term.andThen ((chain rfl term).andThen done))

theorem comparison : Does d (Action.comparison : Action σ) .comparison :=
  (record _).andThen (expression.andThen ((accept _ _).andThen
    (expression.andThen ((chain rfl expression).andThen done))))

theorem blankLines : Does d (Action.blankLines : Action σ) .blankLines := chain rfl done

theorem lineEnd : Does d (Action.lineEnd : Action σ) .lineEnd :=
  (record _).andThen ((expect _).andThen (blankLines.andThen done))

theorem printed : Does d (Action.printed : Action σ) .printed := by
  refine choose fun k => ?_
  split
  · exact shift
  · exact expression

section

variable {block : Kind → Action σ} {blocks : Kind → Recognizer}
  (h : ∀ closer, Does d (block closer) (blocks closer))

include h

theorem clause (k : Kind) : Does d (clause block k) (.clause blocks k) := by
  have hnaming (rule : Rule) : Does d
      (sequence [Action.record rule, Action.shift, Action.expect .identifier] : Action σ)
      (.sequence [.enter rule, .shift, .expect .identifier]) :=
    (record rule).andThen (shift.andThen ((expect _).andThen done))
  have hcompound (rule : Rule) (divider closer : Kind) : Does d
      (sequence [Action.record rule, Action.shift, Action.comparison, Action.expect divider,
        Action.lineEnd, block closer])
      (.sequence [.enter rule, .shift, .comparison, .expect divider, .lineEnd, blocks closer]) :=
    (record rule).andThen (shift.andThen (comparison.andThen ((expect divider).andThen
      (lineEnd.andThen ((h closer).andThen done)))))
  cases k with
  | print => exact (record _).andThen (shift.andThen (printed.andThen done))
  | «if» => exact hcompound _ _ _
  | «while» => exact hcompound _ _ _
  | label | goto | input => exact hnaming _
  | «let» =>
    exact (record _).andThen (shift.andThen ((expect _).andThen ((expect _).andThen
      (expression.andThen done))))
  | _ => exact fail _

theorem statementWith : Does d (statementWith block) (.statementWith blocks) :=
  (choose (clause h)).andThen lineEnd

end

/-- The count refuses a block just where no level is free. -/
theorem block (levels : Nat) : ∀ {d : Nat}, d + levels = nestingLimit → ∀ closer : Kind,
    Does d (Action.block closer : Action σ) (.block levels closer) := by
  induction levels with
  | zero =>
    rintro d rfl closer p
    rw [Action.block, dif_pos (Nat.le_refl _)]
    rfl
  | succ levels ih =>
    intro d hd closer p
    have hlt : ¬nestingLimit ≤ d := by omega
    -- Within the block the count is greater by one, so the test that keeps it finite holds.
    have hinner (closer : Kind) : Does (d + 1)
        (fun e : CountedParser σ => if d < e.depth then Action.block closer e
          else Action.fail (.nestedTooDeep nestingLimit) e) (.block levels closer) := by
      intro q
      exact (if_pos (Nat.lt_succ_self d)).trans (ih (by omega) closer q)
    have hbody := (upTo closer (Recognizer.statementWith_consumes _)
      (statementWith hinner)).andThen (expect closer)
    rw [Action.block, dif_neg hlt]
    exact hbody.counted p

theorem statement : Does 0 (Action.statement : Action σ) .statement :=
  statementWith (block nestingLimit (Nat.zero_add _))

theorem program : Does 0 (Action.program : Action σ) .program :=
  (record _).andThen (blankLines.andThen ((upTo .eof _ statement).andThen done))

end Does

end Action

namespace Operation

def recognizer : Operation → Recognizer
  | look => .done
  | shift => .shift
  | expect kind => .expect kind
  | program => .program
  | statement => .statement
  | lineEnd => .lineEnd
  | comparison => .comparison
  | expression => .expression
  | term => .term
  | unary => .unary
  | primary => .primary

variable {σ : Type} [Collector σ]

theorem does (o : Operation) : Action.Does 0 (o.act : Action σ) o.recognizer := by
  cases o with
  | look => exact .done
  | shift => exact .shift
  | expect kind => exact .expect kind
  | program => exact .program
  | statement => exact .statement
  | lineEnd => exact .lineEnd
  | comparison => exact .comparison
  | expression => exact .expression
  | term => exact .term
  | unary => exact .unary
  | primary => exact .primary

theorem perform_eq_run (o : Operation) (p : Parser σ) : o.perform p = p.run o.recognizer := by
  rw [perform, o.does p]

end Operation

section

variable {σ : Type} [Collector σ]

def Parser.script (p : Parser σ) (os : List Operation) : Parser σ :=
  os.foldl (fun p o => (p.run o.recognizer).2) p

namespace CountedParser

theorem perform_eq_run (p : Parser σ) (o : Operation) :
    perform ⟨p, 0⟩ o = ⟨(p.run o.recognizer).2, 0⟩ := congrArg Prod.snd (o.does p)

end CountedParser

end

/-- Checking a source is reading a program and adding its events. -/
theorem traceInto_eq_run {σ : Type} [Collector σ] (source : String) (trace : σ) :
    traceInto source trace =
      match Parser.ofCursor (.ofSource source) trace with
      | .error e => (.error e, trace)
      | .ok p => ((p.run .program).1, (p.run .program).2.trace) := by
  rw [traceInto]
  cases Parser.ofCursor (.ofSource source) trace with
  | error e => rfl
  | ok p =>
    simp only [Operation.perform_eq_run]
    rfl

end TeenyFront
