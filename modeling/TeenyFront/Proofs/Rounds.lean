import TeenyFront.Proofs.Phrase

/-!
# Loops within bounds

A phrase is read here with loops that are cut off after so many rounds, however much or little a
round takes. None of them is cut off if there may be more rounds than a window has to read, so the
loops end by themselves.
-/

set_option autoImplicit false

namespace TeenyFront

open Recognizer

theorem Window.unread_le (w : Window) : w.unread ≤ w.cursor.rest.length + 2 := by
  unfold unread
  split <;> split <;> omega

namespace Reading

def andThen? (r : Reading) (next : Window → Option Reading) : Option Reading :=
  match r.result with
  | .error _ => some r
  | .ok () => (next r.window).map (after r.moves)

/-- As long as the kind of the current token satisfies `p`, and cut off after so many rounds. -/
def again? (p : Kind → Bool) (body : Window → Option Reading) : Nat → Window → Option Reading
  | 0, _ => none
  | rounds + 1, w =>
    if p w.kind then (body w).bind fun r => r.andThen? (again? p body rounds)
    else some ⟨.ok (), w, []⟩

theorem andThen?_eq {r : Reading} {next : Window → Option Reading} {next' : Window → Reading}
    (h : r.result = .ok () → next r.window = some (next' r.window)) :
    r.andThen? next = some (r.andThen next') := by
  unfold andThen?
  cases hr : r.result with
  | error e => rw [andThen_error hr]
  | ok _ =>
    rw [andThen_ok hr]
    simp [h hr]

theorem again?_eq {p : Kind → Bool} {body : Recognizer}
    {shrinks : ∀ w, p w.kind = true → (body.read w).result = .ok () →
      (body.read w).window.unread < w.unread}
    {body' : Window → Option Reading} {rounds bound : Nat}
    (hb : ∀ v, v.unread < bound → p v.kind = true → body' v = some (body.read v)) {w : Window}
    (hw : w.unread < bound) (hr : w.unread < rounds) :
    again? p body' rounds w = some ((loop p body shrinks).read w) := by
  induction rounds generalizing w with
  | zero => exact absurd hr (Nat.not_lt_zero _)
  | succ rounds ih =>
    unfold again?
    cases hp : p w.kind with
    | false => rw [read_loop_stop _ _ _ hp, if_neg Bool.false_ne_true]
    | true =>
      rw [read_loop_go _ _ _ hp, if_pos rfl, hb w hw hp, Option.bind_some]
      apply andThen?_eq
      intro ho
      have hlt := shrinks w hp ho
      exact ih (by omega) (by omega)

end Reading

namespace Phrase

/-- Reads a phrase with loops that are cut off after so many rounds, whenever one is entered. -/
def readWithin (rounds : Nat) : Phrase → Window → Option Reading
  | done, w => some (Recognizer.done.read w)
  | fail cause, w => some ((Recognizer.fail cause).read w)
  | enterWith event, w => some ((Recognizer.enterWith event).read w)
  | accept p _ cause, w => some ((Recognizer.accept p cause).read w)
  | choose f, w => (f w.kind).readWithin rounds w
  | andThen φ ψ, w => (φ.readWithin rounds w).bind fun r => r.andThen? (ψ.readWithin rounds)
  | bracket φ, w => (φ.readWithin rounds w).map fun r =>
      ⟨r.result, r.window, .openBlock :: (r.moves ++ [.closeBlock])⟩
  | chain p _ φ, w =>
    Reading.again? p (fun v => (Recognizer.shift.read v).andThen? (φ.readWithin rounds)) rounds w
  | upTo closer φ, w => Reading.again? (· != closer) (φ.readWithin rounds) rounds w

def Steady : Phrase → Prop
  | done | fail _ | enterWith _ | accept _ _ _ => True
  | choose f => ∀ k, (f k).Steady
  | andThen φ ψ => φ.Steady ∧ ψ.Steady
  | bracket φ => φ.Steady
  | chain _ _ φ => φ.Steady
  | upTo _ φ => φ.takes = true ∧ φ.Steady

/-- More rounds than there is to read cut no loop off. -/
theorem readWithin_eq {φ : Phrase} (h : φ.Steady) {rounds : Nat} {w : Window}
    (hw : w.unread < rounds) : φ.readWithin rounds w = some (φ.recognizer.read w) := by
  induction φ generalizing w with
  | done | fail cause | enterWith event | accept p hp cause => rfl
  | choose f ih => exact ih w.kind (h w.kind) hw
  | andThen φ ψ ihφ ihψ =>
    show _ = some ((φ.recognizer.andThen ψ.recognizer).read w)
    rw [readWithin, ihφ h.1 hw, Option.bind_some, read_andThen]
    exact Reading.andThen?_eq fun _ => ihψ h.2 (Nat.lt_of_le_of_lt (read_unread_le _ w) hw)
  | bracket φ ih =>
    show _ = some ((Recognizer.bracket φ.recognizer).read w)
    rw [readWithin, ih h hw, read_bracket]
    rfl
  | chain p hp φ ih =>
    have hb (v : Window) (hv : v.unread < rounds) (_ : p v.kind = true) :
        (Recognizer.shift.read v).andThen? (φ.readWithin rounds) =
          some ((Recognizer.shift.andThen φ.recognizer).read v) := by
      rw [read_andThen]
      exact Reading.andThen?_eq fun _ => ih h (Nat.lt_of_le_of_lt (read_unread_le _ v) hv)
    exact Reading.again?_eq hb hw hw
  | upTo closer φ ih =>
    rw [recognizer_upTo closer h.1 rfl (φ.interpret.2 h.1)]
    exact Reading.again?_eq (fun v hv _ => ih h.2 hv) hw hw

theorem steady_unary : unary.Steady := by
  refine ⟨trivial, fun k => ?_, ⟨trivial, trivial⟩, trivial⟩
  dsimp only
  split <;> trivial

theorem steady_term : term.Steady := ⟨trivial, steady_unary, steady_unary, trivial⟩

theorem steady_expression : expression.Steady := ⟨trivial, steady_term, steady_term, trivial⟩

theorem steady_comparison : comparison.Steady :=
  ⟨trivial, steady_expression, trivial, steady_expression, steady_expression, trivial⟩

theorem steady_lineEnd : lineEnd.Steady := ⟨trivial, trivial, trivial, trivial⟩

section

variable {block : BlockForm → Phrase} (h : ∀ form, (block form).Steady)

include h

theorem steady_compound (form : BlockForm) : (compound block form).Steady :=
  ⟨trivial, trivial, steady_comparison, trivial, steady_lineEnd, h form, trivial⟩

theorem steady_clause (k : Kind) : (clause block k).Steady := by
  have hprinted : printed.Steady := by
    intro k
    dsimp only
    split
    · trivial
    · exact steady_expression
  cases k with
  | print => exact ⟨trivial, trivial, hprinted, trivial⟩
  | «if» | «while» => exact steady_compound h _
  | label | goto | input => exact ⟨trivial, trivial, trivial, trivial⟩
  | «let» => exact ⟨trivial, trivial, trivial, trivial, steady_expression, trivial⟩
  | _ => trivial

theorem steady_statementWith : (statementWith block).Steady := ⟨steady_clause h, steady_lineEnd⟩

end

theorem steady_block (levels : Nat) (form : BlockForm) : (block levels form).Steady := by
  induction levels generalizing form with
  | zero => trivial
  | succ levels ih => exact ⟨⟨rfl, steady_statementWith ih⟩, trivial⟩

theorem steady_program (levels : Nat) : (program levels).Steady :=
  ⟨trivial, trivial, ⟨rfl, steady_statementWith (steady_block levels)⟩, trivial⟩

end Phrase

end TeenyFront
