import TeenyFront.Event
import TeenyFront.Window

/-!
# Recognizers

A recognizer reads a phrase through a window. It reports success or the first error, the window
it has reached in either case, and its moves in order: tokens shifted out of the window, events
of the trace, blocks opened and closed. No recognizer leaves more to read than it found, which is
why the loops below end.
-/

set_option autoImplicit false

namespace TeenyFront

inductive Move where
  | shift (token : Token)
  | enter (event : Event)
  | openBlock
  | closeBlock
  deriving DecidableEq, Repr

def Move.event? : Move → Option Event
  | enter event => some event
  | _ => none

structure Reading where
  result : Except ParseError Unit
  window : Window
  moves : List Move

namespace Reading

def events (r : Reading) : List Event := r.moves.filterMap Move.event?

def after (moves : List Move) (r : Reading) : Reading := ⟨r.result, r.window, moves ++ r.moves⟩

def andThen (r : Reading) (next : Window → Reading) : Reading :=
  match r with
  | ⟨.error e, w, ms⟩ => ⟨.error e, w, ms⟩
  | ⟨.ok (), w, ms⟩ => (next w).after ms

@[simp] theorem after_nil (r : Reading) : r.after [] = r := rfl

theorem after_after (ms ns : List Move) (r : Reading) :
    (r.after ns).after ms = r.after (ms ++ ns) := by
  simp [after]

theorem after_events (ms : List Move) (r : Reading) :
    (r.after ms).events = ms.filterMap Move.event? ++ r.events := List.filterMap_append

theorem andThen_error {r : Reading} {e : ParseError} (h : r.result = .error e)
    (next : Window → Reading) : r.andThen next = r := by
  obtain ⟨result, w, ms⟩ := r
  cases h
  rfl

theorem andThen_ok {r : Reading} (h : r.result = .ok ()) (next : Window → Reading) :
    r.andThen next = (next r.window).after r.moves := by
  obtain ⟨result, w, ms⟩ := r
  cases h
  rfl

end Reading

structure Progress where
  result : Except ParseError Unit
  window : Window
  seen : List Move

namespace Progress

def onto (p : Progress) (seen : List Move) : Progress := ⟨p.result, p.window, p.seen ++ seen⟩

def reading (p : Progress) : Reading := ⟨p.result, p.window, p.seen.reverse⟩

def andThen (p : Progress) (next : Window → List Move → Progress) : Progress :=
  match p with
  | ⟨.error e, w, seen⟩ => ⟨.error e, w, seen⟩
  | ⟨.ok (), w, seen⟩ => next w seen

theorem onto_onto (p : Progress) (seen older : List Move) :
    (p.onto seen).onto older = p.onto (seen ++ older) := by
  simp [onto]

theorem reading_onto (p : Progress) (seen : List Move) :
    (p.onto seen).reading = p.reading.after seen.reverse := by
  simp [onto, reading, Reading.after]

end Progress

/-- A recognizer goes on from a window and the moves so far, which it only adds to. -/
structure Recognizer where
  run : Window → List Move → Progress
  run_eq : ∀ w seen, run w seen = (run w []).onto seen
  unread_le : ∀ w, (run w []).window.unread ≤ w.unread

namespace Recognizer

def read (r : Recognizer) (w : Window) : Reading := (r.run w []).reading

/-- Succeeding takes at least one token that is not the end of input. -/
def Consumes (r : Recognizer) : Prop :=
  ∀ w, (r.read w).result = .ok () → (r.read w).window.unread < w.unread

theorem reading_run (r : Recognizer) (w : Window) (seen : List Move) :
    (r.run w seen).reading = (r.read w).after seen.reverse := by
  rw [r.run_eq, Progress.reading_onto]
  rfl

theorem read_unread_le (r : Recognizer) (w : Window) :
    (r.read w).window.unread ≤ w.unread := r.unread_le w

theorem run_result (r : Recognizer) (w : Window) (seen : List Move) :
    (r.run w seen).result = (r.read w).result := by
  rw [r.run_eq]
  rfl

theorem run_window (r : Recognizer) (w : Window) (seen : List Move) :
    (r.run w seen).window = (r.read w).window := by
  rw [r.run_eq]
  rfl

def done : Recognizer where
  run w seen := ⟨.ok (), w, seen⟩
  run_eq _ _ := rfl
  unread_le _ := Nat.le_refl _

def fail (cause : SyntaxCause) : Recognizer where
  run w seen := ⟨.error (.syntactic ⟨cause, w.current⟩), w, seen⟩
  run_eq _ _ := rfl
  unread_le _ := Nat.le_refl _

def enterWith (event : Token → Event) : Recognizer where
  run w seen := ⟨.ok (), w, .enter (event w.current) :: seen⟩
  run_eq _ _ := rfl
  unread_le _ := Nat.le_refl _

def enter (rule : Rule) : Recognizer := enterWith fun _ => ⟨rule, none⟩

def shift : Recognizer where
  run w seen :=
    match w.shift with
    | (.ok (), v) => ⟨.ok (), v, .shift w.current :: seen⟩
    | (.error e, v) => ⟨.error (.lexical e), v, seen⟩
  run_eq w seen := by
    split <;> rfl
  unread_le w := by
    have h := w.shift_unread_le
    split <;> simp_all

def choose (f : Kind → Recognizer) : Recognizer where
  run w seen := (f w.kind).run w seen
  run_eq w seen := (f w.kind).run_eq w seen
  unread_le w := (f w.kind).unread_le w

def andThen (r s : Recognizer) : Recognizer where
  run w seen := (r.run w seen).andThen s.run
  run_eq w seen := by
    rw [r.run_eq w seen]
    rcases r.run w [] with ⟨result, v, ms⟩
    cases result with
    | error e => rfl
    | ok _ =>
      change s.run v (ms ++ seen) = (s.run v ms).onto seen
      rw [s.run_eq v (ms ++ seen), s.run_eq v ms, Progress.onto_onto]
  unread_le w := by
    have hr := r.unread_le w
    rcases hp : r.run w [] with ⟨result, v, ms⟩
    rw [hp] at hr
    cases result with
    | error e => exact hr
    | ok _ =>
      change (s.run v ms).window.unread ≤ _
      rw [s.run_eq]
      exact Nat.le_trans (s.unread_le v) hr

def sequence : List Recognizer → Recognizer
  | [] => done
  | r :: rs => r.andThen (sequence rs)

/-- One open block around what is read, closed again even after an error. -/
def bracket (r : Recognizer) : Recognizer where
  run w seen :=
    let p := r.run w (.openBlock :: seen)
    ⟨p.result, p.window, .closeBlock :: p.seen⟩
  run_eq w seen := by
    rw [r.run_eq w (.openBlock :: seen), r.run_eq w [.openBlock]]
    simp [Progress.onto]
  unread_le w := by
    rw [r.run_eq]
    exact r.unread_le w

theorem read_fail (cause : SyntaxCause) (w : Window) :
    (fail cause).read w = ⟨.error (.syntactic ⟨cause, w.current⟩), w, []⟩ := rfl

theorem read_enterWith (event : Token → Event) (w : Window) :
    (enterWith event).read w = ⟨.ok (), w, [.enter (event w.current)]⟩ := rfl

theorem read_shift_ok {w v : Window} (h : w.shift = (.ok (), v)) :
    shift.read w = ⟨.ok (), v, [.shift w.current]⟩ := by
  simp [read, shift, h, Progress.reading]

theorem read_shift_error {w v : Window} {e : LexicalError} (h : w.shift = (.error e, v)) :
    shift.read w = ⟨.error (.lexical e), v, []⟩ := by
  simp [read, shift, h, Progress.reading]

theorem read_choose (f : Kind → Recognizer) (w : Window) :
    (choose f).read w = (f w.kind).read w := rfl

theorem read_andThen (r s : Recognizer) (w : Window) :
    (r.andThen s).read w = (r.read w).andThen s.read := by
  change ((r.run w []).andThen s.run).reading = (r.run w []).reading.andThen s.read
  rcases r.run w [] with ⟨result, v, ms⟩
  cases result with
  | error e => rfl
  | ok _ => exact s.reading_run v ms

theorem read_bracket (r : Recognizer) (w : Window) :
    (bracket r).read w =
      ⟨(r.read w).result, (r.read w).window,
        .openBlock :: ((r.read w).moves ++ [.closeBlock])⟩ := by
  simp [read, bracket, Progress.reading, r.run_eq w [.openBlock], Progress.onto]

/-- Runs `body` as long as the kind of the current token satisfies `p`. -/
def loopFrom (p : Kind → Bool) (body : Recognizer)
    (shrinks : ∀ w, p w.kind = true → (body.read w).result = .ok () →
      (body.read w).window.unread < w.unread) (w : Window) (seen : List Move) : Progress :=
  if _hp : p w.kind then
    match _hr : body.run w seen with
    | ⟨.error e, v, moves⟩ => ⟨.error e, v, moves⟩
    | ⟨.ok (), v, moves⟩ => loopFrom p body shrinks v moves
  else ⟨.ok (), w, seen⟩
termination_by w.unread
decreasing_by
  have hr : (body.read w).result = .ok () := by rw [← body.run_result w seen, _hr]
  have hv : (body.read w).window = v := by rw [← body.run_window w seen, _hr]
  exact hv ▸ shrinks w _hp hr

section loop

variable (p : Kind → Bool) (body : Recognizer)
  (shrinks : ∀ w, p w.kind = true → (body.read w).result = .ok () →
    (body.read w).window.unread < w.unread)

theorem loopFrom_stop {w : Window} (hp : p w.kind = false) (seen : List Move) :
    loopFrom p body shrinks w seen = ⟨.ok (), w, seen⟩ := by
  rw [loopFrom]
  simp [hp]

theorem loopFrom_go {w : Window} (hp : p w.kind = true) (seen : List Move) :
    loopFrom p body shrinks w seen =
      (body.run w seen).andThen (loopFrom p body shrinks) := by
  rw [loopFrom]
  simp only [hp, dite_true]
  split
  · rename_i hr
    rw [hr]
    rfl
  · rename_i hr
    rw [hr]
    rfl

theorem loopFrom_eq (w : Window) (seen : List Move) :
    loopFrom p body shrinks w seen = (loopFrom p body shrinks w []).onto seen := by
  generalize hn : w.unread = n
  induction n using Nat.strongRecOn generalizing w seen with
  | ind n ih =>
    cases hp : p w.kind with
    | false =>
      rw [loopFrom_stop _ _ _ hp, loopFrom_stop _ _ _ hp]
      rfl
    | true =>
      have hs := shrinks w hp
      rw [loopFrom_go _ _ _ hp, loopFrom_go _ _ _ hp, body.run_eq w seen]
      rw [read, hn] at hs
      rcases hb : body.run w [] with ⟨result, v, moves⟩
      rw [hb] at hs
      cases result with
      | error e => rfl
      | ok _ =>
        have hlt := hs rfl
        change loopFrom p body shrinks v (moves ++ seen) =
          (loopFrom p body shrinks v moves).onto seen
        rw [ih _ hlt v (moves ++ seen) rfl, ih _ hlt v moves rfl, Progress.onto_onto]

def loop : Recognizer where
  run := loopFrom p body shrinks
  run_eq := loopFrom_eq p body shrinks
  unread_le w := by
    generalize hn : w.unread = n
    induction n using Nat.strongRecOn generalizing w with
    | ind n ih =>
      cases hp : p w.kind with
      | false =>
        rw [loopFrom_stop _ _ _ hp]
        exact Nat.le_of_eq hn
      | true =>
        have hs := shrinks w hp
        have hle := body.unread_le w
        rw [loopFrom_go _ _ _ hp]
        rw [read, hn] at hs
        rw [hn] at hle
        rcases hb : body.run w [] with ⟨result, v, moves⟩
        rw [hb] at hs hle
        cases result with
        | error e => exact hle
        | ok _ =>
          change (loopFrom p body shrinks v moves).window.unread ≤ n
          rw [loopFrom_eq]
          exact Nat.le_trans (ih _ (hs rfl) v rfl) hle

theorem read_loop_stop {w : Window} (hp : p w.kind = false) :
    (loop p body shrinks).read w = ⟨.ok (), w, []⟩ := by
  change (loopFrom p body shrinks w []).reading = _
  rw [loopFrom_stop _ _ _ hp]
  rfl

theorem read_loop_go {w : Window} (hp : p w.kind = true) :
    (loop p body shrinks).read w = (body.read w).andThen (loop p body shrinks).read := by
  rw [← read_andThen]
  change (loopFrom p body shrinks w []).reading = _
  rw [loopFrom_go _ _ _ hp]
  rfl

end loop

theorem Consumes.andThen_left {r : Recognizer} (h : r.Consumes) (s : Recognizer) :
    (r.andThen s).Consumes := by
  intro w hw
  rw [read_andThen] at hw ⊢
  cases hr : (r.read w).result with
  | error e => rw [Reading.andThen_error hr, hr] at hw; cases hw
  | ok _ =>
    rw [Reading.andThen_ok hr]
    exact Nat.lt_of_le_of_lt (s.read_unread_le _) (h w hr)

theorem Consumes.andThen_right (r : Recognizer) {s : Recognizer} (h : s.Consumes) :
    (r.andThen s).Consumes := by
  intro w hw
  rw [read_andThen] at hw ⊢
  cases hr : (r.read w).result with
  | error e => rw [Reading.andThen_error hr, hr] at hw; cases hw
  | ok _ =>
    rw [Reading.andThen_ok hr] at hw ⊢
    exact Nat.lt_of_lt_of_le (h _ hw) (r.read_unread_le w)

theorem shift_unread_lt {w : Window} (hk : w.kind ≠ .eof) (h : (shift.read w).result = .ok ()) :
    (shift.read w).window.unread < w.unread := by
  rcases hs : w.shift with ⟨r, v⟩
  cases r with
  | error e =>
    rw [read_shift_error hs] at h
    cases h
  | ok _ =>
    rw [read_shift_ok hs]
    exact Window.shift_unread_lt hk hs

def accept (p : Kind → Bool) (cause : SyntaxCause) : Recognizer :=
  choose fun k => if p k then shift else fail cause

def expect (kind : Kind) : Recognizer := accept (· == kind) (.expected kind)

theorem read_accept_pos {p : Kind → Bool} {w : Window} (hp : p w.kind = true)
    (cause : SyntaxCause) : (accept p cause).read w = shift.read w := by
  rw [accept, read_choose, if_pos hp]

theorem read_accept_neg {p : Kind → Bool} {w : Window} (hp : p w.kind = false)
    (cause : SyntaxCause) : (accept p cause).read w = (fail cause).read w := by
  rw [accept, read_choose, hp]
  rfl

theorem accept_consumes {p : Kind → Bool} (hp : p .eof = false) (cause : SyntaxCause) :
    (accept p cause).Consumes := by
  intro w h
  cases hk : p w.kind with
  | false =>
    rw [read_accept_neg hk] at h
    cases h
  | true =>
    rw [read_accept_pos hk] at h ⊢
    refine shift_unread_lt (fun he => ?_) h
    rw [he, hp] at hk
    cases hk

def chain (p : Kind → Bool) (hp : p .eof = false) (operand : Recognizer) : Recognizer :=
  loop p (shift.andThen operand) fun w hk h => by
    rw [read_andThen] at h ⊢
    cases hr : (shift.read w).result with
    | error e => rw [Reading.andThen_error hr, hr] at h; cases h
    | ok _ =>
      rw [Reading.andThen_ok hr]
      refine Nat.lt_of_le_of_lt (operand.read_unread_le _) (shift_unread_lt (fun he => ?_) hr)
      rw [he, hp] at hk
      cases hk

def upTo (closer : Kind) (phrase : Recognizer) (h : phrase.Consumes) : Recognizer :=
  loop (· != closer) phrase fun w _ => h w

end Recognizer

end TeenyFront
