import TeenyFront.Proofs.Lookahead
import TeenyFront.Proofs.Monitor

/-!
# What shifts keep up

The tokens that a reading takes and the window that it leaves change with shifts only, and a phrase
never shifts past the end of input. So a property of the two that every such shift keeps up is kept
up by every phrase.
-/

set_option autoImplicit false

namespace TeenyFront

open Recognizer

abbrev Monitor.taking : Monitor (List Token) := .collect Move.token?

/-- What a property of the tokens taken and of the window becomes by a reading, with `E` instead if
there is an error. -/
abbrev Recognizer.Upholds (I : List Token → Window → Prop)
    (E : ParseError → List Token → Window → Prop) (r : Recognizer) : Prop :=
  Monitor.taking.Triple I r I E

namespace Phrase

section

variable {I : List Token → Window → Prop} {E : ParseError → List Token → Window → Prop}
  (hs : Monitor.taking.Triple (fun us w => I us w ∧ w.kind ≠ .eof) Recognizer.shift I E)
  (hf : ∀ e us w, I us w → E (.syntactic e) us w)

include hs hf

theorem upholds (φ : Phrase) : φ.recognizer.Upholds I E := by
  have hdone : Recognizer.done.Upholds I E := .done fun _ _ => id
  have hfail (cause : SyntaxCause) : (Recognizer.fail cause).Upholds I E :=
    .fail fun us w => hf _ us w
  induction φ with
  | done => exact hdone
  | fail cause => exact hfail cause
  | enterWith event =>
    exact .enterWith fun us w h => ⟨trivial, by simpa [Monitor.collect, Move.token?] using h⟩
  | accept p hp cause =>
    exact .accept (hs.before fun us w h => ⟨h.1, not_eof hp h.2⟩)
      ((hfail cause).before fun _ _ => And.left)
  | choose f ih => exact .choose fun k => (ih k).before fun _ _ => And.left
  | andThen φ ψ ihφ ihψ => exact .andThen ihφ ihψ
  | bracket φ ih =>
    refine .bracket (fun us w h => ?_) ih (fun us w h => ?_) fun e us w h => ?_
    all_goals exact ⟨trivial, by simpa [Monitor.collect, Move.token?] using h⟩
  | chain p hp φ ih =>
    show (Recognizer.chain p hp φ.recognizer).Upholds I E
    exact .after (.chain (hs.before fun us w h => ⟨h.1, not_eof hp h.2⟩) ih) fun _ _ => And.left
  | upTo closer φ ih =>
    by_cases ht : φ.takes = true
    · rw [recognizer_upTo closer ht rfl (φ.interpret.2 ht)]
      exact .after (.upTo (ih.before fun _ _ => And.left)) fun _ _ => And.left
    · have hr : (upTo closer φ).recognizer = Recognizer.done := by
        rw [recognizer, interpret, dif_neg ht]
      rw [hr]
      exact hdone

end

end Phrase

namespace Recognizer.Upholds

variable {I : List Token → Window → Prop} {E : ParseError → List Token → Window → Prop}
  {r : Recognizer} {us : List Token} {w : Window}

theorem read (h : r.Upholds I E) (hw : I us w) :
    ((r.read w).result = .ok () → I (us ++ (r.read w).taken) (r.read w).window) ∧
      ∀ e, (r.read w).result = .error e → E e (us ++ (r.read w).taken) (r.read w).window := by
  have hf := h us w hw
  have hm : Monitor.taking.after us (r.read w).moves = us ++ (r.read w).taken :=
    Monitor.collect_after Move.token? us _
  exact hm ▸ ⟨hf.ok, hf.error⟩

theorem kept (h : r.Upholds I fun _ => I) (hw : I us w) :
    I (us ++ (r.read w).taken) (r.read w).window := by
  obtain ⟨hok, herror⟩ := h.read hw
  cases hr : (r.read w).result with
  | ok _ => exact hok hr
  | error e => exact herror e hr

end Recognizer.Upholds

namespace Recognizer

def AllTaken (p : Kind → Prop) (us : List Token) (_ : Window) : Prop := ∀ t ∈ us, p t.kind

theorem shift_allTaken (p : Kind → Prop) :
    Monitor.taking.Triple (fun us w => AllTaken p us w ∧ p w.kind) shift (AllTaken p)
      fun _ => AllTaken p := by
  apply Monitor.Triple.shift
  · intro us w v ⟨hu, hw⟩ _
    refine ⟨trivial, fun t ht => ?_⟩
    rcases List.mem_append.1 ht with ht | ht
    · exact hu t ht
    · exact List.mem_singleton.1 ht ▸ hw
  · intro us w v e ⟨hu, _⟩ _
    exact hu

end Recognizer

end TeenyFront
