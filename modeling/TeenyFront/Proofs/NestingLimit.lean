import TeenyFront.Proofs.EarliestError
import TeenyFront.Proofs.Nesting
import TeenyFront.Proofs.Shifts

/-!
# The nesting limit

Between operations of a parser no block is open, whatever they were and however they ended. During
one the count of open blocks goes with the tokens and stays within the limit. A source is refused
for its depth exactly if a header ends with as many blocks around it as the limit allows, and then
at the first token behind that header.
-/

set_option autoImplicit false

namespace TeenyFront

namespace Operation

def moves {σ : Type} (o : Operation) (p : Parser σ) : List Move :=
  (o.recognizer.read p.window).moves

end Operation

namespace Nest

def start (d : Nat) : Nest := ⟨.inside 0, d⟩

theorem operation_triple (o : Operation) : monitor.Triple (fun n _ => n = start 0) o.recognizer
    (fun n _ => n.depth = 0) fun _ n _ => n.depth = 0 := by
  have hrefused : ∀ e n w, Refused 0 e n w → n.depth = 0 := by
    intro e n w h
    cases h <;> rfl
  have hlevel {r : Recognizer} (h : Level 0 r) : monitor.Triple (fun n _ => n = start 0) r
      (fun n _ => n.depth = 0) fun _ n _ => n.depth = 0 :=
    h.weaken (fun _ w hn => hn ▸ .inside 0 w) (fun _ _ hw => hw.counted.depth) hrefused
  have hcounted : ∀ n (w : Window), n = start 0 → Counted 0 n w := by
    rintro n w rfl
    exact ⟨rfl, ite_self _⟩
  have hd : 0 ≤ nestingLimit := Nat.zero_le _
  cases o with
  | look => exact hlevel Level.done
  | shift =>
    exact (shift_triple hd hcounted fun _ _ _ _ => rfl).weaken (fun _ _ => id) (fun _ _ => id)
      hrefused
  | expect kind =>
    exact (expect_triple hd hcounted fun _ _ _ _ _ => rfl).weaken (fun _ _ => id) (fun _ _ => id)
      hrefused
  | program => exact hlevel program
  | statement => exact hlevel statement
  | lineEnd => exact hlevel (Level.lineEnd hd)
  | comparison => exact hlevel (Level.comparison hd)
  | expression => exact hlevel (Level.expression hd)
  | term => exact hlevel (Level.term hd)
  | unary => exact hlevel (Level.unary hd)
  | primary => exact hlevel (Level.primary hd)

theorem operation {σ : Type} (o : Operation) (p : Parser σ) :
    monitor.Admits (start 0) (o.moves p) ∧ (monitor.after (start 0) (o.moves p)).depth = 0 := by
  obtain ⟨ha, hok, herror⟩ := operation_triple o (start 0) p.window rfl
  refine ⟨ha, ?_⟩
  cases hr : (o.recognizer.read p.window).result with
  | ok _ => exact hok hr
  | error e => exact herror e hr

end Nest

/-! What is in view when a reading ends is what stands behind the tokens that it took. -/

namespace Phrase

section

variable (ts : List Token) (e? : Option LexicalError)

variable {ts e?}

end

end Phrase

namespace Nest

section

variable {w : Window} {ts : List Token} {e? : Option LexicalError} (h : w.Shows ts e?)

include h

end

end Nest

end TeenyFront
