import TeenyFront.Proofs.Lines
import TeenyFront.Proofs.Translation
import TeenyFront.Proofs.Walk

/-!
# Walks further down

A walk along tokens that stand further down makes the same moves with these tokens. An event may
name the text of a token but not its position, so the events stay as they are.
-/

set_option autoImplicit false

namespace TeenyFront

namespace Move

def down (k : Nat) : Move → Move
  | shift t => shift (t.down k)
  | enter event => enter event
  | openBlock => openBlock
  | closeBlock => closeBlock

theorem event?_down (k : Nat) (m : Move) : (m.down k).event? = m.event? := by
  cases m <;> rfl

end Move

def SyntaxError.down (k : Nat) (e : SyntaxError) : SyntaxError := ⟨e.cause, e.token.down k⟩

def Translation.down (k : Nat) : Translation where
  cursor := Cursor.down k
  token := Token.down k
  lexicalError := LexicalError.down k
  kind_token _ := rfl
  text_token _ := rfl
  readToken_cursor := Cursor.readToken_down k

namespace Walk

def down (k : Nat) (w : Walk) : Walk :=
  ⟨w.outcome, w.rest.map (Token.down k), w.moves.map (Move.down k)⟩

variable {k : Nat}

@[simp] theorem outcome_down (w : Walk) : (w.down k).outcome = w.outcome := rfl

@[simp] theorem rest_down (w : Walk) : (w.down k).rest = w.rest.map (Token.down k) := rfl

theorem events_down (w : Walk) : (w.down k).events = w.events := by
  have hm : Move.event? ∘ Move.down k = Move.event? := funext (Move.event?_down k)
  rw [events, down, List.filterMap_map, hm, events]

theorem error?_down (w : Walk) : (w.down k).error? = w.error?.map (SyntaxError.down k) := by
  obtain ⟨outcome, rest, moves⟩ := w
  cases outcome with
  | stuck cause => cases rest <;> rfl
  | through => rfl
  | starved => rfl

theorem down_after (ms : List Move) (w : Walk) :
    (w.after ms).down k = (w.down k).after (ms.map (Move.down k)) := by
  simp [down, after]

/-- A walk that is the same further down. -/
def Sinks (k : Nat) (f : List Token → Walk) : Prop :=
  ∀ ts, f (ts.map (Token.down k)) = (f ts).down k

theorem sinks_accept (p : Kind → Bool) (cause : SyntaxCause) : Sinks k (accept p cause) := by
  intro ts
  cases ts with
  | nil => rfl
  | cons t ts =>
    have hk : (t.down k).kind = t.kind := rfl
    rw [List.map_cons]
    cases ht : p t.kind with
    | false =>
      rw [accept_neg ht, accept_neg (hk ▸ ht)]
      rfl
    | true =>
      rw [accept_pos ht, accept_pos (hk ▸ ht)]
      rfl

theorem Sinks.andThen {f next : List Token → Walk} (hf : Sinks k f) (hn : Sinks k next) :
    Sinks k fun ts => (f ts).andThen next := by
  intro ts
  dsimp only
  rw [hf]
  by_cases ho : (f ts).outcome = .through
  · rw [andThen_through ho, andThen_through (w := (f ts).down k) ho, down_after, rest_down, hn]
    rfl
  · rw [andThen_not_through ho, andThen_not_through (w := (f ts).down k) ho]

theorem Sinks.again {p : Kind → Bool} {body : List Token → Walk} (hs : Shrinks body)
    (hb : Sinks k body) : Sinks k (Walk.again p body) := by
  intro ts
  induction ts using again_induction (p := p) hs with
  | nil => simp [Walk.again, starved, down]
  | stop t ts hp =>
    rw [List.map_cons, again_stop hp, again_stop (t := t.down k) hp]
    rfl
  | go t ts hp ih =>
    rw [List.map_cons, again_go hp hs, again_go (t := t.down k) hp hs, ← List.map_cons, hb]
    by_cases ho : (body (t :: ts)).outcome = .through
    · rw [andThen_through ho, andThen_through (w := (body (t :: ts)).down k) ho, down_after,
        rest_down, ih ho]
      rfl
    · rw [andThen_not_through ho, andThen_not_through (w := (body (t :: ts)).down k) ho]

end Walk

namespace Phrase

open Walk

/-- No event names the position of a token. -/
def Placeless (k : Nat) : Phrase → Prop
  | done | fail _ | accept _ _ _ => True
  | enterWith event => ∀ t, event (t.down k) = event t
  | choose f => ∀ kind, (f kind).Placeless k
  | andThen φ ψ => φ.Placeless k ∧ ψ.Placeless k
  | bracket φ | chain _ _ φ | upTo _ φ => φ.Placeless k

variable {k : Nat}

theorem walk_down {φ : Phrase} (h : φ.Placeless k) : Sinks k φ.walk := by
  induction φ with
  | done => exact fun ts => rfl
  | fail cause => intro ts; cases ts <;> rfl
  | enterWith event =>
    intro ts
    cases ts with
    | nil => rfl
    | cons t ts =>
      show Walk.mk .through _ [.enter (event (t.down k))] = _
      rw [h t]
      rfl
  | accept p hp cause => exact sinks_accept p cause
  | choose f ih =>
    intro ts
    cases ts with
    | nil => rfl
    | cons t ts => exact ih t.kind (h t.kind) (t :: ts)
  | andThen φ ψ ihφ ihψ => exact (ihφ h.1).andThen (ihψ h.2)
  | bracket φ ih =>
    intro ts
    have hs := ih h ts
    simp [walk, hs, Walk.down, Move.down]
  | chain p hp φ ih =>
    rw [walk_chain]
    exact .again (takes_shrinks rfl) ((sinks_accept p _).andThen (ih h))
  | upTo closer φ ih =>
    by_cases ht : φ.takes = true
    · rw [walk_upTo closer ht]
      exact .again (takes_shrinks ht) (ih h)
    · intro ts
      simp [walk, ht, Walk.down]

theorem Textual.placeless {φ : Phrase} (h : φ.Textual) : φ.Placeless k := by
  induction φ with
  | done | fail _ | accept _ _ _ => trivial
  | enterWith event => exact fun t => h t _ rfl rfl
  | choose f ih => exact fun kind => ih kind (h kind)
  | andThen φ ψ ihφ ihψ => exact ⟨ihφ h.1, ihψ h.2⟩
  | bracket φ ih | chain _ _ φ ih | upTo _ φ ih => exact ih h

end Phrase

end TeenyFront
