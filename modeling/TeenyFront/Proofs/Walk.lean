import TeenyFront.Proofs.Phrase

/-!
# Walks

A walk reads a phrase from a list of tokens with nothing but the first of them in view. It gets
through, or is stuck at a token, or runs out of tokens. What it does depends on the kinds of the
tokens that it takes and of the one it stops at, and on nothing behind that one.
-/

set_option autoImplicit false

namespace TeenyFront

inductive Outcome where
  | through
  | stuck (cause : SyntaxCause)
  | starved
  deriving DecidableEq, Repr

namespace Outcome

theorem stuck_ne_through (cause : SyntaxCause) : stuck cause ≠ through := nofun

theorem stuck_ne_starved (cause : SyntaxCause) : stuck cause ≠ starved := nofun

theorem through_ne_starved : through ≠ starved := nofun

end Outcome

structure Walk where
  outcome : Outcome
  rest : List Token
  moves : List Move

def Move.token? : Move → Option Token
  | shift token => some token
  | _ => none

namespace Walk

def taken (w : Walk) : List Token := w.moves.filterMap Move.token?

def events (w : Walk) : List Event := w.moves.filterMap Move.event?

def error? (w : Walk) : Option SyntaxError :=
  match w.outcome, w.rest with
  | .stuck cause, t :: _ => some ⟨cause, t⟩
  | _, _ => none

theorem error?_eq_some {w : Walk} {e : SyntaxError} :
    w.error? = some e ↔ w.outcome = .stuck e.cause ∧ ∃ ts, w.rest = e.token :: ts := by
  obtain ⟨outcome, rest, moves⟩ := w
  obtain ⟨cause, token⟩ := e
  cases outcome with
  | stuck c => cases rest <;> simp [error?]
  | through => simp [error?]
  | starved => simp [error?]

theorem error?_congr {v w : Walk} (ho : v.outcome = w.outcome) (hr : v.rest = w.rest) :
    v.error? = w.error? := by
  simp [error?, ho, hr]

def starved : Walk := ⟨.starved, [], []⟩

def after (moves : List Move) (w : Walk) : Walk := ⟨w.outcome, w.rest, moves ++ w.moves⟩

def andThen (w : Walk) (next : List Token → Walk) : Walk :=
  match w.outcome with
  | .through => (next w.rest).after w.moves
  | _ => w

def accept (p : Kind → Bool) (cause : SyntaxCause) : List Token → Walk
  | [] => starved
  | t :: ts => if p t.kind then ⟨.through, ts, [.shift t]⟩ else ⟨.stuck cause, t :: ts, []⟩

def again (p : Kind → Bool) (body : List Token → Walk) (ts : List Token) : Walk :=
  match ts with
  | [] => starved
  | t :: us =>
    if p t.kind then
      match body (t :: us) with
      | ⟨.through, rest, moves⟩ =>
        if rest.length ≤ us.length then (again p body rest).after moves
        else ⟨.through, rest, moves⟩
      | w => w
    else ⟨.through, t :: us, []⟩
termination_by ts.length

theorem accept_pos {p : Kind → Bool} {t : Token} (ht : p t.kind = true) (cause : SyntaxCause)
    (ts : List Token) : accept p cause (t :: ts) = ⟨.through, ts, [.shift t]⟩ := if_pos ht

theorem accept_neg {p : Kind → Bool} {t : Token} (ht : p t.kind = false) (cause : SyntaxCause)
    (ts : List Token) : accept p cause (t :: ts) = ⟨.stuck cause, t :: ts, []⟩ :=
  if_neg (Bool.eq_false_iff.1 ht)

theorem andThen_through {w : Walk} (h : w.outcome = .through) (next : List Token → Walk) :
    w.andThen next = (next w.rest).after w.moves := by
  simp [andThen, h]

theorem andThen_not_through {w : Walk} (h : w.outcome ≠ .through) (next : List Token → Walk) :
    w.andThen next = w := by
  unfold andThen
  split
  · contradiction
  · rfl

theorem andThen_stuck {w : Walk} {cause : SyntaxCause} (h : w.outcome = .stuck cause)
    (next : List Token → Walk) : w.andThen next = w :=
  andThen_not_through (by rw [h]; exact Outcome.stuck_ne_through cause) next

theorem through_of_andThen {w : Walk} {next : List Token → Walk}
    (h : (w.andThen next).outcome = .through) :
    w.outcome = .through ∧ (next w.rest).outcome = .through := by
  by_cases hw : w.outcome = .through
  · rw [andThen_through hw] at h
    exact ⟨hw, h⟩
  · rw [andThen_not_through hw] at h
    exact absurd h hw

theorem andThen_rest {w : Walk} (h : w.outcome = .through) (next : List Token → Walk) :
    (w.andThen next).rest = (next w.rest).rest := by
  rw [andThen_through h]
  rfl

@[simp] theorem after_rest (ms : List Move) (w : Walk) : (w.after ms).rest = w.rest := rfl

@[simp] theorem after_moves (ms : List Move) (w : Walk) :
    (w.after ms).moves = ms ++ w.moves := rfl

@[simp] theorem after_taken (ms : List Move) (w : Walk) :
    (w.after ms).taken = ms.filterMap Move.token? ++ w.taken := by
  simp [taken]

@[simp] theorem after_events (ms : List Move) (w : Walk) :
    (w.after ms).events = ms.filterMap Move.event? ++ w.events := by
  simp [events]

theorem taken_andThen {w : Walk} (h : w.outcome = .through) (next : List Token → Walk) :
    (w.andThen next).taken = w.taken ++ (next w.rest).taken := by
  rw [andThen_through h, after_taken]
  rfl

theorem events_andThen {w : Walk} (h : w.outcome = .through) (next : List Token → Walk) :
    (w.andThen next).events = w.events ++ (next w.rest).events := by
  rw [andThen_through h, after_events]
  rfl

theorem after_after (ms ns : List Move) (w : Walk) :
    (w.after ns).after ms = w.after (ms ++ ns) := by
  simp [after]

theorem after_andThen (ms : List Move) (w : Walk) (next : List Token → Walk) :
    (w.after ms).andThen next = (w.andThen next).after ms := by
  by_cases h : w.outcome = .through
  · rw [andThen_through h, andThen_through (w := w.after ms) h, after_after]
    rfl
  · rw [andThen_not_through h, andThen_not_through (w := w.after ms) h]

/-- A walk that gets through leaves less than it found. -/
def Shrinks (body : List Token → Walk) : Prop :=
  ∀ ts, (body ts).outcome = .through → (body ts).rest.length < ts.length

theorem again_stop {p : Kind → Bool} {t : Token} (hp : p t.kind = false)
    (body : List Token → Walk) (ts : List Token) :
    again p body (t :: ts) = ⟨.through, t :: ts, []⟩ := by
  rw [again]
  simp [hp]

theorem again_go {p : Kind → Bool} {body : List Token → Walk} {t : Token}
    (hp : p t.kind = true) (hs : Shrinks body) (ts : List Token) :
    again p body (t :: ts) = (body (t :: ts)).andThen (again p body) := by
  have hlt := hs (t :: ts)
  rw [again]
  simp only [hp, if_true]
  rcases hb : body (t :: ts) with ⟨outcome, rest, moves⟩
  rw [hb] at hlt
  cases outcome with
  | through => exact if_pos (Nat.le_of_lt_succ (hlt rfl))
  | stuck cause => rfl
  | starved => rfl

/-- Induction along a repetition, which ends with the tokens, or at a kind that does not satisfy
`p`, or goes on from where its body gets to. -/
theorem again_induction {p : Kind → Bool} {body : List Token → Walk} (hs : Shrinks body)
    {motive : List Token → Prop} (nil : motive [])
    (stop : ∀ t ts, p t.kind = false → motive (t :: ts))
    (go : ∀ t ts, p t.kind = true →
      ((body (t :: ts)).outcome = .through → motive (body (t :: ts)).rest) → motive (t :: ts))
    (ts : List Token) : motive ts := by
  generalize hn : ts.length = n
  induction n using Nat.strongRecOn generalizing ts with
  | ind n ih =>
    cases ts with
    | nil => exact nil
    | cons t ts =>
      cases hp : p t.kind with
      | false => exact stop t ts hp
      | true => exact go t ts hp fun ho => ih _ (hn ▸ hs _ ho) _ rfl

theorem again_through {p : Kind → Bool} {body : List Token → Walk} (hs : Shrinks body)
    {ts : List Token} (h : (again p body ts).outcome = .through) :
    ∃ t us, (again p body ts).rest = t :: us ∧ p t.kind = false := by
  induction ts using again_induction (p := p) hs with
  | nil =>
    rw [again] at h
    cases h
  | stop t ts hp =>
    rw [again_stop hp]
    exact ⟨t, ts, rfl, hp⟩
  | go t ts hp ih =>
    rw [again_go hp hs] at h ⊢
    obtain ⟨hb, hr⟩ := through_of_andThen h
    rw [andThen_through hb]
    exact ih hb hr

end Walk

namespace Phrase

open Walk in
def walk : Phrase → List Token → Walk
  | done, ts => ⟨.through, ts, []⟩
  | fail _, [] => starved
  | fail cause, t :: ts => ⟨.stuck cause, t :: ts, []⟩
  | enterWith _, [] => starved
  | enterWith event, t :: ts => ⟨.through, t :: ts, [.enter (event t)]⟩
  | accept p _ cause, ts => Walk.accept p cause ts
  | choose _, [] => starved
  | choose f, t :: ts => (f t.kind).walk (t :: ts)
  | andThen φ ψ, ts => (φ.walk ts).andThen fun us => ψ.walk us
  | bracket φ, ts =>
    let w := φ.walk ts
    ⟨w.outcome, w.rest, .openBlock :: (w.moves ++ [.closeBlock])⟩
  | chain p _ φ, ts => again p (fun us => (Walk.accept p .noOperand us).andThen φ.walk) ts
  | upTo closer φ, ts =>
    if φ.takes then again (· != closer) (fun us => φ.walk us) ts else ⟨.through, ts, []⟩

theorem walk_choose (f : Kind → Phrase) (t : Token) (ts : List Token) :
    (choose f).walk (t :: ts) = (f t.kind).walk (t :: ts) := rfl

theorem walk_andThen (φ ψ : Phrase) (ts : List Token) :
    (φ.andThen ψ).walk ts = (φ.walk ts).andThen ψ.walk := rfl

theorem walk_andThen_done (φ : Phrase) : (φ.andThen .done).walk = φ.walk := by
  funext ts
  rw [walk_andThen]
  by_cases ho : (φ.walk ts).outcome = .through
  · rw [Walk.andThen_through ho]
    simp [walk, Walk.after, ← ho]
  · rw [Walk.andThen_not_through ho]

theorem walk_enterWith (event : Token → Event) (φ : Phrase) (t : Token) (ts : List Token) :
    ((enterWith event).andThen φ).walk (t :: ts) =
      (φ.walk (t :: ts)).after [.enter (event t)] := rfl

theorem walk_chain {p : Kind → Bool} (hp : p .eof = false) (φ : Phrase) :
    (chain p hp φ).walk = Walk.again p ((accept p hp .noOperand).andThen φ).walk := rfl

theorem walk_upTo (closer : Kind) {φ : Phrase} (h : φ.takes = true) :
    (upTo closer φ).walk = Walk.again (· != closer) φ.walk := by
  funext ts
  rw [walk, if_pos h]

theorem bracket_taken (φ : Phrase) (ts : List Token) :
    ((bracket φ).walk ts).taken = (φ.walk ts).taken := by
  simp [walk, Walk.taken, List.filterMap_cons, Move.token?]

theorem bracket_events (φ : Phrase) (ts : List Token) :
    ((bracket φ).walk ts).events = (φ.walk ts).events := by
  simp [walk, Walk.events, List.filterMap_cons, Move.event?]

end Phrase

/-- What is true of any walk along a list of tokens. -/
structure Walk.Along (ts : List Token) (w : Walk) : Prop where
  split : w.taken ++ w.rest = ts
  starved : w.outcome = .starved → w.rest = []
  stuck : ∀ cause, w.outcome = .stuck cause → w.rest ≠ []
  proper : ∀ t ∈ w.taken, t.kind ≠ .eof

namespace Walk

theorem along_starved : Along [] Walk.starved :=
  ⟨rfl, fun _ => rfl, nofun, nofun⟩

theorem Along.length_eq {ts : List Token} {w : Walk} (h : Along ts w) :
    w.taken.length + w.rest.length = ts.length := by
  rw [← List.length_append, h.split]

theorem Along.rest_eq {ts : List Token} {w : Walk} (h : Along ts w) :
    w.rest = ts.drop w.taken.length := by
  conv => rhs; rw [← h.split]
  simp

theorem Along.take_taken {ts : List Token} {w : Walk} (h : Along ts w) :
    ts.take w.taken.length = w.taken := by
  rw [← h.split, List.take_left]

theorem Along.error_split {ts : List Token} {w : Walk} (h : Along ts w) {e : SyntaxError}
    (he : w.error? = some e) : ∃ us, w.taken ++ e.token :: us = ts := by
  obtain ⟨-, us, hr⟩ := error?_eq_some.1 he
  exact ⟨us, hr ▸ h.split⟩

theorem Along.getElem?_error {ts : List Token} {w : Walk} (h : Along ts w) {e : SyntaxError}
    (he : w.error? = some e) : ts[w.taken.length]? = some e.token := by
  obtain ⟨us, hs⟩ := h.error_split he
  rw [← hs, List.getElem?_append_right (Nat.le_refl _), Nat.sub_self]
  rfl

theorem Along.take_error {ts : List Token} {w : Walk} (h : Along ts w) {e : SyntaxError}
    (he : w.error? = some e) : ts.take (w.taken.length + 1) = w.taken ++ [e.token] := by
  obtain ⟨us, hs⟩ := h.error_split he
  rw [← hs]
  exact List.take_length_add_append 1

theorem Along.andThen {ts : List Token} {w : Walk} (h : Along ts w) {next : List Token → Walk}
    (hn : Along w.rest (next w.rest)) : Along ts (w.andThen next) := by
  by_cases hw : w.outcome = .through
  · rw [andThen_through hw]
    refine ⟨?_, hn.starved, hn.stuck, fun t ht => ?_⟩
    · rw [after_taken, after_rest, List.append_assoc, hn.split]
      exact h.split
    · rw [after_taken, List.mem_append] at ht
      exact ht.elim (h.proper t) (hn.proper t)
  · rwa [andThen_not_through hw]

theorem along_accept {p : Kind → Bool} (hp : p .eof = false) (cause : SyntaxCause)
    (ts : List Token) : Along ts (accept p cause ts) := by
  cases ts with
  | nil => exact along_starved
  | cons t ts =>
    cases ht : p t.kind with
    | false =>
      rw [accept_neg ht]
      exact ⟨rfl, nofun, nofun, nofun⟩
    | true =>
      rw [accept_pos ht]
      refine ⟨rfl, nofun, nofun, fun u hu he => ?_⟩
      rw [← List.mem_singleton.1 hu, he, hp] at ht
      cases ht

theorem along_again {p : Kind → Bool} {body : List Token → Walk}
    (hb : ∀ ts, Along ts (body ts)) (ts : List Token) : Along ts (again p body ts) := by
  induction ts using again.induct p body with
  | case1 => simpa only [again] using along_starved
  | case2 t ts hp rest moves h hle ih =>
    have hw := hb (t :: ts)
    rw [h] at hw
    rw [again, if_pos hp, h]
    simp only [if_pos hle]
    exact hw.andThen ih
  | case3 t ts hp rest moves h hle =>
    have hw := hb (t :: ts)
    rw [again, if_pos hp, h]
    simp only [if_neg hle]
    rwa [h] at hw
  | case4 t ts hp h =>
    rw [again, if_pos hp]
    split
    · exact absurd ‹_› (h _ _)
    · exact hb (t :: ts)
  | case5 t ts hp =>
    rw [again, if_neg hp]
    exact ⟨rfl, nofun, nofun, nofun⟩

end Walk

namespace Phrase

open Walk

theorem walk_along (φ : Phrase) (ts : List Token) : Along ts (φ.walk ts) := by
  induction φ generalizing ts with
  | done => exact ⟨rfl, nofun, nofun, nofun⟩
  | fail cause =>
    cases ts with
    | nil => exact along_starved
    | cons t ts => exact ⟨rfl, nofun, nofun, nofun⟩
  | enterWith event =>
    cases ts with
    | nil => exact along_starved
    | cons t ts => exact ⟨rfl, nofun, nofun, nofun⟩
  | accept p hp cause => exact along_accept hp cause ts
  | choose f ih =>
    cases ts with
    | nil => exact along_starved
    | cons t ts => exact ih t.kind (t :: ts)
  | andThen φ ψ ihφ ihψ => exact (ihφ ts).andThen (ihψ _)
  | bracket φ ih =>
    have h := ih ts
    have ht := bracket_taken φ ts
    exact ⟨ht ▸ h.split, h.starved, h.stuck, ht ▸ h.proper⟩
  | chain p hp φ ih =>
    rw [walk_chain]
    exact along_again (fun us => (along_accept hp _ us).andThen (ih _)) ts
  | upTo closer φ ih =>
    by_cases h : φ.takes = true
    · rw [walk_upTo closer h]
      exact along_again ih ts
    · rw [walk, if_neg h]
      exact ⟨rfl, nofun, nofun, nofun⟩

theorem takes_shrinks {φ : Phrase} (h : φ.takes = true) : Shrinks φ.walk := by
  induction φ with
  | fail cause => intro ts ht; cases ts <;> cases ht
  | accept p hp cause =>
    intro ts ht
    cases ts with
    | nil => cases ht
    | cons t ts =>
      cases hk : p t.kind with
      | false =>
        rw [walk, accept_neg hk] at ht
        cases ht
      | true =>
        rw [walk, accept_pos hk]
        exact Nat.lt_succ_self _
  | andThen φ ψ ihφ ihψ =>
    intro ts ht
    change ((φ.walk ts).andThen ψ.walk).outcome = .through at ht
    show ((φ.walk ts).andThen ψ.walk).rest.length < ts.length
    by_cases hw : (φ.walk ts).outcome = .through
    · rw [andThen_through hw] at ht ⊢
      have hφ := (φ.walk_along ts).length_eq
      have hψ := (ψ.walk_along (φ.walk ts).rest).length_eq
      rw [after_rest]
      rcases Bool.or_eq_true_iff.1 h with h | h
      · have := ihφ h ts hw
        omega
      · have := ihψ h _ ht
        omega
    · rw [andThen_not_through hw] at ht
      contradiction
  | bracket φ ih => exact ih h
  | done | enterWith _ | choose _ | chain _ _ _ | upTo _ _ => cases h

end Phrase

def Alike (n : Nat) (ts us : List Token) : Prop :=
  (ts.take n).map Token.kind = (us.take n).map Token.kind

theorem Alike.mono {m n : Nat} (h : m ≤ n) {ts us : List Token} (ha : Alike n ts us) :
    Alike m ts us := by
  have := congrArg (List.take m) ha
  rwa [← List.map_take, ← List.map_take, List.take_take, List.take_take, Nat.min_eq_left h] at this

theorem Alike.drop {m n : Nat} {ts us : List Token} (ha : Alike (m + n) ts us) :
    Alike n (ts.drop m) (us.drop m) := by
  have := congrArg (List.drop m) ha
  rwa [← List.map_drop, ← List.map_drop, List.drop_take, List.drop_take,
    Nat.add_sub_cancel_left] at this

theorem Alike.cons {n : Nat} {t : Token} {ts us : List Token} (ha : Alike (n + 1) (t :: ts) us) :
    ∃ u vs, us = u :: vs ∧ u.kind = t.kind ∧ Alike n ts vs := by
  cases us with
  | nil => simp [Alike] at ha
  | cons u vs =>
    obtain ⟨hk, hr⟩ := List.cons.inj ha
    exact ⟨u, vs, rfl, hk.symm, hr⟩

namespace Walk

/-- Two walks that end alike after as many tokens. -/
def Parallel (v w : Walk) : Prop :=
  w.outcome = v.outcome ∧ w.taken.length = v.taken.length

/-- Kinds further on than the first token left do not matter to a walk along `ts`. -/
def LocalAt (f : List Token → Walk) (ts : List Token) : Prop :=
  (f ts).outcome ≠ .starved → ∀ us, Alike ((f ts).taken.length + 1) ts us →
    Parallel (f ts) (f us)

theorem outcome_of_andThen {w : Walk} {next : List Token → Walk}
    (h : (w.andThen next).outcome ≠ .starved) : w.outcome ≠ .starved := by
  intro hw
  rw [andThen_not_through (by rw [hw]; exact Outcome.through_ne_starved.symm)] at h
  exact h hw

theorem taken_le_andThen (w : Walk) (next : List Token → Walk) :
    w.taken.length ≤ (w.andThen next).taken.length := by
  by_cases hw : w.outcome = .through
  · rw [andThen_through hw, after_taken, List.length_append]
    exact Nat.le_add_right _ _
  · exact Nat.le_of_eq (by rw [andThen_not_through hw])

theorem LocalAt.andThen {f next : List Token → Walk} (hl : ∀ us, Along us (f us))
    {ts : List Token} (hf : LocalAt f ts)
    (hn : (f ts).outcome = .through → LocalAt next (f ts).rest) :
    LocalAt (fun us => (f us).andThen next) ts := by
  intro ho us ha
  dsimp only at ho ha ⊢
  have h := hf (outcome_of_andThen ho) us
    (ha.mono (Nat.succ_le_succ (taken_le_andThen (f ts) next)))
  by_cases ht : (f ts).outcome = .through
  · rw [andThen_through ht] at ho ha ⊢
    rw [andThen_through (h.1.trans ht)]
    have hd : Alike ((next (f ts).rest).taken.length + 1) (f ts).rest (f us).rest := by
      rw [(hl ts).rest_eq, (hl us).rest_eq, h.2]
      refine Alike.drop (ha.mono ?_)
      rw [after_taken, List.length_append, Nat.add_assoc, ← (hl ts).rest_eq]
      exact Nat.le_refl _
    obtain ⟨ho', hn'⟩ := hn ht ho _ hd
    refine ⟨ho', ?_⟩
    rw [after_taken, after_taken, List.length_append, List.length_append, hn']
    exact congrArg (· + _) h.2
  · rw [andThen_not_through ht, andThen_not_through (h.1 ▸ ht)]
    exact h

theorem localAt_accept (p : Kind → Bool) (cause : SyntaxCause) (ts : List Token) :
    LocalAt (accept p cause) ts := by
  intro ho us ha
  cases ts with
  | nil => exact absurd rfl ho
  | cons t ts =>
    obtain ⟨u, vs, rfl, hk, -⟩ := ha.cons
    cases ht : p t.kind with
    | false =>
      rw [accept_neg ht, accept_neg (hk ▸ ht)]
      exact ⟨rfl, rfl⟩
    | true =>
      rw [accept_pos ht, accept_pos (hk ▸ ht)]
      exact ⟨rfl, rfl⟩

theorem localAt_again {p : Kind → Bool} {body : List Token → Walk}
    (hl : ∀ ts, Along ts (body ts)) (hs : Shrinks body) (hb : ∀ ts, LocalAt body ts)
    (ts : List Token) : LocalAt (again p body) ts := by
  induction ts using again_induction (p := p) hs with
  | nil =>
    intro ho
    rw [again] at ho
    exact absurd rfl ho
  | stop t ts hp =>
    intro ho us ha
    obtain ⟨u, vs, rfl, hk, -⟩ := ha.cons
    rw [again_stop hp, again_stop (hk ▸ hp)]
    exact ⟨rfl, rfl⟩
  | go t ts hp ih =>
    intro ho us ha
    obtain ⟨u, vs, rfl, hk, -⟩ := ha.cons
    rw [again_go hp hs] at ho ha ⊢
    rw [again_go (hk ▸ hp) hs]
    exact LocalAt.andThen hl (hb _) ih ho _ ha

end Walk

namespace Phrase

open Walk

theorem walk_localAt (φ : Phrase) (ts : List Token) : LocalAt φ.walk ts := by
  induction φ generalizing ts with
  | done => intro _ us _; exact ⟨rfl, rfl⟩
  | fail cause =>
    intro ho us ha
    cases ts with
    | nil => exact absurd rfl ho
    | cons t ts =>
      obtain ⟨u, vs, rfl, -, -⟩ := ha.cons
      exact ⟨rfl, rfl⟩
  | enterWith event =>
    intro ho us ha
    cases ts with
    | nil => exact absurd rfl ho
    | cons t ts =>
      obtain ⟨u, vs, rfl, -, -⟩ := ha.cons
      exact ⟨rfl, rfl⟩
  | accept p hp cause => exact localAt_accept p cause ts
  | choose f ih =>
    intro ho us ha
    cases ts with
    | nil => exact absurd rfl ho
    | cons t ts =>
      obtain ⟨u, vs, rfl, hk, -⟩ := ha.cons
      rw [walk_choose, walk_choose, hk]
      exact ih t.kind (t :: ts) ho (u :: vs) ha
  | andThen φ ψ ihφ ihψ => exact LocalAt.andThen φ.walk_along (ihφ ts) fun _ => ihψ _
  | bracket φ ih =>
    intro ho us ha
    rw [bracket_taken] at ha
    obtain ⟨ho', hl⟩ := ih ts ho us ha
    exact ⟨ho', by rw [bracket_taken, bracket_taken, hl]⟩
  | chain p hp φ ih =>
    have hb : ∀ us, LocalAt ((accept p hp .noOperand).andThen φ).walk us := fun us =>
      LocalAt.andThen (along_accept hp .noOperand) (localAt_accept p .noOperand us) fun _ => ih _
    rw [walk_chain]
    exact localAt_again (walk_along _) (takes_shrinks rfl) hb ts
  | upTo closer φ ih =>
    by_cases h : φ.takes = true
    · rw [walk_upTo closer h]
      exact localAt_again φ.walk_along (takes_shrinks h) ih ts
    · intro _ us _
      rw [walk, walk, if_neg h, if_neg h]
      exact ⟨rfl, rfl⟩

end Phrase

end TeenyFront
