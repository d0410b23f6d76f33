import TeenyFront.Grammar

/-!
# Monitored readings

A monitor watches the moves of a reading one by one. It changes its state with each of them and
says which of them it allows. A triple states what holds in front of a reading, behind one that
succeeds and behind one that fails, and that every move on the way is allowed. There is one rule
for each way to build a recognizer.
-/

set_option autoImplicit false

namespace TeenyFront

structure Monitor (σ : Type) where
  step : σ → Move → σ
  Allows : σ → Move → Prop

namespace Monitor

variable {σ : Type} (M : Monitor σ)

def after (s : σ) (ms : List Move) : σ := ms.foldl M.step s

def Admits : σ → List Move → Prop
  | _, [] => True
  | s, m :: ms => M.Allows s m ∧ Admits (M.step s m) ms

theorem after_append (s : σ) (ms ns : List Move) :
    M.after s (ms ++ ns) = M.after (M.after s ms) ns :=
  List.foldl_append

theorem admits_append {s : σ} {ms ns : List Move} :
    M.Admits s (ms ++ ns) ↔ M.Admits s ms ∧ M.Admits (M.after s ms) ns := by
  induction ms generalizing s with
  | nil => exact (and_iff_right trivial).symm
  | cons m ms ih => exact (and_congr_right fun _ => ih).trans and_assoc.symm

def collect {α : Type} (f : Move → Option α) : Monitor (List α) where
  step xs m := xs ++ (f m).toList
  Allows _ _ := True

theorem collect_after {α : Type} (f : Move → Option α) (xs : List α) (ms : List Move) :
    (collect f).after xs ms = xs ++ ms.filterMap f := by
  induction ms generalizing xs with
  | nil => simp [after]
  | cons m ms ih =>
    show (collect f).after (xs ++ (f m).toList) ms = _
    rw [ih, List.append_assoc]
    cases hm : f m <;> simp [hm]

/-- How a reading goes that a monitor watches from a state on. -/
structure Follows (Q : σ → Window → Prop) (E : ParseError → σ → Window → Prop) (s : σ)
    (r : Reading) : Prop where
  admits : M.Admits s r.moves
  ok : r.result = .ok () → Q (M.after s r.moves) r.window
  error : ∀ e, r.result = .error e → E e (M.after s r.moves) r.window

def Triple (P : σ → Window → Prop) (r : Recognizer) (Q : σ → Window → Prop)
    (E : ParseError → σ → Window → Prop) : Prop :=
  ∀ s w, P s w → M.Follows Q E s (r.read w)

open Recognizer

variable {M}

namespace Follows

variable {Q R : σ → Window → Prop} {E : ParseError → σ → Window → Prop} {s : σ}

theorem still {w : Window} (h : Q s w) : M.Follows Q E s ⟨.ok (), w, []⟩ :=
  ⟨trivial, fun _ => h, fun _ he => by cases he⟩

theorem stopped {e : ParseError} {w : Window} (h : E e s w) :
    M.Follows Q E s ⟨.error e, w, []⟩ := by
  refine ⟨trivial, nofun, fun e' he => ?_⟩
  cases he
  exact h

theorem moved {m : Move} {w : Window} (ha : M.Allows s m) (h : Q (M.step s m) w) :
    M.Follows Q E s ⟨.ok (), w, [m]⟩ :=
  ⟨⟨ha, trivial⟩, fun _ => h, fun _ he => by cases he⟩

theorem andThen {r : Reading} {next : Window → Reading} (h : M.Follows R E s r)
    (hn : ∀ t, R t r.window → M.Follows Q E t (next r.window)) :
    M.Follows Q E s (r.andThen next) := by
  cases hr : r.result with
  | error e =>
    rw [Reading.andThen_error hr]
    refine ⟨h.admits, fun ho => ?_, h.error⟩
    rw [hr] at ho
    cases ho
  | ok _ =>
    have hf := hn _ (h.ok hr)
    rw [Reading.andThen_ok hr]
    refine ⟨M.admits_append.2 ⟨h.admits, hf.admits⟩, fun ho => ?_, fun e he => ?_⟩
    · exact M.after_append s _ _ ▸ hf.ok ho
    · exact M.after_append s _ _ ▸ hf.error e he

end Follows

namespace Triple

variable {P P' Q Q' R : σ → Window → Prop} {E E' : ParseError → σ → Window → Prop}
  {r r' : Recognizer}

theorem weaken (h : M.Triple P r Q E) (hP : ∀ s w, P' s w → P s w) (hQ : ∀ s w, Q s w → Q' s w)
    (hE : ∀ e s w, E e s w → E' e s w) : M.Triple P' r Q' E' := by
  intro s w hs
  obtain ⟨ha, hok, herror⟩ := h s w (hP s w hs)
  exact ⟨ha, fun ho => hQ _ _ (hok ho), fun e he => hE e _ _ (herror e he)⟩

theorem before (h : M.Triple P r Q E) (hP : ∀ s w, P' s w → P s w) : M.Triple P' r Q E :=
  h.weaken hP (fun _ _ => id) fun _ _ _ => id

theorem after (h : M.Triple P r Q E) (hQ : ∀ s w, Q s w → Q' s w) : M.Triple P r Q' E :=
  h.weaken (fun _ _ => id) hQ fun _ _ _ => id

theorem done (h : ∀ s w, P s w → Q s w) : M.Triple P done Q E :=
  fun s w hs => .still (h s w hs)

theorem fail {cause : SyntaxCause}
    (h : ∀ s w, P s w → E (.syntactic ⟨cause, w.current⟩) s w) :
    M.Triple P (fail cause) Q E :=
  fun s w hs => .stopped (h s w hs)

theorem enterWith {event : Token → Event} (h : ∀ s w, P s w →
      M.Allows s (.enter (event w.current)) ∧ Q (M.step s (.enter (event w.current))) w) :
    M.Triple P (enterWith event) Q E :=
  fun s w hs => .moved (h s w hs).1 (h s w hs).2

theorem shift
    (ho : ∀ s w v, P s w → w.shift = (.ok (), v) →
      M.Allows s (.shift w.current) ∧ Q (M.step s (.shift w.current)) v)
    (he : ∀ s w v e, P s w → w.shift = (.error e, v) → E (.lexical e) s v) :
    M.Triple P shift Q E := by
  intro s w hs
  rcases hw : w.shift with ⟨result, v⟩
  cases result with
  | error e =>
    rw [read_shift_error hw]
    exact .stopped (he s w v e hs hw)
  | ok _ =>
    obtain ⟨ha, hq⟩ := ho s w v hs hw
    rw [read_shift_ok hw]
    exact .moved ha hq

theorem choose {f : Kind → Recognizer}
    (h : ∀ k, M.Triple (fun s w => P s w ∧ w.kind = k) (f k) Q E) :
    M.Triple P (choose f) Q E :=
  fun s w hs => h w.kind s w ⟨hs, rfl⟩

theorem andThen (h : M.Triple P r R E) (h' : M.Triple R r' Q E) :
    M.Triple P (r.andThen r') Q E := by
  intro s w hs
  rw [read_andThen]
  exact (h s w hs).andThen fun t ht => h' t _ ht

theorem bracket
    (ho : ∀ s w, P s w → M.Allows s .openBlock ∧ P' (M.step s .openBlock) w)
    (h : M.Triple P' r Q' E')
    (hq : ∀ s w, Q' s w → M.Allows s .closeBlock ∧ Q (M.step s .closeBlock) w)
    (he : ∀ e s w, E' e s w → M.Allows s .closeBlock ∧ E e (M.step s .closeBlock) w) :
    M.Triple P (bracket r) Q E := by
  intro s w hs
  obtain ⟨ha, hP⟩ := ho s w hs
  obtain ⟨hm, hok, herror⟩ := h _ w hP
  have hc : M.Allows (M.after (M.step s .openBlock) (r.read w).moves) .closeBlock := by
    cases hr : (r.read w).result with
    | ok _ => exact (hq _ _ (hok hr)).1
    | error e => exact (he e _ _ (herror e hr)).1
  rw [read_bracket]
  refine ⟨⟨ha, M.admits_append.2 ⟨hm, hc, trivial⟩⟩, fun hr => ?_, fun e hr => ?_⟩
  · show Q (M.after (M.step s .openBlock) ((r.read w).moves ++ [.closeBlock])) _
    rw [after_append]
    exact (hq _ _ (hok hr)).2
  · show E e (M.after (M.step s .openBlock) ((r.read w).moves ++ [.closeBlock])) _
    rw [after_append]
    exact (he e _ _ (herror e hr)).2

/-- What the body keeps up holds whenever the loop comes round. -/
theorem loop {p : Kind → Bool}
    {shrinks : ∀ w, p w.kind = true → (r.read w).result = .ok () →
      (r.read w).window.unread < w.unread}
    (h : M.Triple (fun s w => P s w ∧ p w.kind = true) r P E) :
    M.Triple P (loop p r shrinks) (fun s w => P s w ∧ p w.kind = false) E := by
  intro s w hs
  generalize hn : w.unread = n
  induction n using Nat.strongRecOn generalizing s w with
  | ind n ih =>
    cases hp : p w.kind with
    | false =>
      rw [read_loop_stop _ _ _ hp]
      exact .still ⟨hs, hp⟩
    | true =>
      have hr := h s w ⟨hs, hp⟩
      rw [read_loop_go _ _ _ hp]
      refine Follows.andThen (R := fun t v => P t v ∧ v.unread < n) ?_ ?_
      · exact ⟨hr.admits, fun ho => ⟨hr.ok ho, hn ▸ shrinks w hp ho⟩, hr.error⟩
      · exact fun t ht => ih _ ht.2 t _ ht.1 rfl

theorem chain {p : Kind → Bool} {hp : p .eof = false}
    (hs : M.Triple (fun s w => P s w ∧ p w.kind = true) Recognizer.shift R E)
    (h : M.Triple R r P E) :
    M.Triple P (chain p hp r) (fun s w => P s w ∧ p w.kind = false) E :=
  .loop (.andThen hs h)

theorem upTo {closer : Kind} {hc : r.Consumes}
    (h : M.Triple (fun s w => P s w ∧ w.kind ≠ closer) r P E) :
    M.Triple P (Recognizer.upTo closer r hc) (fun s w => P s w ∧ w.kind = closer) E := by
  have hl : M.Triple P (Recognizer.upTo closer r hc)
      (fun s w => P s w ∧ (w.kind != closer) = false) E :=
    .loop (h.before fun _ _ hs => ⟨hs.1, bne_iff_ne.1 hs.2⟩)
  exact hl.after fun _ _ hs => ⟨hs.1, by simpa using hs.2⟩

theorem accept {p : Kind → Bool} {cause : SyntaxCause}
    (hs : M.Triple (fun s w => P s w ∧ p w.kind = true) Recognizer.shift Q E)
    (hf : M.Triple (fun s w => P s w ∧ p w.kind = false) (Recognizer.fail cause) Q E) :
    M.Triple P (accept p cause) Q E := by
  intro s w h
  cases hk : p w.kind with
  | true =>
    rw [read_accept_pos hk]
    exact hs s w ⟨h, hk⟩
  | false =>
    rw [read_accept_neg hk]
    exact hf s w ⟨h, hk⟩

theorem expect {kind : Kind}
    (hs : M.Triple (fun s w => P s w ∧ w.kind = kind) Recognizer.shift Q E)
    (hf : M.Triple (fun s w => P s w ∧ w.kind ≠ kind) (Recognizer.fail (.expected kind)) Q E) :
    M.Triple P (expect kind) Q E :=
  .accept (hs.before fun _ _ h => ⟨h.1, by simpa using h.2⟩)
    (hf.before fun _ _ h => ⟨h.1, by simpa using h.2⟩)

end Triple

end Monitor

end TeenyFront
