import TeenyFront.Parser
import TeenyFront.Proofs.Monitor

/-!
# Nesting

How many blocks are open at a place follows from the tokens in front of it. A divider and the line
feeds behind it are the header of a block, which is open from the first token behind them up to its
closing keyword. A reading opens and closes blocks in step with that, and gives back every level
that it took when it ends, be it with an error or not. It is refused for its depth just where the
header of a block ends that would be one too many.
-/

set_option autoImplicit false

namespace TeenyFront

theorem Window.current_of_shift_error {w v : Window} {e : LexicalError}
    (h : w.shift = (.error e, v)) : v.current = w.current := by
  obtain ⟨d, -, rfl⟩ := shift_eq_error h
  rfl

namespace Kind

def isDivider : Kind → Bool
  | «then» | «repeat» => true
  | _ => false

def isCloser : Kind → Bool
  | endIf | endWhile => true
  | _ => false

def isPlain (k : Kind) : Bool := !(k.isDivider || k.isCloser)

theorem isPlain_of {p : Kind → Bool}
    (h : p «then» = false ∧ p «repeat» = false ∧ p endIf = false ∧ p endWhile = false) {k : Kind}
    (hk : p k = true) : k.isPlain = true := by
  cases k
  case «then» | «repeat» | endIf | endWhile => simp [h] at hk
  all_goals rfl

end Kind

/-- A place among tokens and the number of blocks that are open there: within lines, right behind a
divider, or behind line feeds that follow it. -/
inductive Place where
  | inside (depth : Nat)
  | divided (depth : Nat)
  | headed (depth : Nat)
  deriving DecidableEq

namespace Place

def outer : Place → Nat
  | inside d | divided d | headed d => d

def inner : Place → Nat
  | inside d | divided d => d
  | headed d => d + 1

/-- The number of blocks that are open around a token of the kind. -/
def around (p : Place) (k : Kind) : Nat := if k = .newline then p.outer else p.inner

def behind (d : Nat) (k : Kind) : Place :=
  if k.isDivider then divided d else if k.isCloser then inside (d - 1) else inside d

def next (p : Place) (k : Kind) : Place :=
  match p with
  | inside d => behind d k
  | divided d => if k = .newline then headed d else behind d k
  | headed d => if k = .newline then headed d else behind (d + 1) k

theorem behind_plain {k : Kind} (h : k.isPlain = true) (d : Nat) : behind d k = inside d := by
  cases k <;> first | rfl | cases h

theorem behind_divider {k : Kind} (h : k.isDivider = true) (d : Nat) : behind d k = divided d :=
  if_pos h

theorem behind_closer {k : Kind} (h : k.isCloser = true) (d : Nat) :
    behind (d + 1) k = inside d := by
  cases k <;> first | rfl | cases h

end Place

/-- A place, and the count of the blocks that were opened and not closed. -/
structure Nest where
  place : Place
  depth : Nat

namespace Nest

/-- The count is that of the blocks open around each token and event. A block is opened behind its
header, as long as that does not exceed the limit, and none is closed that is not open. -/
def monitor : Monitor Nest where
  step n
    | .shift t => ⟨n.place.next t.kind, n.depth⟩
    | .enter _ => n
    | .openBlock => ⟨n.place, n.depth + 1⟩
    | .closeBlock => ⟨n.place, n.depth - 1⟩
  Allows n
    | .shift t => n.place.around t.kind = n.depth
    | .enter _ => n.place.inner = n.depth
    | .openBlock => n.place = .headed n.depth ∧ n.depth < nestingLimit
    | .closeBlock => 0 < n.depth

/-- Within so many blocks, at their first token or behind it. -/
inductive Within : Nat → Nest → Window → Prop
  | inside (d : Nat) (w : Window) : Within d ⟨.inside d, d⟩ w
  | first (d : Nat) (w : Window) (hk : w.kind ≠ .newline) : Within (d + 1) ⟨.headed d, d + 1⟩ w

def Divided (d : Nat) (n : Nest) (_ : Window) : Prop := n = ⟨.divided d, d⟩

def Headed (d : Nat) (n : Nest) (_ : Window) : Prop := n = ⟨.headed d, d⟩

def Opening (d : Nat) (n : Nest) (w : Window) : Prop := n = ⟨.headed d, d⟩ ∧ w.kind ≠ .newline

/-- The count is that of the blocks that are open around the token in view. -/
structure Counted (d : Nat) (n : Nest) (w : Window) : Prop where
  depth : n.depth = d
  around : n.place.around w.kind = d

/-- Where an error is met and what is in view there, with all blocks closed but so many. -/
inductive Refused (d : Nat) : ParseError → Nest → Window → Prop
  | tooDeep {w : Window} (hk : w.kind ≠ .newline) :
      Refused d (.syntactic ⟨.nestedTooDeep nestingLimit, w.current⟩) ⟨.headed nestingLimit, d⟩ w
  | other {e : ParseError} {p : Place} {w : Window}
      (he : ∀ limit t, e ≠ .syntactic ⟨.nestedTooDeep limit, t⟩)
      (hp : p.around w.kind ≤ nestingLimit) : Refused d e ⟨p, d⟩ w

theorem Refused.close {d : Nat} {e : ParseError} {n : Nest} {w : Window}
    (h : Refused (d + 1) e n w) :
    monitor.Allows n .closeBlock ∧ Refused d e (monitor.step n .closeBlock) w := by
  cases h with
  | tooDeep hk => exact ⟨Nat.succ_pos d, .tooDeep hk⟩
  | other he hp => exact ⟨Nat.succ_pos d, .other he hp⟩

namespace Within

variable {d : Nat} {n : Nest} {w : Window}

theorem counted (h : Within d n w) : Counted d n w := by
  cases h with
  | inside => exact ⟨rfl, ite_self _⟩
  | first d w hk => exact ⟨rfl, if_neg hk⟩

theorem inner (h : Within d n w) : n.place.inner = n.depth := by
  cases h <;> rfl

theorem next (h : Within d n w) : n.place.next w.kind = .behind d w.kind := by
  cases h with
  | inside => rfl
  | first d w hk => exact if_neg hk

end Within

theorem Counted.refused {d : Nat} {n : Nest} {w : Window} (h : Counted d n w)
    (hd : d ≤ nestingLimit) {e : ParseError}
    (he : ∀ limit t, e ≠ .syntactic ⟨.nestedTooDeep limit, t⟩) : Refused d e n w := by
  obtain ⟨p, depth⟩ := n
  obtain ⟨rfl, ha⟩ := h
  exact .other he (ha ▸ hd)

open Recognizer

def Level (d : Nat) (r : Recognizer) : Prop :=
  monitor.Triple (Within d) r (Within d) (Refused d)

section

variable {d : Nat} (hd : d ≤ nestingLimit)

include hd

section

variable {P Q : Nest → Window → Prop} (hP : ∀ n w, P n w → Counted d n w)

include hP

theorem fail_triple {cause : SyntaxCause} (hc : ∀ limit, cause ≠ .nestedTooDeep limit) :
    monitor.Triple P (Recognizer.fail cause) Q (Refused d) := by
  refine .fail fun n w h => (hP n w h).refused hd fun limit t he => ?_
  cases he
  exact hc limit rfl

theorem shift_triple (hQ : ∀ n w v, P n w → Q ⟨n.place.next w.kind, d⟩ v) :
    monitor.Triple P Recognizer.shift Q (Refused d) := by
  refine .shift (fun n w v h _ => ?_) fun n w v e h hv => ?_
  · obtain ⟨hn, ha⟩ := hP n w h
    have hq := hQ n w v h
    rw [← hn] at ha hq
    exact ⟨ha, hq⟩
  · have hk : v.kind = w.kind := congrArg Token.kind (Window.current_of_shift_error hv)
    have hc := hP n w h
    exact Counted.refused ⟨hc.depth, hk ▸ hc.around⟩ hd nofun

theorem expect_triple {kind : Kind}
    (hQ : ∀ n w v, P n w → w.kind = kind → Q ⟨n.place.next kind, d⟩ v) :
    monitor.Triple P (Recognizer.expect kind) Q (Refused d) := by
  refine .expect (shift_triple hd (fun n w h => hP n w h.1) fun n w v h => ?_)
    (fail_triple hd (fun n w h => hP n w h.1) nofun)
  exact h.2 ▸ hQ n w v h.1 h.2

end

/-! Readings of one level. -/

namespace Level

omit hd in
theorem done : Level d Recognizer.done := Monitor.Triple.done fun _ _ => id

theorem fail {cause : SyntaxCause} (hc : ∀ limit, cause ≠ .nestedTooDeep limit) :
    Level d (Recognizer.fail cause) := fail_triple hd (fun _ _ => Within.counted) hc

omit hd in
theorem enter (rule : Rule) : Level d (Recognizer.enter rule) :=
  Monitor.Triple.enterWith fun _ _ h => ⟨h.inner, h⟩

omit hd in
theorem andThen {r s : Recognizer} (h : Level d r) (h' : Level d s) : Level d (r.andThen s) :=
  Monitor.Triple.andThen h h'

theorem shift : monitor.Triple (fun n w => Within d n w ∧ w.kind.isPlain = true) Recognizer.shift
    (Within d) (Refused d) := by
  refine shift_triple hd (fun _ _ h => h.1.counted) fun n w v h => ?_
  rw [h.1.next, Place.behind_plain h.2]
  exact .inside d v

theorem shift_known {k : Kind} (hk : k.isPlain = true) :
    monitor.Triple (fun n w => Within d n w ∧ w.kind = k) Recognizer.shift (Within d)
      (Refused d) :=
  (shift hd).before fun _ _ h => ⟨h.1, h.2 ▸ hk⟩

theorem accept {p : Kind → Bool} {cause : SyntaxCause} (hp : ∀ {k}, p k = true → k.isPlain = true)
    (hc : ∀ limit, cause ≠ .nestedTooDeep limit) : Level d (Recognizer.accept p cause) :=
  Monitor.Triple.accept ((shift hd).before fun _ _ h => ⟨h.1, hp h.2⟩)
    ((fail hd hc).before fun _ _ => And.left)

theorem expect {kind : Kind} (hk : kind.isPlain = true) : Level d (Recognizer.expect kind) := by
  refine accept hd (fun {k} h => ?_) nofun
  obtain rfl : k = kind := by simpa using h
  exact hk

theorem chain {p : Kind → Bool} {hp : p .eof = false} {r : Recognizer}
    (hk : ∀ {k}, p k = true → k.isPlain = true) (h : Level d r) :
    Level d (Recognizer.chain p hp r) :=
  Monitor.Triple.after (.chain ((shift hd).before fun _ _ h => ⟨h.1, hk h.2⟩) h)
    fun _ _ => And.left

theorem primary : Level d Recognizer.primary :=
  .andThen (Monitor.Triple.enterWith fun _ _ h => ⟨h.inner, h⟩)
    (accept hd (Kind.isPlain_of (by decide)) nofun)

theorem unary : Level d Recognizer.unary := by
  refine (enter _).andThen (.andThen (.choose fun k => ?_) ((primary hd).andThen done))
  split
  · exact shift_known hd (Kind.isPlain_of (p := Kind.isSign) (by decide) ‹_›)
  · exact done.before fun _ _ => And.left

theorem term : Level d Recognizer.term :=
  (enter _).andThen ((unary hd).andThen
    ((chain hd (Kind.isPlain_of (by decide)) (unary hd)).andThen done))

theorem expression : Level d Recognizer.expression :=
  (enter _).andThen ((term hd).andThen
    ((chain hd (Kind.isPlain_of (by decide)) (term hd)).andThen done))

theorem comparison : Level d Recognizer.comparison :=
  (enter _).andThen ((expression hd).andThen
    (.andThen (accept hd (Kind.isPlain_of (by decide)) nofun) ((expression hd).andThen
      ((chain hd (Kind.isPlain_of (by decide)) (expression hd)).andThen done))))

theorem blankLines : Level d Recognizer.blankLines :=
  chain hd (Kind.isPlain_of (p := (· == .newline)) (by decide)) done

theorem lineEnd : Level d Recognizer.lineEnd :=
  (enter _).andThen ((expect hd rfl).andThen ((blankLines hd).andThen done))

theorem printed : Level d Recognizer.printed := by
  refine .choose fun k => ?_
  split
  · exact shift_known hd (by subst k; rfl)
  · exact (expression hd).before fun _ _ => And.left

theorem keyword (rule : Rule) {k : Kind} (hk : k.isPlain = true) {Q : Nest → Window → Prop}
    {r : Recognizer} (h : monitor.Triple (Within d) r Q (Refused d)) :
    monitor.Triple (fun n w => Within d n w ∧ w.kind = k)
      ((Recognizer.enter rule).andThen (Recognizer.shift.andThen r)) Q (Refused d) :=
  .andThen (.enterWith fun _ _ h => ⟨h.1.inner, h⟩) (.andThen (shift_known hd hk) h)

end Level

/-! A header takes the place from its divider up to the first token of its block. -/

theorem divider_triple {divider : Kind} (hk : divider.isDivider = true) :
    monitor.Triple (Within d) (Recognizer.expect divider) (Divided d) (Refused d) := by
  refine expect_triple hd (fun _ _ => Within.counted) fun n w v h he => ?_
  rw [← he, h.next, he, Place.behind_divider hk]
  rfl

theorem blankLines_triple :
    monitor.Triple (Headed d) Recognizer.blankLines (Opening d) (Refused d) := by
  have hs : monitor.Triple (fun n w => Headed d n w ∧ (w.kind == .newline) = true)
      Recognizer.shift (Headed d) (Refused d) := by
    refine shift_triple hd ?_ ?_
    · rintro n w ⟨rfl, hk⟩
      exact ⟨rfl, if_pos (by simpa using hk)⟩
    · rintro n w v ⟨rfl, hk⟩
      have hn : w.kind = .newline := by simpa using hk
      rw [hn]
      rfl
  have hl : monitor.Triple (Headed d) Recognizer.blankLines
      (fun n w => Headed d n w ∧ (w.kind == .newline) = false) (Refused d) :=
    .chain hs (.done fun _ _ => id)
  exact hl.after fun n w h => ⟨h.1, by simpa using h.2⟩

theorem header_triple : monitor.Triple (Divided d) Recognizer.lineEnd (Opening d) (Refused d) := by
  refine .andThen (R := Divided d) (.enterWith ?_) (.andThen (R := Headed d)
    (expect_triple hd ?_ ?_) (.andThen (blankLines_triple hd) (.done fun _ _ => id)))
  · rintro n w rfl
    exact ⟨rfl, rfl⟩
  · rintro n w rfl
    exact ⟨rfl, ite_self _⟩
  · rintro n w v rfl -
    rfl

section

variable {block : Kind → Recognizer} (h : ∀ closer : Kind, closer.isCloser = true →
  monitor.Triple (Opening d) (block closer) (Within d) (Refused d))

include h

theorem compound (rule : Rule) {opener divider closer : Kind} (ho : opener.isPlain = true)
    (hdiv : divider.isDivider = true) (hc : closer.isCloser = true) :
    monitor.Triple (fun n w => Within d n w ∧ w.kind = opener)
      (sequence [.enter rule, .shift, .comparison, .expect divider, .lineEnd, block closer])
      (Within d) (Refused d) :=
  Level.keyword hd rule ho (.andThen (Level.comparison hd) (.andThen (divider_triple hd hdiv)
    (.andThen (header_triple hd) (.andThen (h closer hc) Level.done))))

theorem clause (k : Kind) : monitor.Triple (fun n w => Within d n w ∧ w.kind = k)
    (Recognizer.clause block k) (Within d) (Refused d) := by
  have naming : Level d (sequence [.expect .identifier]) :=
    (Level.expect hd rfl).andThen Level.done
  have refused : Level d (Recognizer.fail .noStatement) := Level.fail hd nofun
  cases k with
  | print => exact Level.keyword hd _ rfl ((Level.printed hd).andThen Level.done)
  | «if» => exact compound hd h _ rfl rfl rfl
  | «while» => exact compound hd h _ rfl rfl rfl
  | label | goto | input => exact Level.keyword hd _ rfl naming
  | «let» =>
    exact Level.keyword hd _ rfl ((Level.expect hd rfl).andThen
      ((Level.expect hd rfl).andThen ((Level.expression hd).andThen Level.done)))
  | _ => exact refused.before fun _ _ => And.left

theorem statementWith : Level d (Recognizer.statementWith block) :=
  .andThen (.choose (clause hd h)) (Level.lineEnd hd)

end

end

/-- A block with so many levels free is opened where the others are taken, and is refused where
none is free. -/
theorem block (levels : Nat) : ∀ {d : Nat}, d + levels = nestingLimit → ∀ closer : Kind,
    closer.isCloser = true →
      monitor.Triple (Opening d) (Recognizer.block levels closer) (Within d) (Refused d) := by
  -- The free levels and the open blocks make up the limit all the way down.
  induction levels with
  | zero =>
    rintro d rfl closer -
    refine .fail ?_
    rintro n w ⟨rfl, hk⟩
    exact .tooDeep hk
  | succ levels ih =>
    intro d hd closer hc
    have hlt : d < nestingLimit := by omega
    have hs : Level (d + 1) (Recognizer.statementWith (Recognizer.block levels)) :=
      statementWith hlt (ih (by omega))
    have hclose : monitor.Triple (fun n w => Within (d + 1) n w ∧ w.kind = closer)
        (Recognizer.expect closer) (fun n _ => n = ⟨.inside d, d + 1⟩) (Refused (d + 1)) := by
      refine expect_triple hlt (fun _ _ h => h.1.counted) fun n w v h he => ?_
      rw [← he, h.1.next, he, Place.behind_closer hc]
    have hbody : monitor.Triple (Within (d + 1)) (Recognizer.andThen
        (Recognizer.upTo closer _ (statementWith_consumes _)) (Recognizer.expect closer))
        (fun n _ => n = ⟨.inside d, d + 1⟩) (Refused (d + 1)) :=
      .andThen (.upTo (hs.before fun _ _ => And.left)) hclose
    refine .bracket ?_ hbody ?_ fun _ _ _ => Refused.close
    · rintro n w ⟨rfl, hk⟩
      exact ⟨⟨rfl, hlt⟩, .first d w hk⟩
    · rintro n w rfl
      exact ⟨Nat.succ_pos d, .inside d w⟩

theorem statement : Level 0 Recognizer.statement :=
  statementWith (Nat.zero_le _) (block nestingLimit (Nat.zero_add _))

theorem program : Level 0 Recognizer.program := by
  have hu : Level 0 (Recognizer.upTo .eof Recognizer.statement (statementWith_consumes _)) :=
    Monitor.Triple.after (.upTo (statement.before fun _ _ => And.left)) fun _ _ => And.left
  exact (Level.enter _).andThen ((Level.blankLines (Nat.zero_le _)).andThen
    (hu.andThen Level.done))

end Nest

end TeenyFront
