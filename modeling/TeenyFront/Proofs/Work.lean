import TeenyFront.Proofs.Rounds
import TeenyFront.Proofs.Sentences

/-!
# The work of a rule

A rule takes no more tokens than its window has to read, and for each token it records five events
at the most. No more than six are recorded ahead of a token, which an error may leave unpaid. An
operand is what costs most: the five rules from a comparison down to it are entered for one token.
-/

set_option autoImplicit false

namespace TeenyFront

open DerivationTree

/-- The tokens taken and the events recorded so far, counted. -/
structure Tally where
  taken : Nat
  recorded : Nat

namespace Tally

def next (t : Tally) : Move → Tally
  | .shift _ => ⟨t.taken + 1, t.recorded⟩
  | .enter _ => ⟨t.taken, t.recorded + 1⟩
  | .openBlock | .closeBlock => t

def monitor : Monitor Tally := ⟨next, fun _ _ => True⟩

theorem after_eq (t : Tally) (ms : List Move) : monitor.after t ms =
    ⟨t.taken + (ms.filterMap Move.token?).length,
      t.recorded + (ms.filterMap Move.event?).length⟩ := by
  induction ms generalizing t with
  | nil => rfl
  | cons m ms ih =>
    show monitor.after (t.next m) ms = _
    rw [ih]
    cases m <;> simp [next, List.filterMap_cons, Move.token?, Move.event?] <;> omega

/-- Each token that was taken pays for five events, and no more than `a` are left to pay. -/
def Ahead (a : Nat) (t : Tally) (_ : Window) : Prop := t.recorded ≤ 5 * t.taken + a

theorem Ahead.mono {a b : Nat} {t : Tally} {w : Window} (h : t.Ahead a w) (hab : a ≤ b) :
    t.Ahead b w := by
  unfold Ahead at h ⊢
  omega

end Tally

/-- A reading that finds up to `a` events to pay and leaves up to `b`, or six if it fails. -/
def Recognizer.Records (a : Nat) (r : Recognizer) (b : Nat) : Prop :=
  Tally.monitor.Triple (fun t w => t.Ahead a w) r (fun t w => t.Ahead b w)
    fun _ t w => t.Ahead 6 w

namespace Recognizer.Records

variable {a b c : Nat} {r s : Recognizer}

theorem done (h : a ≤ b) : Records a Recognizer.done b :=
  Monitor.Triple.done fun _ _ ht => ht.mono h

theorem fail (cause : SyntaxCause) (h : a ≤ 6) : Records a (Recognizer.fail cause) b :=
  Monitor.Triple.fail fun _ _ ht => ht.mono h

theorem enterWith (event : Token → Event) : Records a (Recognizer.enterWith event) (a + 1) :=
  Monitor.Triple.enterWith fun _ _ ht => ⟨trivial, Nat.succ_le_succ ht⟩

theorem shift (h : a ≤ b + 5) (h6 : a ≤ 6) : Records a Recognizer.shift b := by
  apply Monitor.Triple.shift
  · intro t w v ht _
    refine ⟨trivial, ?_⟩
    show t.recorded ≤ 5 * (t.taken + 1) + b
    unfold Tally.Ahead at ht
    omega
  · intro t w v e ht _
    exact ht.mono h6

theorem choose {f : Kind → Recognizer} (h : ∀ k, Records a (f k) b) :
    Records a (Recognizer.choose f) b :=
  Monitor.Triple.choose fun k => Monitor.Triple.before (h k) fun _ _ => And.left

theorem andThen (h : Records a r c) (h' : Records c s b) : Records a (r.andThen s) b :=
  Monitor.Triple.andThen h h'

theorem accept {p : Kind → Bool} {cause : SyntaxCause} (h : a ≤ b + 5) (h6 : a ≤ 6) :
    Records a (Recognizer.accept p cause) b :=
  Monitor.Triple.accept (Monitor.Triple.before (shift h h6) fun _ _ => And.left)
    (Monitor.Triple.before (fail cause h6) fun _ _ => And.left)

theorem bracket (h : Records a r b) : Records a r.bracket b :=
  Monitor.Triple.bracket (fun _ _ ht => ⟨trivial, ht⟩) h (fun _ _ ht => ⟨trivial, ht⟩)
    fun _ _ _ ht => ⟨trivial, ht⟩

theorem chain {p : Kind → Bool} {hp : p .eof = false} (h : Records c r 1) :
    Records 1 (Recognizer.chain p hp r) 1 :=
  Monitor.Triple.after (.chain
    (Monitor.Triple.before (shift (b := c) (by omega) (by omega)) fun _ _ => And.left) h)
    fun _ _ => And.left

theorem upTo {closer : Kind} {hr : r.Consumes} (h : Records a r a) :
    Records a (Recognizer.upTo closer r hr) a :=
  Monitor.Triple.after (.upTo (Monitor.Triple.before h fun _ _ => And.left)) fun _ _ => And.left

theorem primary : Records 5 Recognizer.primary 1 :=
  (enterWith _).andThen (accept (Nat.le_refl 6) (Nat.le_refl 6))

theorem unary : Records 4 Recognizer.unary 1 := by
  apply (enterWith _).andThen
  apply andThen (c := 5)
  · apply choose
    intro k
    split
    · exact shift (by decide) (by decide)
    · exact done (by decide)
  · exact primary.andThen (done (by decide))

theorem term : Records 3 Recognizer.term 1 :=
  (enterWith _).andThen (unary.andThen ((chain unary).andThen (done (by decide))))

theorem expression : Records 2 Recognizer.expression 1 :=
  (enterWith _).andThen (term.andThen ((chain term).andThen (done (by decide))))

theorem comparison : Records 1 Recognizer.comparison 1 :=
  (enterWith _).andThen (expression.andThen ((accept (by decide) (by decide)).andThen
    (expression.andThen ((chain expression).andThen (done (by decide))))))

theorem lineEnd : Records 1 Recognizer.lineEnd 1 := by
  have hb : Records 1 Recognizer.blankLines 1 := chain (done (Nat.le_refl 1))
  exact (enterWith _).andThen ((accept (by decide) (by decide)).andThen
    (hb.andThen (done (by decide))))

theorem printed : Records 2 Recognizer.printed 1 := by
  apply choose
  intro k
  split
  · exact shift (by decide) (by decide)
  · exact expression

section

variable {block : Kind → Recognizer} (h : ∀ closer, Records 1 (block closer) 1)

include h

theorem compound (rule : Rule) (divider closer : Kind) : Records 1 (sequence
    [.enter rule, .shift, .comparison, .expect divider, .lineEnd, block closer]) 1 :=
  (enterWith _).andThen ((shift (by decide) (by decide)).andThen (comparison.andThen
    ((accept (by decide) (by decide)).andThen (lineEnd.andThen
      ((h closer).andThen (done (by decide)))))))

theorem clause (k : Kind) : Records 1 (Recognizer.clause block k) 1 := by
  have naming (rule : Rule) :
      Records 1 (sequence [.enter rule, .shift, .expect .identifier]) 1 :=
    (enterWith _).andThen ((shift (b := 2) (by decide) (by decide)).andThen
      ((accept (by decide) (by decide)).andThen (done (Nat.le_refl 1))))
  cases k with
  | print =>
    exact (enterWith _).andThen ((shift (by decide) (by decide)).andThen
      (printed.andThen (done (by decide))))
  | «if» | «while» => exact compound h _ _ _
  | label | goto | input => exact naming _
  | «let» =>
    exact (enterWith _).andThen ((shift (b := 2) (by decide) (by decide)).andThen
      ((accept (b := 2) (by decide) (by decide)).andThen ((accept (by decide) (by decide)).andThen
        (expression.andThen (done (by decide))))))
  | _ => exact fail _ (by decide)

theorem statementWith : Records 1 (Recognizer.statementWith block) 1 :=
  (choose (clause h)).andThen lineEnd

end

theorem block (levels : Nat) (closer : Kind) : Records 1 (Recognizer.block levels closer) 1 := by
  induction levels generalizing closer with
  | zero => exact fail _ (by decide)
  | succ levels ih =>
    exact bracket ((upTo (statementWith ih)).andThen (accept (by decide) (by decide)))

theorem statement : Records 1 Recognizer.statement 1 := statementWith (block nestingLimit)

theorem program : Records 0 Recognizer.program 1 := by
  have hb : Records 1 Recognizer.blankLines 1 := chain (done (Nat.le_refl 1))
  exact (enterWith _).andThen (hb.andThen ((upTo statement).andThen (done (by decide))))

end Recognizer.Records

def Window.Within (n : Nat) (us : List Token) (w : Window) : Prop := us.length + w.unread ≤ n

theorem Window.shift_within (n : Nat) :
    Monitor.taking.Triple (fun us w => Within n us w ∧ w.kind ≠ .eof) Recognizer.shift
      (Within n) fun _ => Within n := by
  apply Monitor.Triple.shift
  · rintro us w v ⟨hw, hk⟩ hs
    have hlt := shift_unread_lt hk hs
    refine ⟨trivial, ?_⟩
    unfold Within at hw ⊢
    simp only [Monitor.collect, Move.token?, Option.toList_some, List.length_append,
      List.length_singleton]
    omega
  · rintro us w v e ⟨hw, -⟩ hs
    have hle := w.shift_unread_le
    rw [hs] at hle
    exact Nat.le_trans (Nat.add_le_add_left hle _) hw

theorem Phrase.taken_unread_le (φ : Phrase) (w : Window) :
    (φ.recognizer.read w).window.Within w.unread (φ.recognizer.read w).taken := by
  have hnil : w.Within w.unread [] := Nat.le_of_eq (Nat.zero_add _)
  exact (φ.upholds (Window.shift_within w.unread) fun _ _ _ => id).kept hnil

namespace Recognizer

variable {block : Kind → Recognizer}

theorem clause_stray {k : Kind} (hk : k.beginsStatement = false) :
    clause block k = fail .noStatement := by
  cases k <;> first | rfl | cases hk

/-- The statements of a block end with an error at a token that neither begins one nor closes the
block. -/
theorem upTo_stray {closer : Kind} {w : Window} (hc : w.kind ≠ closer)
    (hk : w.kind.beginsStatement = false) :
    (upTo closer (statementWith block) (statementWith_consumes block)).read w =
      ⟨.error (.syntactic ⟨.noStatement, w.current⟩), w, []⟩ := by
  have hs : (statementWith block).read w =
      ⟨.error (.syntactic ⟨.noStatement, w.current⟩), w, []⟩ := by
    rw [statementWith, read_andThen, read_choose, clause_stray hk]
    rfl
  have hp : (w.kind != closer) = true := bne_iff_ne.2 hc
  rw [upTo, read_loop_go (· != closer) _ _ hp, hs]
  rfl

end Recognizer

namespace Nonterminal

theorem steady (levels : Nat) (r : Nonterminal) : (r.phrase levels).Steady := by
  cases r with
  | program => exact Phrase.steady_program levels
  | statement => exact Phrase.steady_statementWith (Phrase.steady_block levels)
  | lineEnd => exact Phrase.steady_lineEnd
  | comparison => exact Phrase.steady_comparison
  | expression => exact Phrase.steady_expression
  | term => exact Phrase.steady_term
  | unary => exact Phrase.steady_unary
  | primary => exact ⟨trivial, trivial⟩

open Recognizer in
theorem records (r : Nonterminal) : Records 0 r.operation.recognizer 1 := by
  have hpaid {a : Nat} {s : Recognizer} (h : Records a s 1) : Records 0 s 1 :=
    Monitor.Triple.before h fun _ _ ht => ht.mono (Nat.zero_le a)
  cases r with
  | program => exact Records.program
  | statement => exact hpaid Records.statement
  | lineEnd => exact hpaid Records.lineEnd
  | comparison => exact hpaid Records.comparison
  | expression => exact hpaid Records.expression
  | term => exact hpaid Records.term
  | unary => exact hpaid Records.unary
  | primary => exact hpaid Records.primary

variable (r : Nonterminal) (w : Window)

theorem readWithin_eq {rounds : Nat} (hr : w.cursor.rest.length + 2 < rounds) :
    (r.phrase nestingLimit).readWithin rounds w = some (r.operation.recognizer.read w) := by
  have hw : w.unread < rounds := Nat.lt_of_le_of_lt w.unread_le hr
  rw [Phrase.readWithin_eq (r.steady nestingLimit) hw, recognizer_phrase]

theorem taken_length_le :
    (r.operation.recognizer.read w).taken.length ≤ w.cursor.rest.length + 2 := by
  have hle := (r.phrase nestingLimit).taken_unread_le w
  have hw := w.unread_le
  rw [recognizer_phrase, Window.Within] at hle
  omega

theorem events_length_le : (r.operation.recognizer.read w).events.length ≤
    5 * ((r.operation.recognizer.read w).taken.length + 1) + 1 := by
  have hf := r.records ⟨0, 0⟩ w (Nat.zero_le _)
  have hpaid : (Tally.monitor.after ⟨0, 0⟩ (r.operation.recognizer.read w).moves).Ahead 6
      (r.operation.recognizer.read w).window := by
    cases hr : (r.operation.recognizer.read w).result with
    | ok _ => exact (hf.ok hr).mono (by decide)
    | error e => exact hf.error e hr
  rw [Tally.after_eq, Tally.Ahead] at hpaid
  show ((r.operation.recognizer.read w).moves.filterMap Move.event?).length ≤
    5 * (((r.operation.recognizer.read w).moves.filterMap Move.token?).length + 1) + 1
  dsimp only at hpaid
  omega

theorem error_of_deep {w v : Window} (hw : w.Settled) {a : r.Derivation}
    (hd : nestingLimit < depth a) (hb : w.Before (tokens a) v) (hv : r.continues v.kind = false) :
    ∃ e, (r.operation.recognizer.read w).result = .error e := by
  have hp := (r.reads (depth a)).proper hv (Nat.le_refl _)
  obtain ⟨ts, hts, hshows⟩ := hb.shows hw.shows hp
  obtain ⟨us, rfl⟩ := hshows.head
  have hk := (r.reads nestingLimit).deep a _ ⟨_, us, rfl, hv⟩ hd
  have ht := (r.phrase nestingLimit).tracks hw.shows
  rw [hts, recognizer_phrase] at ht
  cases ht with
  | through _ ho =>
    rw [hk] at ho
    cases ho
  | blocked e _ _ hr | stuck _ e _ hr => exact ⟨_, hr⟩

end Nonterminal

/-- After every script a rule ends, for none of its loops needs three rounds more than there are
characters left. It takes at most two tokens more than these. For each token, and for one that it
may stop at, it records at most five events, next to the one of a program. The statements of a block
end with an error at a token that neither begins one nor closes the block, such as the end of input
or the closer of another block. A sentence that nests too deep is an error. -/
theorem rule_work {σ : Type} [Collector σ] {c : Cursor} {trace : σ} {p : Parser σ}
    (h : Parser.ofCursor c trace = .ok p) (os : List Operation) (r : Nonterminal) :
    (∀ rounds, (p.script os).window.cursor.rest.length + 2 < rounds →
      (r.phrase nestingLimit).readWithin rounds (p.script os).window =
        some (r.operation.recognizer.read (p.script os).window)) ∧
    ((r.operation.moves (p.script os)).filterMap Move.token?).length ≤
      (p.script os).window.cursor.rest.length + 2 ∧
    ((r.operation.moves (p.script os)).filterMap Move.event?).length ≤
      5 * (((r.operation.moves (p.script os)).filterMap Move.token?).length + 1) + 1 ∧
    (∀ (block : Kind → Recognizer) (closer : Kind) (w : Window), w.kind ≠ closer →
      w.kind.beginsStatement = false →
      (Recognizer.upTo closer (.statementWith block)
        (Recognizer.statementWith_consumes block)).read w =
          ⟨.error (.syntactic ⟨.noStatement, w.current⟩), w, []⟩) ∧
    ∀ (a : r.Derivation) v, nestingLimit < depth a → (p.script os).window.Before (tokens a) v →
      r.continues v.kind = false →
      ∃ e, ((p.script os).run r.operation.recognizer).1 = .error e := by
  have hw := Parser.settled_script h os
  refine ⟨fun rounds hr => ?_, r.taken_length_le _, r.events_length_le _,
    fun block closer w hc hk => ?_, fun a v hd hb hv => ?_⟩
  · exact r.readWithin_eq _ hr
  · exact Recognizer.upTo_stray hc hk
  · exact r.error_of_deep hw hd hb hv

/-- The closer of another block ends the statements of the loop. -/
theorem rule_work_mismatched : ∃ p : Parser Unit,
    Parser.ofCursor (.ofSource "WHILE a > 1 REPEAT\nENDIF\n") () = .ok p ∧
      (Phrase.statement nestingLimit).readWithin 21 p.window =
        some (Recognizer.statement.read p.window) ∧
      ((Operation.statement.moves p).filterMap Move.token?).length ≤ 20 ∧
      (Recognizer.upTo .endWhile (.statementWith (.block 255))
        (Recognizer.statementWith_consumes _)).read
          ⟨⟨.endIf, "ENDIF", ⟨2, 1⟩⟩, ⟨.newline, "\n", ⟨2, 6⟩⟩, ⟨[], ⟨3, 1⟩⟩⟩ =
        ⟨.error (.syntactic ⟨.noStatement, ⟨.endIf, "ENDIF", ⟨2, 1⟩⟩⟩),
          ⟨⟨.endIf, "ENDIF", ⟨2, 1⟩⟩, ⟨.newline, "\n", ⟨2, 6⟩⟩, ⟨[], ⟨3, 1⟩⟩⟩, []⟩ := by
  let p : Parser Unit := ⟨⟨⟨.while, "WHILE", ⟨1, 1⟩⟩, ⟨.identifier, "a", ⟨1, 7⟩⟩,
    ⟨" > 1 REPEAT\nENDIF\n".toList, ⟨1, 8⟩⟩⟩, ()⟩
  have hw : Window.ofCursor (.ofSource "WHILE a > 1 REPEAT\nENDIF\n") = .ok p.window := by
    decide +kernel
  have h : Parser.ofCursor (.ofSource "WHILE a > 1 REPEAT\nENDIF\n") () = .ok p :=
    Parser.ofCursor_ok hw ()
  obtain ⟨hrounds, htaken, -, hstray, -⟩ := rule_work h [] .statement
  exact ⟨p, h, hrounds 21 (by decide), htaken, hstray _ _ _ (by decide) rfl⟩

end TeenyFront
