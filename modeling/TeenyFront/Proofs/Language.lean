import TeenyFront.Proofs.Reads

/-!
# The language that is read

Each rule of the grammar reads its own derivations, from expressions up to programs. Next to a rule
stand the kinds that begin it; the kinds that would go on with it are those of its last chain.
-/

set_option autoImplicit false

namespace TeenyFront

open DerivationTree Phrase Walk

instance (kind : Kind) : Nonempty (Exactly kind) :=
  ⟨⟨⟨kind, kind.name, .start⟩, beq_self_eq_true kind⟩⟩

instance : Nonempty Sign := ⟨⟨⟨.plus, "+", .start⟩, rfl⟩⟩

instance : Nonempty FactorOperator := ⟨⟨⟨.asterisk, "*", .start⟩, rfl⟩⟩

instance : Nonempty ComparisonOperator := ⟨⟨⟨.equal, "==", .start⟩, rfl⟩⟩

namespace Kind

def beginsExpression (k : Kind) : Bool := k.isSign || k.isOperand

def continuesExpression (k : Kind) : Bool := k.isSign || k.isFactorOperator

def continuesComparison (k : Kind) : Bool := k.isComparison || k.continuesExpression

def isNewline (k : Kind) : Bool := k == newline

def beginsStatement (k : Kind) : Bool :=
  [print, «if», «while», label, goto, «let», input].contains k

end Kind

namespace Reads

variable {n : Nat}

theorem expect {ext : Kind → Bool} (kind : Kind) [kind.Proper] :
    Reads n (Phrase.expect kind).walk (Exactly kind) ext := leaf _ _

theorem opens_primary : Opens Kind.isOperand Primary := fun a ts =>
  ⟨a.operand.token, ts, rfl, a.operand.holds⟩

theorem walk_primary (t : Token) (ts : List Token) :
    Phrase.primary.walk (t :: ts) = (Walk.accept Kind.isOperand .noOperand (t :: ts)).after
      [.enter ⟨.primary, some t.text⟩] := rfl

theorem primary : Reads n Phrase.primary.walk Primary noKind where
  nonempty := ⟨⟨⟨.number, "0", .start⟩, rfl⟩⟩
  sound ts ho := by
    cases ts with
    | nil => cases ho
    | cons t ts =>
      rw [walk_primary] at ho ⊢
      cases ht : t.kind.isOperand with
      | false =>
        rw [accept_neg ht] at ho
        cases ho
      | true =>
        rw [accept_pos ht]
        exact ⟨⟨⟨t, ht⟩⟩, Nat.zero_le n, rfl, rfl⟩
  complete := by
    rintro ⟨t, ht⟩ ts _ _
    show (Phrase.primary.walk (t :: ts)).outcome = _ ∧ (Phrase.primary.walk (t :: ts)).rest = _
    rw [walk_primary, accept_pos ht]
    exact ⟨rfl, rfl⟩
  deep _ _ _ hd := absurd hd (Nat.not_lt_zero n)
  viable ts cause ho _ := by
    refine ⟨⟨⟨.number, "0", .start⟩, rfl⟩, ?_⟩
    cases ts with
    | nil => cases ho
    | cons t ts =>
      rw [walk_primary] at ho ⊢
      cases ht : t.kind.isOperand with
      | false =>
        rw [accept_neg ht]
        exact List.nil_prefix
      | true =>
        rw [accept_pos ht] at ho
        cases ho
  unique a b ts us he _ _ _ _ :=
    congrArg Primary.mk (Leaf.ext (List.cons.inj he).1)

theorem sign : Reads n Phrase.sign.walk (Option Sign) Kind.isSign := by
  have h : Reads n Phrase.sign.walk (Sign ⊕ Unit) Kind.isSign :=
    either (leaf rfl _) (always done) (opens_leaf _) fun _ _ hs => hs
  refine h.map (Sum.elim some fun _ => none) (fun s => ?_) ?_ ?_ ?_
  · cases s with
    | none => exact ⟨.inr (), rfl⟩
    | some s => exact ⟨.inl s, rfl⟩
  all_goals rintro (s | s) <;> rfl

theorem opens_unary : Opens Kind.beginsExpression Unary := by
  rintro ⟨s, a⟩ ts
  cases s with
  | none => exact opens_primary.mono (fun k hk => Bool.or_eq_true_iff.2 (.inr hk)) a ts
  | some s => exact (opens_leaf _).mono (fun k hk => Bool.or_eq_true_iff.2 (.inl hk)) s _

theorem unary : Reads n Phrase.unary.walk Unary noKind :=
  node (andThen sign (last primary) fun a ts _ =>
    (opens_primary a ts).stops fun k => by cases k <;> decide)

theorem term : Reads n Phrase.term.walk Term Kind.isFactorOperator := by
  have hc : Reads n (Phrase.chain Kind.isFactorOperator rfl Phrase.unary).walk
      (List (FactorOperator × Unary)) Kind.isFactorOperator :=
    (chain rfl unary fun _ _ => rfl).mono fun k => by cases k <;> decide
  exact node (andThen unary (last hc) fun b ts hs => hs.append (tokens b))

theorem expression : Reads n Phrase.expression.walk Expression Kind.continuesExpression := by
  have hc : Reads n (Phrase.chain Kind.isSign rfl Phrase.term).walk (List (Sign × Term))
      Kind.continuesExpression :=
    chain rfl term fun k => by cases k <;> decide
  exact node (andThen term (last hc) ((opens_leaf Kind.isSign).prod.stops_items
    (fun k => by cases k <;> decide) fun k => by cases k <;> decide))

theorem opens_expression : Opens Kind.beginsExpression Expression :=
  opens_unary.prod.node.prod.node

theorem comparison : Reads n Phrase.comparison.walk Comparison Kind.continuesComparison := by
  have hc : Reads n (Phrase.chain Kind.isComparison rfl Phrase.expression).walk
      (List (ComparisonOperator × Expression)) Kind.continuesComparison :=
    chain rfl expression fun k => by cases k <;> decide
  have hr := andThen expression (last hc) ((opens_leaf Kind.isComparison).prod.stops_items
    (fun k => by cases k <;> decide) fun k => by cases k <;> decide)
  have hl : Reads n (accept Kind.isComparison rfl .noComparison).walk ComparisonOperator noKind :=
    leaf _ _
  have ho := andThen hl hr fun b ts hs => hs.append (tokens b)
  exact node (andThen expression ho fun b ts _ =>
    ((opens_leaf Kind.isComparison).prod b ts).stops fun k => by cases k <;> decide)

theorem blankLines : Reads n Phrase.blankLines.walk (List Newline) Kind.isNewline := by
  have hd : Reads n Phrase.done.walk Unit noKind := done
  have hc : Reads n Phrase.blankLines.walk (List (Newline × Unit)) Kind.isNewline :=
    (chain rfl hd fun _ _ => rfl).mono fun k => by cases k <;> decide
  have hs (ts : List Newline) : ∃ us : List (Newline × Unit), us.map Prod.fst = ts :=
    ⟨ts.map fun t => (t, ()), by rw [List.map_map]; exact List.map_id ts⟩
  exact hc.map (List.map Prod.fst) hs tokens_map_fst events_map_fst depth_map_fst

theorem lineEnd : Reads n Phrase.lineEnd.walk LineEnd Kind.isNewline :=
  node (andThen (expect .newline) (last blankLines) fun ts _ hs => hs.append (tokens ts))

theorem printed : Reads n Phrase.printed.walk (Exactly .string ⊕ Expression)
    Kind.continuesExpression :=
  either (expect .string) (always expression) (opens_leaf _) fun b ts _ =>
    (opens_expression b ts).stops fun k => by cases k <;> decide

theorem print : Reads n (sequence [enter .printStatement, Phrase.expect .print,
    Phrase.printed]).walk Print Kind.continuesExpression :=
  node (andThen (expect .print) (last printed) fun b _ hs => hs.append (tokens b))

theorem naming (form : NamingForm) : Reads n (Phrase.naming form).walk (Naming form) noKind := by
  have hi : Reads n (Phrase.expect .identifier).walk (Exactly .identifier) noKind :=
    expect _
  exact node (andThen (expect _) (last hi) fun b _ hs => hs.append (tokens b))

theorem assignment : Reads n (sequence [enter .letStatement, Phrase.expect .let,
    Phrase.expect .identifier, Phrase.expect .assign, Phrase.expression]).walk
    Assignment Kind.continuesExpression := by
  have ha := andThen (expect .assign) (last (expression (n := n)))
    fun b ts hs => hs.append (tokens b)
  have hi := andThen (expect .identifier) ha fun b _ hs => hs.append (tokens b)
  exact node (andThen (expect .let) hi fun b ts hs => hs.append (tokens b))

theorem opens_print : Opens (· == .print) Print := (opens_leaf _).prod.node

theorem opens_naming (form : NamingForm) : Opens (· == form.keyword) (Naming form) :=
  (opens_leaf _).prod.node

theorem opens_assignment : Opens (· == .let) Assignment := (opens_leaf _).prod.node

theorem opens_compound (form : BlockForm) : Opens (· == form.opener) (Compound form) :=
  (opens_leaf _).prod.node

theorem opens_statement : Opens Kind.beginsStatement Statement :=
  ((opens_compound .if).sum <| (opens_compound .while).sum <| opens_print.sum <|
    (opens_naming .label).sum <| (opens_naming .goto).sum <| opens_assignment.sum <|
    opens_naming .input).prod.mono fun k => by cases k <;> decide

theorem stops_block {ext ext' : Kind → Bool}
    (hf : ∀ k, k.beginsStatement = true → ext k = false)
    (hx : ∀ k, ext' k = false → ext k = false) (b : Block) {ts : List Token}
    (ht : Stops ext' ts) : Stops ext (tokens b ++ ts) := by
  obtain ⟨ss, rfl⟩ := exists_ofStatements b
  rw [tokens_ofStatements]
  exact opens_statement.stops_items hf hx ss ht

section

variable {block : BlockForm → Phrase}
  (hblock : ∀ form, Reads n (block form).walk (Body form) noKind)

include hblock

theorem compound (form : BlockForm) :
    Reads n (Phrase.compound block form).walk (Compound form) noKind := by
  have hl := andThen lineEnd (last (hblock form)) fun body ts hs => by
    have hc : Stops Kind.isNewline (body.closer.token :: ts) :=
      ⟨_, _, rfl, by rw [beq_iff_eq.1 body.closer.holds]; cases form <;> rfl⟩
    show Stops Kind.isNewline ((tokens body.block ++ [body.closer.token]) ++ ts)
    rw [List.append_assoc]
    exact stops_block (fun k => by cases k <;> decide) (fun _ hk => hk) body.block hc
  have hd := andThen (expect form.divider) hl
    fun b _ hs => hs.append (tokens b)
  have hc := andThen comparison hd fun b ts _ => ((opens_leaf _).prod b ts).stops fun k he => by
    rw [beq_iff_eq.1 he]
    cases form <;> rfl
  exact node (andThen (expect _) hc fun b _ hs => hs.append (tokens b))

theorem clause : Reads n (choose (Phrase.clause block)).walk Clause Kind.continuesExpression := by
  have apart {β : Type} [DerivationTree β] {p first : Kind → Bool} (h : Opens first β)
      (hk : ∀ k, first k = true → p k = false) (b : β) (ts : List Token)
      (_ : Stops Kind.continuesExpression ts) : Stops p (tokens b ++ ts) := h.stops hk b ts
  have oi := opens_naming .input
  have ol := opens_assignment.sum oi
  have og := (opens_naming .goto).sum ol
  have ob := (opens_naming .label).sum og
  have op := opens_print.sum ob
  have ow := (opens_compound .while).sum op
  have hn : Reads n (Phrase.naming .input).walk (Naming .input) Kind.continuesExpression :=
    (naming .input).closed
  have hi := only hn oi .noStatement
  have hl := either assignment hi opens_assignment (apart oi fun k => by cases k <;> decide)
  have hg := either (naming .goto).closed hl (opens_naming .goto)
    (apart ol fun k => by cases k <;> decide)
  have ha := either (naming .label).closed hg (opens_naming .label)
    (apart og fun k => by cases k <;> decide)
  have hp := either print ha opens_print (apart ob fun k => by cases k <;> decide)
  have hw := either (compound hblock .while).closed hp (opens_compound .while)
    (apart op fun k => by cases k <;> decide)
  have hf := either (compound hblock .if).closed hw (opens_compound .if)
    (apart ow fun k => by cases k <;> decide)
  exact hf.choose_congr fun k => by cases k <;> rfl

theorem statementWith :
    Reads n (Phrase.statementWith block).walk Statement Kind.isNewline :=
  andThen (clause hblock) lineEnd fun l ts _ =>
    ((opens_leaf _).prod.node l ts).stops fun _ he => beq_iff_eq.1 he ▸ rfl

theorem statements (closer : Kind) (hc : closer.beginsStatement = false)
    (hn : closer.isNewline = false) :
    Reads n (Phrase.upTo closer (Phrase.statementWith block)).walk Block (· != closer) :=
  (upTo (statementWith hblock) rfl opens_statement (fun k => by cases k <;> decide) hc hn).map
    Block.ofStatements exists_ofStatements tokens_ofStatements events_ofStatements
    depth_ofStatements

end

/-- A block opens a level for what is in it. -/
theorem body {φ : Phrase} {form : BlockForm}
    (h : Reads n φ.walk (Block × Exactly form.closer) noKind) :
    Reads (n + 1) (bracket φ).walk (Body form) noKind where
  nonempty := h.nonempty.elim fun b => ⟨⟨b.1, b.2⟩⟩
  sound ts ho := by
    obtain ⟨b, hd, ht, hv⟩ := h.sound ts ho
    refine ⟨⟨b.1, b.2⟩, Nat.succ_le_succ ((Nat.max_le.1 hd).1), ?_, ?_⟩
    · rw [bracket_taken, ht]
      rfl
    · rw [bracket_events, hv]
      exact List.append_nil _
  complete b ts hs hd :=
    h.complete (b.block, b.closer) ts hs (Nat.max_le.2 ⟨Nat.le_of_succ_le_succ hd, Nat.zero_le n⟩)
  deep b ts hs hd :=
    h.deep (b.block, b.closer) ts hs
      (Nat.lt_of_lt_of_le (Nat.lt_of_succ_lt_succ hd) (Nat.le_max_left _ _))
  viable ts cause ho hc := by
    obtain ⟨b, hb⟩ := h.viable ts cause ho hc
    refine ⟨⟨b.1, b.2⟩, ?_⟩
    rw [bracket_taken]
    exact hb
  unique b b' ts us he hs hs' hd hd' := by
    have hu := h.unique (b.block, b.closer) (b'.block, b'.closer) ts us he hs hs'
      (Nat.max_le.2 ⟨Nat.le_of_succ_le_succ hd, Nat.zero_le n⟩)
      (Nat.max_le.2 ⟨Nat.le_of_succ_le_succ hd', Nat.zero_le n⟩)
    obtain ⟨block, closer⟩ := b
    obtain ⟨block', closer'⟩ := b'
    obtain ⟨rfl, rfl⟩ := Prod.mk.inj hu
    rfl

theorem refused (form : BlockForm) : Reads 0 (fail tooDeep).walk (Body form) noKind where
  nonempty := (inferInstance : Nonempty (Exactly form.closer)).elim fun c => ⟨⟨.nil, c⟩⟩
  sound ts ho := by cases ts <;> cases ho
  complete b _ _ hd := absurd hd (Nat.not_succ_le_zero _)
  deep b ts hs _ := by
    obtain ⟨t, us, he⟩ := hs.append_cons (tokens b)
    rw [he]
    rfl
  viable ts cause ho hc := by
    cases ts with
    | nil => cases ho
    | cons t ts =>
      cases ho
      exact absurd rfl hc
  unique b _ _ _ _ _ _ hd := absurd hd (Nat.not_succ_le_zero _)

theorem block (levels : Nat) (form : BlockForm) :
    Reads levels (Phrase.block levels form).walk (Body form) noKind := by
  -- A block is read with one level less for the statements in it.
  induction levels generalizing form with
  | zero => exact refused form
  | succ levels ih =>
    have hc : Reads levels (Phrase.expect form.closer).walk
        (Exactly form.closer) noKind := expect _
    have hs := statements ih form.closer (by cases form <;> rfl) (by cases form <;> rfl)
    exact body (andThen hs hc fun b ts _ => ((opens_leaf _) b ts).stops fun k hk =>
      bne_eq_false_iff_eq.2 (beq_iff_eq.1 hk))

theorem program (levels : Nat) : Reads levels (Phrase.program levels).walk
    (Node .program (List Newline × Block)) (· != .eof) := by
  have hs := statements (block levels) .eof rfl rfl
  exact node (andThen blankLines (last hs) (stops_block (fun k => by cases k <;> decide)
    fun k => by cases k <;> decide))

end Reads

end TeenyFront
