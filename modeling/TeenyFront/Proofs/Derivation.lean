import TeenyFront.Proofs.Phrase

/-!
# Derivations

The derivation trees of the grammar, one type for each rule. A tree has the tokens at its leaves,
the events of its rules in pre-order, and a depth to which blocks nest in it. A list of kinds is
derivable if a program has tokens of these kinds.
-/

set_option autoImplicit false

namespace TeenyFront

class DerivationTree (α : Type) where
  tokens : α → List Token
  events : α → List Event
  depth : α → Nat

open DerivationTree

/-- No block is in a derivation of type `α`. -/
class Flat (α : Type) [DerivationTree α] : Prop where
  depth_eq_zero : ∀ a : α, depth a = 0

@[ext]
structure Leaf (p : Kind → Bool) where
  token : Token
  holds : p token.kind = true

abbrev Exactly (kind : Kind) : Type := Leaf (· == kind)

instance (p : Kind → Bool) : DerivationTree (Leaf p) :=
  ⟨fun t => [t.token], fun _ => [], fun _ => 0⟩

instance (p : Kind → Bool) : Flat (Leaf p) := ⟨fun _ => rfl⟩

instance : DerivationTree Unit := ⟨fun _ => [], fun _ => [], fun _ => 0⟩

section

variable {α β : Type} [DerivationTree α] [DerivationTree β]

instance : DerivationTree (α × β) :=
  ⟨fun a => tokens a.1 ++ tokens a.2, fun a => events a.1 ++ events a.2,
    fun a => max (depth a.1) (depth a.2)⟩

instance : DerivationTree (α ⊕ β) :=
  ⟨Sum.elim tokens tokens, Sum.elim events events, Sum.elim depth depth⟩

instance : DerivationTree (Option α) :=
  ⟨fun a => a.elim [] tokens, fun a => a.elim [] events, fun a => a.elim 0 depth⟩

instance : DerivationTree (List α) :=
  ⟨fun as => as.flatMap tokens, fun as => as.flatMap events,
    fun as => as.foldr (fun a d => max (depth a) d) 0⟩

@[simp] theorem tokens_pair (a : α) (b : β) : tokens (a, b) = tokens a ++ tokens b := rfl

@[simp] theorem events_pair (a : α) (b : β) : events (a, b) = events a ++ events b := rfl

@[simp] theorem depth_pair (a : α) (b : β) : depth (a, b) = max (depth a) (depth b) := rfl

@[simp] theorem tokens_nil : tokens ([] : List α) = [] := rfl

@[simp] theorem tokens_cons (a : α) (as : List α) :
    tokens (a :: as) = tokens a ++ tokens as := rfl

theorem tokens_append (as bs : List α) : tokens (as ++ bs) = tokens as ++ tokens bs :=
  List.flatMap_append

@[simp] theorem events_cons (a : α) (as : List α) :
    events (a :: as) = events a ++ events as := rfl

@[simp] theorem depth_cons (a : α) (as : List α) :
    depth (a :: as) = max (depth a) (depth as) := rfl

/-! A unit next to an item adds nothing to it. -/

theorem tokens_map_fst (as : List (α × Unit)) : tokens (as.map Prod.fst) = tokens as := by
  induction as with
  | nil => rfl
  | cons a as ih =>
    have ha : tokens a = tokens a.1 := List.append_nil _
    rw [List.map_cons, tokens_cons, tokens_cons, ih, ha]

theorem events_map_fst (as : List (α × Unit)) : events (as.map Prod.fst) = events as := by
  induction as with
  | nil => rfl
  | cons a as ih =>
    have ha : events a = events a.1 := List.append_nil _
    rw [List.map_cons, events_cons, events_cons, ih, ha]

theorem depth_map_fst (as : List (α × Unit)) : depth (as.map Prod.fst) = depth as := by
  induction as with
  | nil => rfl
  | cons a as ih =>
    have ha : depth a = depth a.1 := Nat.max_zero _
    rw [List.map_cons, depth_cons, depth_cons, ih, ha]

instance [ha : Flat α] [hb : Flat β] : Flat (α × β) :=
  ⟨fun a => Nat.max_eq_zero_iff.2 ⟨ha.depth_eq_zero a.1, hb.depth_eq_zero a.2⟩⟩

instance [ha : Flat α] [hb : Flat β] : Flat (α ⊕ β) :=
  ⟨fun a => a.rec ha.depth_eq_zero hb.depth_eq_zero⟩

instance [ha : Flat α] : Flat (Option α) :=
  ⟨fun a => a.rec rfl ha.depth_eq_zero⟩

instance [ha : Flat α] : Flat (List α) :=
  ⟨fun as => as.rec rfl fun a _ ih => Nat.max_eq_zero_iff.2 ⟨ha.depth_eq_zero a, ih⟩⟩

end

/-- The parts of a phrase under the rule that they are read by. -/
structure Node (rule : Rule) (α : Type) where
  parts : α

instance (rule : Rule) (α : Type) [DerivationTree α] : DerivationTree (Node rule α) :=
  ⟨fun a => tokens a.parts, fun a => ⟨rule, none⟩ :: events a.parts, fun a => depth a.parts⟩

section

variable {rule : Rule} {α : Type} [DerivationTree α]

@[simp] theorem tokens_node (a : α) : tokens (⟨a⟩ : Node rule α) = tokens a := rfl

@[simp] theorem events_node (a : α) :
    events (⟨a⟩ : Node rule α) = ⟨rule, none⟩ :: events a := rfl

end

instance (rule : Rule) (α : Type) [DerivationTree α] [h : Flat α] : Flat (Node rule α) :=
  ⟨fun a => h.depth_eq_zero a.parts⟩

structure Primary where
  operand : Leaf Kind.isOperand

instance : DerivationTree Primary :=
  ⟨fun a => [a.operand.token], fun a => [⟨.primary, some a.operand.token.text⟩], fun _ => 0⟩

instance : Flat Primary := ⟨fun _ => rfl⟩

abbrev Sign : Type := Leaf Kind.isSign

abbrev FactorOperator : Type := Leaf Kind.isFactorOperator

abbrev ComparisonOperator : Type := Leaf Kind.isComparison

abbrev Newline : Type := Exactly .newline

abbrev Unary : Type := Node .unary (Option Sign × Primary)

abbrev Term : Type := Node .term (Unary × List (FactorOperator × Unary))

abbrev Expression : Type := Node .expression (Term × List (Sign × Term))

abbrev Comparison : Type :=
  Node .comparison (Expression × ComparisonOperator × Expression ×
    List (ComparisonOperator × Expression))

abbrev LineEnd : Type := Node .newline (Newline × List Newline)

theorem events_blankLines (ts : List Newline) : events ts = [] := by
  induction ts with
  | nil => rfl
  | cons t ts ih =>
    rw [events_cons, ih]
    rfl

/-- However many line feeds there are, one line end is listed. -/
theorem events_lineEnd (l : LineEnd) : events l = [⟨.newline, none⟩] := by
  obtain ⟨t, ts⟩ := l
  rw [events_node, events_pair, events_blankLines]
  rfl

abbrev Print : Type := Node .printStatement (Exactly .print × (Exactly .string ⊕ Expression))

abbrev Naming (form : NamingForm) : Type :=
  Node form.rule (Exactly form.keyword × Exactly .identifier)

abbrev Assignment : Type :=
  Node .letStatement (Exactly .let × Exactly .identifier × Exactly .assign × Expression)

abbrev Simple : Type := Print ⊕ Naming .label ⊕ Naming .goto ⊕ Assignment ⊕ Naming .input

instance : DerivationTree Simple := inferInstance

abbrev Header (form : BlockForm) : Type :=
  Exactly form.opener × Comparison × Exactly form.divider × LineEnd

/-- Statements one after the other, each up to its line end. -/
inductive Block where
  | nil
  | simple (statement : Simple) (lineEnd : LineEnd) (rest : Block)
  | compound (form : BlockForm) (header : Header form) (body : Block)
      (closer : Exactly form.closer) (lineEnd : LineEnd) (rest : Block)

namespace Block

def tokens : Block → List Token
  | nil => []
  | simple statement lineEnd rest =>
    DerivationTree.tokens statement ++ DerivationTree.tokens lineEnd ++ rest.tokens
  | compound _ header body closer lineEnd rest =>
    DerivationTree.tokens header ++ body.tokens ++ [closer.token] ++
      DerivationTree.tokens lineEnd ++ rest.tokens

def events : Block → List Event
  | nil => []
  | simple statement lineEnd rest =>
    DerivationTree.events statement ++ DerivationTree.events lineEnd ++ rest.events
  | compound form header body _ lineEnd rest =>
    ⟨form.rule, none⟩ :: DerivationTree.events header ++ body.events ++
      DerivationTree.events lineEnd ++ rest.events

def depth : Block → Nat
  | nil => 0
  | simple _ _ rest => rest.depth
  | compound _ _ body _ _ rest => max (body.depth + 1) rest.depth

end Block

instance : DerivationTree Block := ⟨Block.tokens, Block.events, Block.depth⟩

structure Body (form : BlockForm) where
  block : Block
  closer : Exactly form.closer

instance (form : BlockForm) : DerivationTree (Body form) :=
  ⟨fun b => tokens b.block ++ [b.closer.token], fun b => events b.block,
    fun b => depth b.block + 1⟩

abbrev Compound (form : BlockForm) : Type :=
  Node form.rule (Exactly form.opener × Comparison × Exactly form.divider × LineEnd × Body form)

instance (form : BlockForm) : DerivationTree (Compound form) := inferInstance

abbrev Clause : Type := Compound .if ⊕ Compound .while ⊕ Simple

abbrev Statement : Type := Clause × LineEnd

namespace Block

def consCompound (form : BlockForm) : Compound form → LineEnd → Block → Block
  | ⟨(opener, comparison, divider, lineEnd, body)⟩, lineEnd', rest =>
    compound form (opener, comparison, divider, lineEnd) body.block body.closer lineEnd' rest

def cons : Statement → Block → Block
  | (.inl c, lineEnd), rest => consCompound .if c lineEnd rest
  | (.inr (.inl c), lineEnd), rest => consCompound .while c lineEnd rest
  | (.inr (.inr c), lineEnd), rest => simple c lineEnd rest

def ofStatements (ss : List Statement) : Block := ss.foldr cons nil

end Block

section

variable {form : BlockForm} (b : Block) (l : LineEnd) (rest : Block)

theorem tokens_body (closer : Exactly form.closer) :
    tokens (⟨b, closer⟩ : Body form) = tokens b ++ [closer.token] := rfl

theorem events_body (closer : Exactly form.closer) :
    events (⟨b, closer⟩ : Body form) = events b := rfl

theorem depth_body (closer : Exactly form.closer) :
    depth (⟨b, closer⟩ : Body form) = depth b + 1 := rfl

theorem tokens_compound (header : Header form) (closer : Exactly form.closer) :
    tokens (Block.compound form header b closer l rest) =
      tokens header ++ tokens b ++ [closer.token] ++ tokens l ++ tokens rest := rfl

theorem events_compound (header : Header form) (closer : Exactly form.closer) :
    events (Block.compound form header b closer l rest) =
      ⟨form.rule, none⟩ :: events header ++ events b ++ events l ++ events rest := rfl

theorem depth_compound (header : Header form) (closer : Exactly form.closer) :
    depth (Block.compound form header b closer l rest) = max (depth b + 1) (depth rest) := rfl

theorem tokens_consCompound (c : Compound form) :
    tokens (Block.consCompound form c l rest) = tokens c ++ tokens l ++ tokens rest := by
  obtain ⟨opener, comparison, divider, lineEnd, ⟨body, closer⟩⟩ := c
  rw [Block.consCompound, tokens_compound]
  show _ = tokens (opener, comparison, divider, lineEnd, Body.mk body closer) ++ _ ++ _
  simp only [tokens_pair, tokens_body, List.append_assoc]

theorem events_consCompound (c : Compound form) :
    events (Block.consCompound form c l rest) = events c ++ events l ++ events rest := by
  obtain ⟨opener, comparison, divider, lineEnd, ⟨body, closer⟩⟩ := c
  rw [Block.consCompound, events_compound]
  show _ = _ :: events (opener, comparison, divider, lineEnd, Body.mk body closer) ++ _ ++ _
  simp only [events_pair, events_body, List.append_assoc, List.cons_append]

theorem depth_consCompound (c : Compound form) :
    depth (Block.consCompound form c l rest) = max (depth c) (depth rest) := by
  obtain ⟨opener, comparison, divider, lineEnd, ⟨body, closer⟩⟩ := c
  rw [Block.consCompound, depth_compound]
  show _ = max (depth (opener, comparison, divider, lineEnd, Body.mk body closer)) _
  simp only [depth_pair, depth_body, Flat.depth_eq_zero, Nat.zero_max]

end

theorem tokens_consStatement (s : Statement) (b : Block) :
    tokens (Block.cons s b) = tokens s ++ tokens b := by
  obtain ⟨c | c | c, l⟩ := s
  · exact tokens_consCompound l b c
  · exact tokens_consCompound l b c
  · rfl

theorem events_consStatement (s : Statement) (b : Block) :
    events (Block.cons s b) = events s ++ events b := by
  obtain ⟨c | c | c, l⟩ := s
  · exact events_consCompound l b c
  · exact events_consCompound l b c
  · rfl

theorem depth_consStatement (s : Statement) (b : Block) :
    depth (Block.cons s b) = max (depth s) (depth b) := by
  obtain ⟨c, l⟩ := s
  rw [depth_pair, Flat.depth_eq_zero l, Nat.max_zero]
  obtain c | c | c := c
  · exact depth_consCompound l b c
  · exact depth_consCompound l b c
  · show depth b = max (depth c) (depth b)
    rw [Flat.depth_eq_zero c, Nat.zero_max]

theorem tokens_ofStatements (ss : List Statement) :
    tokens (Block.ofStatements ss) = tokens ss := by
  induction ss with
  | nil => rfl
  | cons s ss ih =>
    rw [tokens_cons, ← ih]
    exact tokens_consStatement s _

theorem events_ofStatements (ss : List Statement) :
    events (Block.ofStatements ss) = events ss := by
  induction ss with
  | nil => rfl
  | cons s ss ih =>
    rw [events_cons, ← ih]
    exact events_consStatement s _

theorem depth_ofStatements (ss : List Statement) :
    depth (Block.ofStatements ss) = depth ss := by
  induction ss with
  | nil => rfl
  | cons s ss ih =>
    rw [depth_cons, ← ih]
    exact depth_consStatement s _

theorem exists_ofStatements (b : Block) : ∃ ss, Block.ofStatements ss = b := by
  induction b with
  | nil => exact ⟨[], rfl⟩
  | simple s l rest ih =>
    obtain ⟨ss, rfl⟩ := ih
    exact ⟨(.inr (.inr s), l) :: ss, rfl⟩
  | compound form header body closer l rest _ ih =>
    obtain ⟨ss, rfl⟩ := ih
    obtain ⟨opener, comparison, divider, lineEnd⟩ := header
    cases form with
    | «if» => exact ⟨(.inl ⟨opener, comparison, divider, lineEnd, ⟨body, closer⟩⟩, l) :: ss, rfl⟩
    | «while» =>
      exact ⟨(.inr (.inl ⟨opener, comparison, divider, lineEnd, ⟨body, closer⟩⟩), l) :: ss, rfl⟩

/-- Blank lines, statements and the end of input. The blank lines are one run of line feeds, which
can be written in one way only. -/
abbrev Program : Type := Node .program (List Newline × Block × Exactly .eof)

namespace Program

def kinds (p : Program) : List Kind := (tokens p).map Token.kind

end Program

/-- A program as the grammar has it. The blank lines are any number of line ends, each of any number
of line feeds but none. They are read without a rule of their own, so they are not listed. -/
structure Derivation where
  leading : List LineEnd
  block : Block
  ending : Exactly .eof

instance : DerivationTree Derivation :=
  ⟨fun d => tokens d.leading ++ (tokens d.block ++ [d.ending.token]),
    fun d => ⟨.program, none⟩ :: events d.block, fun d => depth d.block⟩

namespace Derivation

def blankLines (d : Derivation) : List Newline :=
  d.leading.flatMap fun l => l.parts.1 :: l.parts.2

def ungrouped (d : Derivation) : Program := ⟨(d.blankLines, d.block, d.ending)⟩

theorem tokens_blankLines (d : Derivation) : tokens d.blankLines = tokens d.leading := by
  obtain ⟨leading, block, ending⟩ := d
  unfold blankLines
  induction leading with
  | nil => rfl
  | cons l ls ih =>
    rw [List.flatMap_cons, tokens_append, ih, tokens_cons]
    rfl

theorem tokens_ungrouped (d : Derivation) : tokens d.ungrouped = tokens d :=
  congrArg (· ++ (tokens d.block ++ [d.ending.token])) d.tokens_blankLines

theorem events_ungrouped (d : Derivation) : events d.ungrouped = events d := by
  show _ :: (events d.blankLines ++ (events d.block ++ [])) = _ :: events d.block
  rw [events_blankLines, List.append_nil, List.nil_append]

/-- Every program can be grouped, each blank line by itself. -/
theorem exists_ungrouped (p : Program) : ∃ d : Derivation, d.ungrouped = p := by
  obtain ⟨lines, block, ending⟩ := p
  refine ⟨⟨lines.map fun t => ⟨(t, [])⟩, block, ending⟩, ?_⟩
  simp [ungrouped, blankLines, List.flatMap_map]

end Derivation

/-- The kinds are those of a program whose blocks nest at most `limit` deep. -/
def DerivableWithin (limit : Nat) (kinds : List Kind) : Prop :=
  ∃ p : Program, p.kinds = kinds ∧ depth p ≤ limit

def Derivable (kinds : List Kind) : Prop := ∃ p : Program, p.kinds = kinds

end TeenyFront
