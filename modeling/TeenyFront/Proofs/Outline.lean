import TeenyFront.Proofs.Acceptance
import TeenyFront.Proofs.WellFormed

/-!
# What a trace tells

The outline of a program is what its trace tells of it: the statements and their blocks, whether a
string or an expression is printed, and how the operands stand together in terms, expressions and
comparisons. Signs, operators, strings, the names of statements and blank lines are not in it. No
event marks the end of a block or of an expression; the rule of the next event does.
-/

set_option autoImplicit false

namespace TeenyFront

open DerivationTree

abbrev Factors : Type := List Lexeme

abbrev Summands : Type := List Factors

abbrev Comparands : Type := List Summands

/-- A statement without a block; what is printed is a string if there is no expression. -/
inductive Plain where
  | print (value? : Option Summands)
  | naming (form : NamingForm)
  | assignment (value : Summands)
  deriving DecidableEq, Repr

inductive Outline where
  | nil
  | plain (statement : Plain) (rest : Outline)
  | compound (form : BlockForm) (condition : Comparands) (body rest : Outline)
  deriving DecidableEq, Repr

section

variable {α γ : Type} {rule : Rule} {p : Kind → Bool}

def itemsOf (f : α → γ) (a : Node rule (α × List (Leaf p × α))) : List γ :=
  f a.parts.1 :: a.parts.2.map fun b => f b.2

def operandOf (a : Unary) : Lexeme := a.parts.2.operand.token.lexeme

def factorsOf : Term → Factors := itemsOf operandOf

def summandsOf : Expression → Summands := itemsOf factorsOf

def comparandsOf (a : Comparison) : Comparands :=
  summandsOf a.parts.1 :: summandsOf a.parts.2.2.1 :: a.parts.2.2.2.map fun b => summandsOf b.2

def plainOf : Simple → Plain
  | .inl a => .print (a.parts.2.elim (fun _ => none) fun b => some (summandsOf b))
  | .inr (.inl _) => .naming .label
  | .inr (.inr (.inl _)) => .naming .goto
  | .inr (.inr (.inr (.inl a))) => .assignment (summandsOf a.parts.2.2.2)
  | .inr (.inr (.inr (.inr _))) => .naming .input

def Block.outline : Block → Outline
  | nil => .nil
  | simple statement _ rest => .plain (plainOf statement) rest.outline
  | compound form header body _ _ rest =>
    .compound form (comparandsOf header.2.1) body.outline rest.outline

def Program.outline (a : Program) : Outline := a.parts.2.1.outline

end

/-! The events of an outline, and that they are those of what it outlines. -/

def listing {γ : Type} (rule : Rule) (list : γ → List Event) (cs : List γ) : List Event :=
  ⟨rule, none⟩ :: cs.flatMap list

def listOperand (l : Lexeme) : List Event := [⟨.unary, none⟩, ⟨.primary, some l.text⟩]

def listFactors : Factors → List Event := listing .term listOperand

def listSummands : Summands → List Event := listing .expression listFactors

def listComparands : Comparands → List Event := listing .comparison listSummands

namespace Plain

def rule : Plain → Rule
  | print _ => .printStatement
  | naming form => form.rule
  | assignment _ => .letStatement

def value? : Plain → Option Summands
  | print value? => value?
  | naming _ => none
  | assignment value => some value

def events (a : Plain) : List Event := ⟨a.rule, none⟩ :: a.value?.elim [] listSummands

theorem ext {a b : Plain} (hr : a.rule = b.rule) (hv : a.value? = b.value?) : a = b := by
  cases a with
  | print value? =>
    cases b with
    | print value?' => exact congrArg print hv
    | naming form => cases form <;> cases hr
    | assignment value => cases hr
  | naming form =>
    cases b with
    | print value? => cases form <;> cases hr
    | naming form' => cases form <;> cases form' <;> first | rfl | cases hr
    | assignment value => cases hv
  | assignment value =>
    cases b with
    | print value? => cases hr
    | naming form => cases hv
    | assignment value' => exact congrArg assignment (Option.some.inj hv)

end Plain

def Outline.events : Outline → List Event
  | nil => []
  | plain statement rest => statement.events ++ ⟨.newline, none⟩ :: rest.events
  | compound form condition body rest =>
    ⟨form.rule, none⟩ :: (listComparands condition ++ ⟨.newline, none⟩ ::
      (body.events ++ ⟨.newline, none⟩ :: rest.events))

def IsOperand (l : Lexeme) : Prop := l.WellFormed ∧ l.kind.isOperand = true

def Factors.Lexical (ls : Factors) : Prop := ∀ l ∈ ls, IsOperand l

def Summands.Lexical (fs : Summands) : Prop := ∀ ls ∈ fs, Factors.Lexical ls

def Comparands.Lexical (ss : Comparands) : Prop := ∀ fs ∈ ss, Summands.Lexical fs

def Plain.Lexical (a : Plain) : Prop := ∀ value ∈ a.value?, Summands.Lexical value

def Outline.Lexical : Outline → Prop
  | nil => True
  | plain statement rest => statement.Lexical ∧ rest.Lexical
  | compound _ condition body rest =>
    Comparands.Lexical condition ∧ body.Lexical ∧ rest.Lexical

def Lexed (ts : List Token) : Prop := ∀ t ∈ ts, t.lexeme.WellFormed

theorem Lexed.append {ts us : List Token} (h : Lexed (ts ++ us)) : Lexed ts ∧ Lexed us :=
  List.forall_mem_append.1 h

/-- `f` outlines derivations: their events are those of the outline, and what is lexed has an
outline of the class `P`. -/
structure Outlines {α γ : Type} [DerivationTree α] (f : α → γ) (list : γ → List Event)
    (P : γ → Prop) : Prop where
  events_eq : ∀ a, events a = list (f a)
  holds : ∀ a, Lexed (tokens a) → P (f a)

theorem outlines_operand : Outlines operandOf listOperand IsOperand where
  events_eq := by
    rintro ⟨sign, a⟩
    cases sign <;> rfl
  holds := by
    intro a h
    refine ⟨h _ ?_, a.parts.2.operand.holds⟩
    exact List.mem_append_right (tokens a.parts.1) (List.mem_singleton.2 rfl)

namespace Outlines

variable {α γ : Type} [DerivationTree α] {f : α → γ} {list : γ → List Event} {P : γ → Prop}
  {p : Kind → Bool}

theorem chained (h : Outlines f list P) : Outlines (fun as : List (Leaf p × α) =>
    as.map fun b => f b.2) (List.flatMap list) (fun cs => ∀ c ∈ cs, P c) where
  events_eq as := by
    induction as with
    | nil => rfl
    | cons a as ih =>
      obtain ⟨op, a⟩ := a
      rw [events_cons, events_pair, ih, h.events_eq]
      rfl
  holds as hl := by
    intro c hc
    obtain ⟨b, hb, rfl⟩ := List.mem_map.1 hc
    refine h.holds b.2 fun t ht => hl t ?_
    exact List.mem_flatMap.2 ⟨b, hb, List.mem_append_right _ ht⟩

theorem items (h : Outlines f list P) (rule : Rule) :
    Outlines (fun a : Node rule (α × List (Leaf p × α)) => itemsOf f a) (listing rule list)
      (fun cs => ∀ c ∈ cs, P c) where
  events_eq a := by
    obtain ⟨a, as⟩ := a
    rw [events_node, events_pair, h.events_eq, h.chained.events_eq]
    rfl
  holds a hl := by
    obtain ⟨a, as⟩ := a
    obtain ⟨ha, has⟩ := Lexed.append hl
    exact List.forall_mem_cons.2 ⟨h.holds a ha, h.chained.holds as has⟩

theorem factors : Outlines factorsOf listFactors Factors.Lexical :=
  outlines_operand.items .term

theorem summands : Outlines summandsOf listSummands Summands.Lexical :=
  factors.items .expression

theorem comparands : Outlines comparandsOf listComparands Comparands.Lexical where
  events_eq a := by
    obtain ⟨a, op, b, bs⟩ := a
    simp only [events_node, events_pair, summands.events_eq, summands.chained.events_eq]
    rfl
  holds a hl := by
    obtain ⟨a, op, b, bs⟩ := a
    obtain ⟨ha, hl⟩ := Lexed.append hl
    obtain ⟨-, hl⟩ := Lexed.append hl
    obtain ⟨hb, hbs⟩ := Lexed.append hl
    exact List.forall_mem_cons.2 ⟨summands.holds a ha,
      List.forall_mem_cons.2 ⟨summands.holds b hb, summands.chained.holds bs hbs⟩⟩

theorem plain : Outlines plainOf Plain.events Plain.Lexical where
  events_eq a := by
    rcases a with ⟨keyword, text | value⟩ | a | a | ⟨keyword, name, assign, value⟩ | a
    · rfl
    · exact congrArg _ (summands.events_eq value)
    · rfl
    · rfl
    · exact congrArg _ (summands.events_eq value)
    · rfl
  holds a hl := by
    intro value hv
    rcases a with ⟨keyword, text | value⟩ | a | a | ⟨keyword, name, assign, value⟩ | a <;> cases hv
    · exact summands.holds value (Lexed.append hl).2
    · exact summands.holds value (Lexed.append (Lexed.append (Lexed.append hl).2).2).2

theorem block : Outlines Block.outline Outline.events Outline.Lexical where
  events_eq b := by
    induction b with
    | nil => rfl
    | simple statement lineEnd rest ih =>
      show events statement ++ events lineEnd ++ events rest = _
      rw [plain.events_eq, events_lineEnd, ih, List.append_assoc]
      rfl
    | compound form header body closer lineEnd rest ihb ih =>
      obtain ⟨opener, condition, divider, lineEnd'⟩ := header
      simp only [events_compound, events_pair, comparands.events_eq, events_lineEnd, ihb, ih]
      simp [events, Block.outline, Outline.events]
  holds b hl := by
    induction b with
    | nil => trivial
    | simple statement lineEnd rest ih =>
      obtain ⟨hl, hr⟩ := Lexed.append hl
      exact ⟨plain.holds statement (Lexed.append hl).1, ih hr⟩
    | compound form header body closer lineEnd rest ihb ih =>
      obtain ⟨opener, condition, divider, lineEnd'⟩ := header
      obtain ⟨hl, hr⟩ := Lexed.append hl
      obtain ⟨hl, -⟩ := Lexed.append hl
      obtain ⟨hl, -⟩ := Lexed.append hl
      obtain ⟨hh, hb⟩ := Lexed.append hl
      obtain ⟨-, hh⟩ := Lexed.append hh
      exact ⟨comparands.holds condition (Lexed.append hh).1, ihb hb, ih hr⟩

end Outlines

/-! An outline can be told from its events and from what comes behind them. -/

namespace Rule

def isPart : Rule → Bool
  | expression | term | unary => true
  | _ => false

def isStatement : Rule → Bool
  | printStatement | ifStatement | whileStatement | labelStatement | gotoStatement
  | letStatement | inputStatement => true
  | _ => false

end Rule

/-- What comes behind does not begin with an event that would go on. -/
def Ends (ext : Rule → Bool) (vs : List Event) : Prop := ∀ v, vs.head? = some v → ext v.rule = false

/-- The events tell what is listed and where it ends. -/
def Tells {γ : Type} (list : γ → List Event) (P : γ → Prop) (ext : Rule → Bool) : Prop :=
  ∀ c d vs us, P c → P d → Ends ext vs → Ends ext us → list c ++ vs = list d ++ us →
    c = d ∧ vs = us

theorem ends_cons {ext : Rule → Bool} {v : Event} {vs : List Event} :
    Ends ext (v :: vs) ↔ ext v.rule = false := by
  simp [Ends]

theorem IsOperand.scan_text {l : Lexeme} (h : IsOperand l) : Lexeme.scan l.text.toList = .ok l := by
  obtain ⟨kind, text⟩ := l
  obtain ⟨hw, hk⟩ := h
  have hs := Lexeme.scan_spelling_append hw (Lexeme.apart_nil _)
  rw [List.append_nil] at hs
  cases kind <;> first | exact hs | cases hk

theorem IsOperand.eq_of_text {l m : Lexeme} (hl : IsOperand l) (hm : IsOperand m)
    (h : l.text = m.text) : l = m := by
  have hs := hl.scan_text
  rw [h, hm.scan_text] at hs
  exact (Except.ok.inj hs).symm

theorem tells_operand : Tells listOperand IsOperand fun _ => false := by
  intro l m vs us hl hm _ _ h
  simp only [listOperand, List.cons_append, List.nil_append, List.cons.injEq, Event.mk.injEq,
    Option.some.injEq, true_and] at h
  exact ⟨hl.eq_of_text hm h.1, h.2⟩

namespace Tells

variable {γ : Type} {list : γ → List Event} {P : γ → Prop} {ext ext' : Rule → Bool}

theorem mono (h : Tells list P ext) (he : ∀ r, ext' r = false → ext r = false) :
    Tells list P ext' := by
  intro c d vs us hc hd hv hu
  exact h c d vs us hc hd (fun v hs => he _ (hv v hs)) (fun v hs => he _ (hu v hs))

/-- Items in a row: each begins with the same event, so the next event tells whether there is
another one. -/
theorem items (h : Tells list P ext) {first : Rule}
    (hf : ∀ c, ∃ vs, list c = ⟨first, none⟩ :: vs) (hx : ext first = false)
    (hfirst : ext' first = true) (he : ∀ r, ext' r = false → ext r = false) :
    Tells (List.flatMap list) (fun cs => ∀ c ∈ cs, P c) ext' := by
  have hne : ∀ c cs {vs us}, Ends ext' vs → vs ≠ (c :: cs).flatMap list ++ us := by
    rintro c cs vs us hv rfl
    obtain ⟨ws, hc⟩ := hf c
    rw [List.flatMap_cons, hc, List.cons_append, List.cons_append, ends_cons, hfirst] at hv
    cases hv
  have hrow : ∀ (cs : List γ) {vs}, Ends ext' vs → Ends ext (cs.flatMap list ++ vs) := by
    intro cs vs hv
    cases cs with
    | nil => exact fun v hs => he _ (hv v hs)
    | cons c cs =>
      obtain ⟨ws, hc⟩ := hf c
      rwa [List.flatMap_cons, hc, List.cons_append, List.cons_append, ends_cons]
  intro cs ds vs us hc hd hv hu heq
  induction cs generalizing ds with
  | nil =>
    cases ds with
    | nil => exact ⟨rfl, heq⟩
    | cons d ds => exact absurd heq (hne d ds hv)
  | cons c cs ih =>
    cases ds with
    | nil => exact absurd heq.symm (hne c cs hu)
    | cons d ds =>
      obtain ⟨hc, hcs⟩ := List.forall_mem_cons.1 hc
      obtain ⟨hd, hds⟩ := List.forall_mem_cons.1 hd
      rw [List.flatMap_cons, List.flatMap_cons, List.append_assoc, List.append_assoc] at heq
      obtain ⟨rfl, hrest⟩ := h c d _ _ hc hd (hrow cs hv) (hrow ds hu) heq
      obtain ⟨rfl, hvs⟩ := ih ds hcs hds hrest
      exact ⟨rfl, hvs⟩

theorem listing {rule : Rule} {γ : Type} {list : γ → List Event} {P : List γ → Prop}
    (h : Tells (List.flatMap list) P ext) : Tells (listing rule list) P ext := by
  intro cs ds vs us hc hd hv hu he
  exact h cs ds vs us hc hd hv hu (List.cons.inj he).2

theorem factors : Tells listFactors Factors.Lexical (· == .unary) :=
  (tells_operand.items (fun _ => ⟨_, rfl⟩) rfl rfl fun _ _ => rfl).listing

theorem summands : Tells listSummands Summands.Lexical (fun r => r == .term || r == .unary) :=
  (factors.items (fun _ => ⟨_, rfl⟩) rfl rfl fun r => by cases r <;> decide).listing

theorem comparands : Tells listComparands Comparands.Lexical Rule.isPart :=
  (summands.items (fun _ => ⟨_, rfl⟩) rfl rfl fun r => by cases r <;> decide).listing

theorem value : Tells (fun value? : Option Summands => value?.elim [] listSummands)
    (fun value? => ∀ value ∈ value?, Summands.Lexical value) Rule.isPart := by
  have hs : Tells listSummands Summands.Lexical Rule.isPart :=
    summands.mono fun r => by cases r <;> decide
  have hne : ∀ {value vs us}, Ends Rule.isPart vs → vs ≠ listSummands value ++ us := by
    rintro value vs us hv rfl
    cases ends_cons.1 hv
  intro a b vs us ha hb hv hu h
  cases a with
  | none =>
    cases b with
    | none => exact ⟨rfl, h⟩
    | some b => exact absurd h (hne hv)
  | some a =>
    cases b with
    | none => exact absurd h.symm (hne hu)
    | some b =>
      obtain ⟨rfl, hvs⟩ := hs a b vs us (ha a rfl) (hb b rfl) hv hu h
      exact ⟨rfl, hvs⟩

theorem plain : Tells Plain.events Plain.Lexical Rule.isPart := by
  intro a b vs us ha hb hv hu h
  obtain ⟨hr, h⟩ := List.cons.inj h
  obtain ⟨hvalue, hvs⟩ := value _ _ vs us ha hb hv hu h
  exact ⟨Plain.ext (Event.mk.inj hr).1 hvalue, hvs⟩

theorem ends_newline (vs : List Event) : Ends Rule.isPart (⟨.newline, none⟩ :: vs) ∧
    Ends Rule.isStatement (⟨.newline, none⟩ :: vs) :=
  ⟨ends_cons.2 rfl, ends_cons.2 rfl⟩

theorem isStatement_plain (a : Plain) : a.rule.isStatement = true := by
  cases a with
  | print | assignment => rfl
  | naming form => cases form <;> rfl

theorem isStatement_form (form : BlockForm) : form.rule.isStatement = true := by
  cases form <;> rfl

theorem rule_plain_ne (a : Plain) (form : BlockForm) : a.rule ≠ form.rule := by
  cases a with
  | print | assignment => cases form <;> simp [Plain.rule, BlockForm.rule]
  | naming name => cases form <;> cases name <;> decide

theorem outline : Tells Outline.events Outline.Lexical Rule.isStatement := by
  have hne : ∀ {r : Rule} {vs us ws : List Event}, r.isStatement = true →
      Ends Rule.isStatement vs → vs ≠ ⟨r, none⟩ :: us ++ ws := by
    rintro r vs us ws hr hv rfl
    rw [List.cons_append, ends_cons, hr] at hv
    cases hv
  intro a b vs us ha hb hv hu h
  induction a generalizing b vs us with
  | nil =>
    cases b with
    | nil => exact ⟨rfl, h⟩
    | plain s rest => exact absurd h (hne (isStatement_plain s) hv)
    | compound form c body rest => exact absurd h (hne (isStatement_form form) hv)
  | plain s rest ih =>
    cases b with
    | nil => exact absurd h.symm (hne (isStatement_plain s) hu)
    | compound form c body rest' =>
      exact absurd (Event.mk.inj (List.cons.inj h).1).1 (rule_plain_ne s form)
    | plain s' rest' =>
      simp only [Outline.events, List.append_assoc, List.cons_append] at h
      obtain ⟨rfl, hs⟩ := plain s s' _ _ ha.1 hb.1 (ends_newline _).1 (ends_newline _).1 h
      obtain ⟨rfl, hr⟩ := ih rest' vs us ha.2 hb.2 hv hu (List.cons.inj hs).2
      exact ⟨rfl, hr⟩
  | compound form c body rest ihb ih =>
    cases b with
    | nil => exact absurd h.symm (hne (isStatement_form form) hu)
    | plain s rest' =>
      exact absurd (Event.mk.inj (List.cons.inj h).1).1.symm (rule_plain_ne s form)
    | compound form' c' body' rest' =>
      obtain ⟨hc, hb, hr⟩ := hb
      simp only [Outline.events, List.append_assoc, List.cons_append] at h
      obtain ⟨hf, hbody⟩ := List.cons.inj h
      have hform : form = form' := by
        cases form <;> cases form' <;> first | rfl | cases hf
      obtain ⟨rfl, hlines⟩ :=
        comparands c c' _ _ ha.1 hc (ends_newline _).1 (ends_newline _).1 hbody
      obtain ⟨rfl, hend⟩ := ihb body' _ _ ha.2.1 hb (ends_newline _).2 (ends_newline _).2
        (List.cons.inj hlines).2
      obtain ⟨rfl, hvs⟩ := ih rest' vs us ha.2.2 hr hv hu (List.cons.inj hend).2
      exact ⟨hform ▸ rfl, hvs⟩

end Tells

theorem Program.events_outline (p : Program) :
    events p = ⟨.program, none⟩ :: p.outline.events := by
  obtain ⟨lines, block, ending⟩ := p
  rw [events_node, events_pair, events_pair, events_blankLines, Outlines.block.events_eq]
  exact congrArg _ (List.append_nil _)

theorem Program.lexical {p : Program} (h : Lexed (tokens p)) : p.outline.Lexical := by
  obtain ⟨lines, block, ending⟩ := p
  exact Outlines.block.holds block (Lexed.append (Lexed.append h).2).1

/-- Two accepted sources have the same trace exactly if their derivations have the same outline. -/
theorem trace_tells_outline {source source' : String} {trace trace' : Array Event}
    (h : parse source = .ok trace) (h' : parse source' = .ok trace') :
    ∃ p p' : Program, (∀ q : Program, (lexing source).result = .ok (tokens q) ↔ q = p) ∧
      (∀ q : Program, (lexing source').result = .ok (tokens q) ↔ q = p') ∧
      (trace = trace' ↔ p.outline = p'.outline) := by
  have hone : ∀ {source : String} {trace : Array Event}, parse source = .ok trace →
      ∃ p : Program, (∀ q : Program, (lexing source).result = .ok (tokens q) ↔ q = p) ∧
        trace.toList = ⟨.program, none⟩ :: p.outline.events ∧ p.outline.Lexical := by
    intro source trace h
    obtain ⟨p, hp, hv, -⟩ := parse_ok h
    refine ⟨p, fun q => ⟨fun hq => ?_, fun hq => hq ▸ hp⟩, hv.trans p.events_outline, ?_⟩
    · rw [hp] at hq
      exact (Program.eq_of_tokens_eq (Except.ok.inj hq)).symm
    · refine Program.lexical ?_
      rw [← (Lexing.result_eq_ok.1 hp).2]
      exact Cursor.lex_wellFormed _
  obtain ⟨p, hp, hv, hl⟩ := hone h
  obtain ⟨p', hp', hv', hl'⟩ := hone h'
  refine ⟨p, p', hp, hp', ?_, ?_⟩
  · rintro rfl
    rw [hv] at hv'
    have ht := Tells.outline p.outline p'.outline [] [] hl hl' (by simp [Ends]) (by simp [Ends])
    exact (ht (by simpa using hv')).1
  · intro ho
    rw [← Array.toList_inj, hv, hv', ho]

/-- Neither the sign nor the operator, the name, the string or the blank line is in the trace. -/
theorem trace_tells_no_sign : ∃ p p' : Program,
    (∀ q : Program, (lexing "PRINT \"a\"\nLET x = -1 + 2").result = .ok (tokens q) ↔ q = p) ∧
      (∀ q : Program, (lexing "\nPRINT \"b\"\n\nLET y = 1 - 2").result = .ok (tokens q) ↔ q = p') ∧
      p.outline = p'.outline := by
  have h : parse "PRINT \"a\"\nLET x = -1 + 2" = .ok #[⟨.program, none⟩, ⟨.printStatement, none⟩,
      ⟨.newline, none⟩, ⟨.letStatement, none⟩, ⟨.expression, none⟩, ⟨.term, none⟩, ⟨.unary, none⟩,
      ⟨.primary, some "1"⟩, ⟨.term, none⟩, ⟨.unary, none⟩, ⟨.primary, some "2"⟩,
      ⟨.newline, none⟩] := by decide +kernel
  have h' : parse "\nPRINT \"b\"\n\nLET y = 1 - 2" = .ok #[⟨.program, none⟩,
      ⟨.printStatement, none⟩, ⟨.newline, none⟩, ⟨.letStatement, none⟩, ⟨.expression, none⟩,
      ⟨.term, none⟩, ⟨.unary, none⟩, ⟨.primary, some "1"⟩, ⟨.term, none⟩, ⟨.unary, none⟩,
      ⟨.primary, some "2"⟩, ⟨.newline, none⟩] := by decide +kernel
  obtain ⟨p, p', hp, hp', ho⟩ := trace_tells_outline h h'
  exact ⟨p, p', hp, hp', ho.1 rfl⟩

end TeenyFront
