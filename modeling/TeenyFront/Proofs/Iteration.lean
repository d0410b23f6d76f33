import TeenyFront.Proofs.Lexing

/-!
# Items one by one

A stream yields its items one by one: tokens up to the end token, or up to the first error. Until it
has yielded one of these two it reads what a cursor reads, and from then on it yields nothing and
stands still, whatever else is asked of it. Listing and counting draw the items that are left.
-/

set_option autoImplicit false

namespace TeenyFront

abbrev Item : Type := Except LexicalError Token

def Lexing.items (l : Lexing) : List Item := l.tokens.map .ok ++ l.error?.toList.map .error

theorem Lexing.length_items (l : Lexing) : l.items.length = l.count := by simp [items, count]

/-- Either the tokens end with the first end token or none of them is one and an error ends them. -/
theorem Cursor.lex_cases (c : Cursor) :
    (∃ ts t, c.lex.tokens = ts ++ [t] ∧ c.lex.error? = none ∧ t.kind = .eof ∧
      ∀ u ∈ ts, u.kind ≠ .eof) ∨
    ∃ e, c.lex.error? = some e ∧ ∀ u ∈ c.lex.tokens, u.kind ≠ .eof := by
  cases he : c.lex.error? with
  | none =>
    obtain ⟨ts, t, hts, ht⟩ := c.lex_ends he
    refine .inl ⟨ts, t, hts, rfl, ht, fun u hu hk => ?_⟩
    obtain ⟨vs, ws, rfl⟩ := List.append_of_mem hu
    rw [List.append_assoc, List.cons_append] at hts
    simpa using (c.lex_behind_end hts hk).1
  | some e =>
    refine .inr ⟨e, rfl, fun u hu hk => ?_⟩
    obtain ⟨vs, ws, hs⟩ := List.append_of_mem hu
    rw [(c.lex_behind_end hs hk).2] at he
    cases he

namespace TokenStream

def pull (s : TokenStream) : Nat → List Item × TokenStream
  | 0 => ([], s)
  | n + 1 =>
    match s.next with
    | (none, s) => ([], s)
    | (some item, s) => (item :: (s.pull n).1, (s.pull n).2)

theorem length_pull_le (s : TokenStream) (n : Nat) : (s.pull n).1.length ≤ n := by
  induction n generalizing s with
  | zero => exact Nat.le_refl 0
  | succ n ih =>
    unfold pull
    split
    · exact Nat.zero_le _
    · exact Nat.succ_le_succ (ih _)

theorem pull_finished {s : TokenStream} (h : s.finished = true) (n : Nat) :
    s.pull n = ([], s) := by
  cases n with
  | zero => rfl
  | succ n => rw [pull, next_finished h]

section

variable {s : TokenStream} {c d : Cursor} {n : Nat}

theorem pull_last {item : Item} (h : c.readToken = (item, d)) (hi : isLast item = true) :
    (⟨c, false⟩ : TokenStream).pull (n + 1) = ([item], ⟨d, true⟩) := by
  rw [pull, next_unfinished rfl]
  simp only [h, hi]
  rw [pull_finished rfl]

theorem pull_token {t : Token} (h : c.readToken = (.ok t, d)) (ht : t.kind ≠ .eof) :
    (⟨c, false⟩ : TokenStream).pull (n + 1) =
      (.ok t :: (pull ⟨d, false⟩ n).1, (pull ⟨d, false⟩ n).2) := by
  have hi : isLast (.ok t) = false := decide_eq_false ht
  rw [pull, next_unfinished rfl]
  simp only [h, hi]

/-- One call more than there are characters left draws all items. -/
theorem pull_lex (hn : c.rest.length < n) :
    (⟨c, false⟩ : TokenStream).pull n = (c.lex.items, ⟨c.lex.cursor, true⟩) := by
  induction c using Cursor.lex_induction generalizing n with
  | error c e d hr =>
    rw [← Nat.sub_one_add_one (Nat.ne_zero_of_lt hn), pull_last hr rfl, Cursor.lex_error hr]
    rfl
  | last c t d hr ht =>
    have hi : isLast (.ok t) = true := decide_eq_true ht
    rw [← Nat.sub_one_add_one (Nat.ne_zero_of_lt hn), pull_last hr hi, Cursor.lex_end hr ht]
    rfl
  | token c t d hr ht ih =>
    have hlt := Cursor.length_lt_of_token hr ht
    have hd : d.rest.length < n - 1 := by omega
    rw [← Nat.sub_one_add_one (Nat.ne_zero_of_lt hn), pull_token hr ht, ih hd,
      Cursor.lex_token hr ht]
    rfl

theorem remaining_finished (h : s.finished = true) : s.remaining = ⟨[], none, s.cursor⟩ :=
  if_pos h

theorem remaining_unfinished (h : s.finished = false) : s.remaining = s.cursor.lex :=
  if_neg (Bool.eq_false_iff.1 h)

end

def Step.items (s : TokenStream) : Step → List Item
  | .look | .skip _ | .readToken => []
  | .next => s.next.1.toList
  | .tokenize | .count => s.remaining.items

def yielded (s : TokenStream) : List Step → List Item
  | [] => []
  | step :: steps => step.items s ++ (step.run s).yielded steps

theorem any_isLast_remaining {s : TokenStream} (h : s.finished = false) :
    s.remaining.items.any isLast = true := by
  rw [remaining_unfinished h, List.any_eq_true]
  rcases s.cursor.lex_cases with ⟨ts, t, hts, -, ht, -⟩ | ⟨e, he, -⟩
  · exact ⟨.ok t, by simp [Lexing.items, hts], decide_eq_true ht⟩
  · exact ⟨.error e, by simp [Lexing.items, he], rfl⟩

theorem finished_run (s : TokenStream) (step : Step) :
    (step.run s).finished = (s.finished || (step.items s).any isLast) := by
  have hdrained : s.drained.finished = (s.finished || s.remaining.items.any isLast) := by
    cases hf : s.finished with
    | true => rfl
    | false => exact (any_isLast_remaining hf).symm
  cases step with
  | look | skip n | readToken => exact (Bool.or_false _).symm
  | tokenize | count => exact hdrained
  | next =>
    show s.next.2.finished = (s.finished || s.next.1.toList.any isLast)
    cases hf : s.finished with
    | true => rw [next_finished hf, hf, Bool.true_or]
    | false =>
      rw [next_unfinished hf]
      simp

theorem finished_script (s : TokenStream) (steps : List Step) :
    (s.script steps).finished = (s.finished || (s.yielded steps).any isLast) := by
  induction steps generalizing s with
  | nil => exact (Bool.or_false _).symm
  | cons step steps ih =>
    show ((step.run s).script steps).finished = _
    rw [ih, finished_run, yielded, List.any_append, Bool.or_assoc]

/-- A stream that has yielded its last item yields nothing more and stands still. -/
structure Exhausted (s : TokenStream) : Prop where
  next : s.next = (none, s)
  result : s.remaining.result = .ok []
  count : s.remaining.count = 0
  drained : s.drained = s

/-- A stream that has not yields what its cursor reads. Calling it again and again draws the items
that are listed and counted, one more at the most than there are characters left; the last of them
is the first end token or the first error. -/
structure Flowing (s : TokenStream) : Prop where
  next : s.next.1 = some s.readToken.1
  cursor : s.next.2.cursor = s.readToken.2.cursor
  advances : ∀ t, s.next.1 = some (.ok t) → t.kind ≠ .eof →
    s.next.2.cursor.rest.length < s.cursor.rest.length
  pulled : ∀ n, s.cursor.rest.length < n → s.pull n = (s.remaining.items, s.drained)
  count : s.remaining.items.length = s.remaining.count
  bounded : s.remaining.count ≤ s.cursor.rest.length + 1
  result : ∃ ts : List Token, (∀ u ∈ ts, u.kind ≠ .eof) ∧
    ((∃ t, t.kind = .eof ∧ s.remaining.items = ts.map .ok ++ [.ok t] ∧
      s.remaining.result = .ok (ts ++ [t])) ∨
    ∃ e, s.remaining.items = ts.map .ok ++ [.error e] ∧ s.remaining.result = .error e)

theorem exhausted_of_finished {s : TokenStream} (h : s.finished = true) : s.Exhausted where
  next := next_finished h
  result := by
    rw [remaining_finished h]
    rfl
  count := by
    rw [remaining_finished h]
    rfl
  drained := by
    rw [drained, remaining_finished h, ← h]

theorem flowing_of_unfinished {s : TokenStream} (h : s.finished = false) : s.Flowing := by
  have hpull {n : Nat} (hn : s.cursor.rest.length < n) :
      s.pull n = (s.remaining.items, s.drained) := by
    rw [drained, remaining_unfinished h, ← pull_lex hn, ← h]
  refine ⟨?_, ?_, fun t ht hk => ?_, fun n => hpull, s.remaining.length_items, ?_, ?_⟩
  · rw [next_unfinished h]
    rfl
  · rw [next_unfinished h]
    rfl
  · rw [next_unfinished h] at ht ⊢
    exact Cursor.readToken_length_lt (Option.some.inj ht) hk
  · have hle := s.length_pull_le (s.cursor.rest.length + 1)
    rwa [hpull (Nat.lt_succ_self _), s.remaining.length_items] at hle
  · rw [remaining_unfinished h]
    rcases s.cursor.lex_cases with ⟨ts, t, hts, he, ht, hu⟩ | ⟨e, he, hu⟩
    · refine ⟨ts, hu, .inl ⟨t, ht, ?_, Lexing.result_eq_ok.2 ⟨he, hts⟩⟩⟩
      simp [Lexing.items, hts, he]
    · refine ⟨_, hu, .inr ⟨e, ?_, Lexing.result_eq_error.2 he⟩⟩
      simp [Lexing.items, he]

/-- After every script a stream yields on if no item drawn so far was the end token or an error, and
otherwise it is exhausted. -/
theorem script_flowing_or_exhausted (source : String) (steps : List Step) :
    ((∀ item ∈ (ofSource source).yielded steps, isLast item = false) ∧
      ((ofSource source).script steps).Flowing) ∨
    ((∃ item ∈ (ofSource source).yielded steps, isLast item = true) ∧
      ((ofSource source).script steps).Exhausted) := by
  have hf : ((ofSource source).script steps).finished = _ := finished_script _ steps
  cases hl : ((ofSource source).yielded steps).any isLast with
  | false =>
    rw [hl] at hf
    refine .inl ⟨fun item hi => ?_, flowing_of_unfinished hf⟩
    exact Bool.eq_false_iff.2 (List.any_eq_false.1 hl item hi)
  | true =>
    rw [hl] at hf
    exact .inr ⟨List.any_eq_true.1 hl, exhausted_of_finished hf⟩

end TokenStream

end TeenyFront
