import TeenyFront.Scanner
import TeenyFront.Proofs.Iteration
import TeenyFront.Proofs.Lines

/-!
# Scanners read what cursors read

The index of a scanner, its current character and its position are three accounts of one place in
the source. Advancing by one character keeps them in agreement, and every operation only advances.
So a scanner never asks for a character that the source does not have, and it does what a stream
does that sees nothing of the source but the rest.
-/

set_option autoImplicit false

namespace TeenyFront

open Text Lexeme

theorem Lexeme.drop_takeWhile (p : Char → Bool) (cs : List Char) :
    cs.drop (cs.takeWhile p).length = cs.dropWhile p := by
  induction cs with
  | nil => rfl
  | cons c cs ih =>
    rw [List.takeWhile_cons, List.dropWhile_cons]
    split
    · exact ih
    · rfl

theorem Lexing.mapM_items (l : Lexing) : l.items.mapM id = l.result := by
  obtain ⟨tokens, error?, cursor⟩ := l
  simp only [items, result]
  induction tokens with
  | nil => cases error? <;> rfl
  | cons t ts ih =>
    rw [List.map_cons, List.cons_append, List.mapM_cons, ih]
    cases error? <;> rfl

namespace TokenStream

variable {s : TokenStream}

/-- Drawing the items that are left is yielding one and drawing those that are left then. -/
theorem remaining_next (h : s.finished = false) :
    s.remaining.items = s.cursor.readToken.1 :: s.next.2.remaining.items ∧
      s.drained = s.next.2.drained := by
  rw [next_unfinished h, drained, drained, remaining_unfinished h]
  rcases hr : s.cursor.readToken with ⟨item, d⟩
  cases item with
  | error e =>
    rw [Cursor.lex_error hr, remaining_finished rfl]
    exact ⟨rfl, rfl⟩
  | ok t =>
    by_cases ht : t.kind = .eof
    · have hi : isLast (.ok t) = true := decide_eq_true ht
      rw [Cursor.lex_end hr ht, remaining_finished hi]
      exact ⟨rfl, rfl⟩
    · have hi : isLast (.ok t) = false := decide_eq_false ht
      rw [Cursor.lex_token hr ht, remaining_unfinished hi]
      exact ⟨rfl, rfl⟩

theorem next_length_lt (h : s.finished = false) (hn : s.next.2.finished = false) :
    s.next.2.cursor.rest.length < s.cursor.rest.length := by
  rw [next_unfinished h] at hn ⊢
  rcases hr : s.cursor.readToken with ⟨item, d⟩
  rw [hr] at hn
  cases item with
  | error e => cases hn
  | ok t => exact Cursor.length_lt_of_token hr (of_decide_eq_false hn)

end TokenStream

namespace Scanner

/-- The fields tell of one place in the source. -/
structure Sound (s : Scanner) : Prop where
  within : s.index ≤ s.source.size
  current : s.current = s.source[s.index]?
  position : s.position = .behind (s.source.toList.take s.index)

/-- The stream over the characters that are left. -/
def stream (s : Scanner) : TokenStream := ⟨s.cursor, s.finished⟩

theorem ofSource_source (source : String) :
    (ofSource source).source.toList = Cursor.terminated source.toList := by
  unfold ofSource Cursor.terminated
  simp only [List.back?_toArray]
  split
  · rfl
  · simp

theorem sound_ofSource (source : String) : (ofSource source).Sound :=
  ⟨Nat.zero_le _, rfl, rfl⟩

theorem stream_ofSource (source : String) : (ofSource source).stream = .ofSource source := by
  rw [TokenStream.ofSource, Cursor.ofSource, ← ofSource_source]
  rfl

section

variable {s : Scanner}

theorem peek_eq : s.peek? = s.cursor.following? := by
  rw [peek?, Cursor.following?, cursor, List.tail_drop, List.head?_drop, Array.getElem?_toList]

theorem peek_of_rest {cs : List Char} (hr : s.cursor.rest = cs) : s.peek? = cs.tail.head? := by
  rw [peek_eq, Cursor.following?, hr]

theorem length_rest : s.cursor.rest.length = s.source.size - s.index := by
  simp [cursor]

@[simp] theorem forward_zero : s.forward 0 = s := rfl

theorem forward_succ (n : Nat) : s.forward (n + 1) = s.advance.forward n := rfl

theorem forward_forward (m n : Nat) : (s.forward m).forward n = s.forward (m + n) := by
  induction m generalizing s with
  | zero => rw [Nat.zero_add, forward_zero]
  | succ m ih => rw [forward_succ, ih, Nat.succ_add, forward_succ]

theorem advance_forward (n : Nat) : (s.forward n).advance = s.forward (n + 1) :=
  forward_forward n 1

theorem advance_unchanged : s.advance.source = s.source ∧ s.advance.finished = s.finished := by
  unfold advance
  split <;> exact ⟨rfl, rfl⟩

theorem forward_unchanged (n : Nat) :
    (s.forward n).source = s.source ∧ (s.forward n).finished = s.finished := by
  induction n generalizing s with
  | zero => exact ⟨rfl, rfl⟩
  | succ n ih =>
    obtain ⟨hs, hf⟩ := advance_unchanged (s := s)
    rw [forward_succ, ih.1, ih.2, hs, hf]
    exact ⟨rfl, rfl⟩

namespace Sound

variable (h : s.Sound)

include h

theorem current_eq : s.current = s.cursor.current? := by
  rw [h.current, Cursor.current?, cursor, List.head?_drop, Array.getElem?_toList]

theorem current_of_rest {cs : List Char} (hr : s.cursor.rest = cs) : s.current = cs.head? := by
  rw [h.current_eq, Cursor.current?, hr]

theorem advance_end (hr : s.cursor.rest = []) : s.advance = s := by
  simp only [advance, h.current_of_rest hr, List.head?_nil]

theorem advance_step {c : Char} {rest : List Char} (hr : s.cursor.rest = c :: rest) :
    s.advance.Sound ∧ s.advance.cursor = s.cursor.forward 1 := by
  have hc := h.current_of_rest hr
  have hlt : s.index < s.source.size := by
    have hl := length_rest (s := s)
    rw [hr, List.length_cons] at hl
    omega
  have htake : s.source.toList.take (s.index + 1) = s.source.toList.take s.index ++ [c] := by
    have hg := h.current.symm.trans hc
    rw [List.take_add_one, Array.getElem?_toList, hg]
    rfl
  -- The position moves by the character that the index moves by.
  have hposition : s.advance.position = .behind (s.source.toList.take (s.index + 1)) := by
    rw [htake, Position.behind_concat, ← h.position]
    simp only [advance, hc, List.head?_cons]
  have hadvance : s.advance = ⟨s.source, s.index + 1, s.source[s.index + 1]?,
      s.advance.position, s.finished⟩ := by
    simp only [advance, hc, List.head?_cons]
  refine ⟨?_, ?_⟩
  · rw [hadvance]
    exact ⟨hlt, rfl, hposition⟩
  · rw [hadvance]
    simp only [cursor, Cursor.forward, Cursor.mk.injEq, List.drop_drop, true_and]
    rw [hposition, h.position, List.take_add, Position.behind_append]

theorem advance_rest {c : Char} {rest : List Char} (hr : s.cursor.rest = c :: rest) :
    s.advance.cursor.rest = rest := by
  rw [(h.advance_step hr).2, Cursor.forward, hr, List.drop_one, List.tail_cons]

theorem forward (n : Nat) : (s.forward n).Sound ∧ (s.forward n).cursor = s.cursor.forward n := by
  induction n generalizing s with
  | zero => exact ⟨h, rfl⟩
  | succ n ih =>
    rw [forward_succ]
    cases hr : s.cursor.rest with
    | nil =>
      rw [h.advance_end hr]
      refine ⟨(ih h).1, (ih h).2.trans ?_⟩
      simp [Cursor.forward, hr]
    | cons c rest =>
      obtain ⟨hs, hc⟩ := h.advance_step hr
      refine ⟨(ih hs).1, (ih hs).2.trans ?_⟩
      rw [hc, Cursor.forward_forward, Nat.add_comm]

theorem index_forward {n : Nat} (hn : n ≤ s.cursor.rest.length) :
    (s.forward n).index = s.index + n := by
  obtain ⟨hs, hc⟩ := h.forward n
  have hl := length_rest (s := s.forward n)
  rw [hc, Cursor.length_forward, length_rest, (forward_unchanged n).1] at hl
  rw [length_rest] at hn
  have hw := hs.within
  have hw' := h.within
  rw [(forward_unchanged n).1] at hw
  omega

theorem slice_rest {n : Nat} (hn : n ≤ s.cursor.rest.length) :
    s.slice? s.index (s.index + n) = some (String.ofList (s.cursor.rest.take n)) := by
  rw [length_rest] at hn
  have hw := h.within
  rw [slice?, if_pos ⟨Nat.le_add_right _ _, by omega⟩, Array.toList_extract, cursor,
    List.extract_eq_take_drop, Nat.add_sub_cancel_left]

theorem passWhile_eq (p : Char → Bool) :
    s.passWhile p = s.forward (s.cursor.rest.takeWhile p).length := by
  generalize hr : s.cursor.rest = rest
  induction rest generalizing s with
  | nil =>
    have hc := h.current_of_rest hr
    rw [passWhile]
    split
    · rfl
    · simp_all
  | cons c rest ih =>
    have hc := h.current_of_rest hr
    rw [passWhile]
    split
    · simp_all
    · rename_i d hd
      cases hc.symm.trans hd
      rw [List.takeWhile_cons]
      split
      · rw [ih (h.advance_step hr).1 (h.advance_rest hr)]
        rfl
      · rfl

theorem reachWhile_eq (p : Char → Bool) (hne : s.cursor.rest ≠ []) :
    s.reachWhile p = some (s.forward (s.cursor.rest.tail.takeWhile p).length) := by
  obtain ⟨c, rest, hr⟩ := List.exists_cons_of_ne_nil hne
  rw [hr, List.tail_cons]
  clear hne
  induction rest generalizing s c with
  | nil =>
    have hp := peek_of_rest hr
    rw [reachWhile]
    split
    · rfl
    · simp_all
  | cons d rest ih =>
    have hc := h.current_of_rest hr
    have hp := peek_of_rest hr
    rw [reachWhile]
    split
    · simp_all
    · rename_i e he
      cases hp.symm.trans he
      rw [List.takeWhile_cons]
      split
      · split
        · simp_all
        · rw [ih (h.advance_step hr).1 d (h.advance_rest hr)]
          rfl
      · rfl

end Sound

/-- The outcome of scanning, as the rest of the source settles it. -/
def outcome (s : Scanner) : Except Fault Lexeme → Outcome
  | .ok l => (s.forward (l.spelling.length - 1)).found l.kind l.text
  | .error f => (s.forward f.offset).fail f.cause

theorem outcome_found {kind : Kind} (hk : kind ≠ .string) (c : Char) (cs : List Char) :
    s.outcome (.ok (ofChars kind (c :: cs))) =
      (s.forward cs.length).found kind (String.ofList (c :: cs)) := by
  rw [outcome, spelling_ofChars hk, List.length_cons, Nat.add_sub_cancel]
  rfl

theorem scanOperator_eq {c : Char} {rest : List Char} {single double : Kind}
    (hr : s.cursor.rest = c :: rest) (hs : single ≠ .string) (hd : double ≠ .string) :
    s.scanOperator c single double = s.outcome (.ok (operator c single double rest)) := by
  rw [scanOperator, operator, peek_of_rest hr, List.tail_cons]
  split
  · rw [outcome_found hd]
    rfl
  · rw [outcome_found hs]
    rfl

theorem scanNotEqual_eq {rest : List Char} (hr : s.cursor.rest = '!' :: rest) :
    s.scanNotEqual = s.outcome (Lexeme.scan ('!' :: rest)) := by
  rw [scanNotEqual, peek_of_rest hr, List.tail_cons, Lexeme.scan]
  split
  · rw [outcome_found (by decide)]
    rfl
  · rfl

namespace Sound

variable (h : s.Sound)

include h

theorem foundFrom_eq {n : Nat} (hn : n < s.cursor.rest.length) (kind : String → Kind) :
    (s.forward n).foundFrom s.index kind =
      (s.forward n).found (kind (String.ofList (s.cursor.rest.take (n + 1))))
        (String.ofList (s.cursor.rest.take (n + 1))) := by
  have hslice : (s.forward n).slice? s.index (s.index + (n + 1)) =
      s.slice? s.index (s.index + (n + 1)) := by
    rw [slice?, slice?, (forward_unchanged n).1]
  rw [foundFrom, h.index_forward (Nat.le_of_lt hn), Nat.add_assoc, hslice, h.slice_rest hn]
  rfl

theorem foundFrom_takeWhile {c : Char} {rest : List Char} (hr : s.cursor.rest = c :: rest)
    (p : Char → Bool) (kind : String → Kind) :
    (s.forward (rest.takeWhile p).length).foundFrom s.index kind =
      (s.forward (rest.takeWhile p).length).found (kind (String.ofList (c :: rest.takeWhile p)))
        (String.ofList (c :: rest.takeWhile p)) := by
  have hp := List.takeWhile_prefix (l := rest) p
  have hlt : (rest.takeWhile p).length < s.cursor.rest.length := by
    rw [hr, List.length_cons]
    exact Nat.lt_succ_of_le hp.length_le
  rw [h.foundFrom_eq hlt, hr, List.take_succ_cons, ← List.prefix_iff_eq_take.1 hp]

theorem scanWord_eq {c : Char} {rest : List Char} (hr : s.cursor.rest = c :: rest) :
    s.scanWord = s.outcome (.ok (word (c :: rest.takeWhile isAlphanumeric))) := by
  have hne : s.cursor.rest ≠ [] := by simp [hr]
  rw [scanWord, h.reachWhile_eq _ hne, hr, List.tail_cons, Option.bind_some,
    h.foundFrom_takeWhile hr, outcome, spelling_word, List.length_cons, Nat.add_sub_cancel]
  rfl

theorem scanString_eq {rest : List Char} (hr : s.cursor.rest = '"' :: rest) :
    s.scanString = s.outcome (Lexeme.scanString rest) := by
  have ht := (h.advance_step hr).1
  have hrest := h.advance_rest hr
  have hp := List.takeWhile_prefix (l := rest) isStringBody
  have hle : (rest.takeWhile isStringBody).length ≤ s.advance.cursor.rest.length := by
    rw [hrest]
    exact hp.length_le
  obtain ⟨hu, hend⟩ := ht.forward (rest.takeWhile isStringBody).length
  have hcurrent := hu.current_eq
  rw [hend, Cursor.current?, Cursor.forward, hrest, drop_takeWhile] at hcurrent
  have hslice : (s.advance.forward (rest.takeWhile isStringBody).length).slice? s.advance.index
      (s.advance.index + (rest.takeWhile isStringBody).length) =
      some (String.ofList (rest.takeWhile isStringBody)) := by
    have hs := ht.slice_rest hle
    rw [hrest, ← List.prefix_iff_eq_take.1 hp] at hs
    rw [← hs, slice?, slice?, (forward_unchanged _).1]
  have hbody : s.outcome (.ok (ofChars .string (rest.takeWhile isStringBody))) =
      (s.advance.forward (rest.takeWhile isStringBody).length).found .string
        (String.ofList (rest.takeWhile isStringBody)) := by
    rw [outcome, spelling_ofChars_string]
    simp [forward_succ]
  rw [scanString, ht.passWhile_eq, hrest]
  simp only [hcurrent, ht.index_forward hle, hslice, Option.bind_some]
  unfold Lexeme.scanString
  cases hd : rest.dropWhile isStringBody with
  | nil => rfl
  | cons d tail =>
    simp only [List.head?_cons]
    split
    · exact hbody.symm
    · rfl

theorem scanFraction_eq {front rest : List Char} {c : Char}
    (hr : s.cursor.rest = c :: (front ++ '.' :: rest)) :
    ((s.forward (front.length + 1)).reachWhile Char.isDigit).bind
        (fun t => t.foundFrom s.index fun _ => .number) =
      s.outcome (.ok (ofChars .number (c :: (front ++ '.' :: rest.takeWhile Char.isDigit)))) := by
  have hp : c :: (front ++ '.' :: rest.takeWhile Char.isDigit) <+: s.cursor.rest := by
    rw [hr, List.cons_prefix_cons, List.prefix_append_right_inj, List.cons_prefix_cons]
    exact ⟨rfl, rfl, List.takeWhile_prefix _⟩
  have hlen : (c :: (front ++ '.' :: rest.takeWhile Char.isDigit)).length =
      front.length + 1 + (rest.takeWhile Char.isDigit).length + 1 := by
    simp only [List.length_cons, List.length_append]
    omega
  have hlt := hp.length_le
  have htake := List.prefix_iff_eq_take.1 hp
  rw [hlen] at hlt htake
  obtain ⟨ht, hcur⟩ := h.forward (front.length + 1)
  have hrest : (s.forward (front.length + 1)).cursor.rest = '.' :: rest := by
    rw [hcur, Cursor.forward, hr, List.drop_succ_cons, List.drop_left]
  have hne : (s.forward (front.length + 1)).cursor.rest ≠ [] := by simp [hrest]
  rw [ht.reachWhile_eq _ hne, hrest, List.tail_cons, Option.bind_some, forward_forward,
    h.foundFrom_eq hlt, ← htake, outcome, spelling_ofChars (by decide), hlen,
    Nat.add_sub_cancel]
  rfl

theorem scanNumber_eq {c : Char} {rest : List Char} (hr : s.cursor.rest = c :: rest)
    (hc : c.isDigit = true) :
    s.scanNumber = s.outcome (Lexeme.scanNumber (c :: rest)) := by
  have hne : s.cursor.rest ≠ [] := by simp [hr]
  have hwhole := h.foundFrom_takeWhile hr Char.isDigit fun _ => .number
  have hpeek := peek_eq (s := s.forward (rest.takeWhile Char.isDigit).length)
  rw [(h.forward _).2, Cursor.following?, Cursor.forward, hr, List.tail_drop, List.drop_succ_cons,
    drop_takeWhile] at hpeek
  rw [scanNumber, h.reachWhile_eq _ hne, hr, List.tail_cons, Option.bind_some, hwhole,
    Lexeme.scanNumber, List.takeWhile_cons_of_pos hc, List.dropWhile_cons_of_pos hc, hpeek]
  cases hd : rest.dropWhile Char.isDigit with
  | nil => exact (outcome_found (by decide) c _).symm
  | cons d tail =>
    -- Behind a point there has to be a digit, and the error stands on the point if there is none.
    by_cases hdot : d = '.'
    · subst hdot
      have hsplit : rest = rest.takeWhile Char.isDigit ++ '.' :: tail := by
        rw [← hd, List.takeWhile_append_dropWhile]
      have hnext := peek_eq (s := s.forward ((rest.takeWhile Char.isDigit).length + 1))
      rw [(h.forward _).2, Cursor.following?, Cursor.forward, hr, List.tail_drop,
        List.drop_succ_cons, ← List.drop_drop, drop_takeWhile, hd, List.drop_one,
        List.tail_cons] at hnext
      have hfraction := h.scanFraction_eq (hr.trans (congrArg (c :: ·) hsplit))
      simp only [List.head?_cons, if_true, advance_forward, hnext, List.length_cons]
      cases tail with
      | nil => rfl
      | cons e tail =>
        by_cases he : e.isDigit = true
        · rw [List.takeWhile_cons_of_pos he] at hfraction ⊢
          simpa only [List.head?_cons, Option.any_some, he, if_true, List.cons_append]
            using hfraction
        · rw [List.takeWhile_cons_of_neg he]
          simp only [List.head?_cons, Option.any_some, he, Bool.false_eq_true, if_false]
          rfl
    · have hne' : some d ≠ some '.' := fun hs => hdot (Option.some.inj hs)
      rw [List.head?_cons, if_neg hne']
      split
      · rename_i hs
        cases hs
        exact absurd rfl hdot
      · exact (outcome_found (by decide) c _).symm

theorem scan_eq : s.scan = s.outcome (Lexeme.scan s.cursor.rest) := by
  cases hr : s.cursor.rest with
  | nil =>
    rw [scan, h.current_of_rest hr]
    rfl
  | cons c rest =>
    rw [scan, h.current_of_rest hr]
    simp only [List.head?_cons]
    split
    · rfl
    · rfl
    · rfl
    · rfl
    · rfl
    · exact scanOperator_eq hr (by decide) (by decide)
    · exact scanOperator_eq hr (by decide) (by decide)
    · exact scanOperator_eq hr (by decide) (by decide)
    · exact scanNotEqual_eq hr
    · exact h.scanString_eq hr
    · rw [Lexeme.scan]
      · split
        · exact h.scanNumber_eq hr ‹_›
        · split
          · exact h.scanWord_eq hr
          · rfl
      all_goals assumption

end Sound

theorem drain_none {t : Scanner} (hn : s.next = some (none, t)) : s.drain = some ([], t) := by
  rw [drain]
  split <;> simp_all

theorem drain_some {t : Scanner} {item : Item} (hn : s.next = some (some item, t))
    (hlt : t.pending < s.pending) :
    s.drain = t.drain.map fun (items, u) => (item :: items, u) := by
  rw [drain]
  split <;> simp_all

/-- A scanner that has come from another by going on in the same source. -/
structure Ahead (s t : Scanner) : Prop where
  sound : t.Sound
  source : t.source = s.source
  index : s.index ≤ t.index

theorem Ahead.trans {t u : Scanner} (h : Ahead s t) (h' : Ahead t u) : Ahead s u :=
  ⟨h'.sound, h'.source.trans h.source, Nat.le_trans h.index h'.index⟩

namespace Sound

variable (h : s.Sound)

include h

theorem ahead_refl : Ahead s s := ⟨h, rfl, Nat.le_refl _⟩

theorem ahead_forward (n : Nat) : Ahead s (s.forward n) := by
  obtain ⟨hs, hc⟩ := h.forward n
  refine ⟨hs, (forward_unchanged n).1, ?_⟩
  have hl := length_rest (s := s.forward n)
  rw [hc, Cursor.length_forward, length_rest, (forward_unchanged n).1] at hl
  have hw := h.within
  omega

theorem skipGap_eq : s.skipGap = s.forward (gap s.cursor.rest).length := by
  obtain ⟨hs, hc⟩ := h.forward (s.cursor.rest.takeWhile isBlank).length
  have hrest : (s.forward (s.cursor.rest.takeWhile isBlank).length).cursor.rest =
      s.cursor.rest.dropWhile isBlank := by
    rw [hc, Cursor.forward, drop_takeWhile]
  have hcurrent := hs.current_of_rest hrest
  rw [skipGap, h.passWhile_eq, hs.passWhile_eq, hcurrent, hrest, gap, List.length_append,
    ← forward_forward]
  unfold comment
  split
  · rename_i hh
    obtain ⟨tail, ht⟩ := List.head?_eq_some_iff.1 hh
    rw [ht]
    rfl
  · split
    · simp_all
    · rfl

theorem cursor_behind {l : Lexeme} (hl : Lexeme.scan s.cursor.rest = .ok l) :
    ((s.forward (l.spelling.length - 1)).advance).cursor =
      s.cursor.forward l.spelling.length := by
  rw [advance_forward, (h.forward _).2]
  by_cases hk : l.kind = .eof
  · simp [Cursor.forward, scan_end hl hk]
  · have hpos := List.length_pos_iff.2 ((scan_spelling hl).2 hk)
    rw [Nat.sub_add_cancel hpos]

theorem readToken_eq : ∃ n, s.readToken = some (s.cursor.readToken.1, s.forward n) ∧
    s.cursor.readToken.2 = (s.forward n).cursor := by
  obtain ⟨hs, hc⟩ := h.forward (gap s.cursor.rest).length
  have hgap : (s.forward (gap s.cursor.rest).length).cursor = s.cursor.skipGap := hc
  rw [readToken, h.skipGap_eq, Cursor.readToken, ← hgap]
  generalize gap s.cursor.rest = front at hs
  rw [hs.scan_eq]
  cases hl : Lexeme.scan (s.forward front.length).cursor.rest with
  | ok l =>
    rw [Cursor.readLexeme_ok hl, ← hs.cursor_behind hl, advance_forward, forward_forward]
    exact ⟨_, congrArg some (Prod.ext rfl ((advance_forward _).trans (forward_forward _ _))), rfl⟩
  | error f =>
    rw [Cursor.readLexeme_error hl, ← (hs.forward f.offset).2]
    refine ⟨front.length + f.offset, ?_, ?_⟩
    · rw [← forward_forward]
      rfl
    · rw [forward_forward]

theorem readToken_stream : ∃ t, s.readToken = some (s.stream.readToken.1, t) ∧ Ahead s t ∧
    t.stream = s.stream.readToken.2 := by
  obtain ⟨n, hr, hc⟩ := h.readToken_eq
  refine ⟨_, hr, h.ahead_forward n, ?_⟩
  rw [stream, (forward_unchanged n).2, ← hc]
  rfl

theorem next_stream : ∃ t, s.next = some (s.stream.next.1, t) ∧ Ahead s t ∧
    t.stream = s.stream.next.2 := by
  cases hf : s.finished with
  | true =>
    rw [TokenStream.next_finished (s := s.stream) hf, next, if_pos hf]
    exact ⟨s, rfl, h.ahead_refl, rfl⟩
  | false =>
    obtain ⟨t, hr, ht, hs⟩ := h.readToken_stream
    rw [TokenStream.next_unfinished (s := s.stream) hf, next, if_neg (Bool.eq_false_iff.1 hf), hr]
    refine ⟨_, rfl, ⟨⟨ht.sound.within, ht.sound.current, ht.sound.position⟩, ht.source, ht.index⟩,
      ?_⟩
    exact congrArg (TokenStream.mk · _) (congrArg TokenStream.cursor hs)

theorem left_eq : s.left = if s.cursor.rest = [] then 0 else s.cursor.rest.length + 1 := by
  cases hr : s.cursor.rest with
  | nil => simp only [left, h.current_of_rest hr, List.head?_nil, if_true]
  | cons c rest =>
    simp only [left, h.current_of_rest hr, List.head?_cons, ← length_rest, hr, reduceCtorEq,
      if_false]

theorem pending_lt {t : Scanner} (ht : t.Sound) (hf : s.finished = false)
    (hlt : t.finished = false → t.cursor.rest.length < s.cursor.rest.length) :
    t.pending < s.pending := by
  rw [pending, pending, hf]
  cases hft : t.finished with
  | true => exact Nat.succ_pos _
  | false =>
    have hlt := hlt hft
    have hne : s.cursor.rest ≠ [] := List.length_pos_iff.1 (Nat.zero_lt_of_lt hlt)
    rw [if_neg Bool.false_ne_true, if_neg Bool.false_ne_true, h.left_eq, ht.left_eq, if_neg hne]
    split <;> omega

theorem drain_stream : ∃ t, s.drain = some (s.stream.remaining.items, t) ∧ Ahead s t ∧
    t.stream = s.stream.drained := by
  -- Every item leaves less pending, the last one too, so each round is a step and the rest.
  generalize hn : s.pending = n
  induction n using Nat.strongRecOn generalizing s with
  | ind n ih =>
    cases hf : s.finished with
    | true =>
      have hs : s.stream.finished = true := hf
      have hnext : s.next = some (none, s) := if_pos hf
      refine ⟨s, ?_, h.ahead_refl, (TokenStream.exhausted_of_finished hs).drained.symm⟩
      rw [drain_none hnext, TokenStream.remaining_finished hs]
      rfl
    | false =>
      have hs : s.stream.finished = false := hf
      obtain ⟨t, hnext, ht, hstream⟩ := h.next_stream
      have hlt : t.pending < s.pending := by
        refine h.pending_lt ht.sound hf fun hft => ?_
        have hft : t.stream.finished = false := hft
        rw [hstream] at hft
        have hrest := TokenStream.next_length_lt hs hft
        rwa [← hstream] at hrest
      obtain ⟨hitems, hdrained⟩ := TokenStream.remaining_next hs
      obtain ⟨u, hu, hau, hsu⟩ := ih _ (hn ▸ hlt) ht.sound rfl
      rw [hstream] at hu hsu
      rw [TokenStream.next_unfinished hs] at hnext
      rw [drain_some hnext hlt, hu, hitems, hdrained]
      exact ⟨u, rfl, ht.trans hau, hsu⟩

theorem tokenize_stream : ∃ t, s.tokenize = some (s.stream.remaining.result, t) ∧ Ahead s t ∧
    t.stream = s.stream.drained := by
  obtain ⟨t, hd, ht, hs⟩ := h.drain_stream
  rw [tokenize, hd, ← Lexing.mapM_items]
  exact ⟨t, rfl, ht, hs⟩

theorem count_stream : ∃ t, s.count = some (s.stream.remaining.count, t) ∧ Ahead s t ∧
    t.stream = s.stream.drained := by
  obtain ⟨t, hd, ht, hs⟩ := h.drain_stream
  rw [count, hd, ← Lexing.length_items]
  exact ⟨t, rfl, ht, hs⟩

end Sound

end

open TokenStream (Step)

/-- Every operation has an outcome, and a stream over the rest of the source does the same. -/
theorem Sound.perform {s : Scanner} (h : s.Sound) (step : Step) :
    ∃ t, s.perform step = some t ∧ Ahead s t ∧ t.stream = step.run s.stream := by
  cases step with
  | look => exact ⟨s, rfl, h.ahead_refl, rfl⟩
  | skip n =>
    refine ⟨_, rfl, h.ahead_forward n, ?_⟩
    rw [stream, (h.forward n).2, (forward_unchanged n).2]
    rfl
  | readToken =>
    obtain ⟨t, hr, ht⟩ := h.readToken_stream
    exact ⟨t, congrArg (Option.map Prod.snd) hr, ht⟩
  | next =>
    obtain ⟨t, hn, ht⟩ := h.next_stream
    exact ⟨t, congrArg (Option.map Prod.snd) hn, ht⟩
  | tokenize =>
    obtain ⟨t, hr, ht⟩ := h.tokenize_stream
    exact ⟨t, congrArg (Option.map Prod.snd) hr, ht⟩
  | count =>
    obtain ⟨t, hr, ht⟩ := h.count_stream
    exact ⟨t, congrArg (Option.map Prod.snd) hr, ht⟩

theorem Sound.script {s : Scanner} (h : s.Sound) (steps : List Step) :
    ∃ t, s.script steps = some t ∧ Ahead s t ∧ t.stream = s.stream.script steps := by
  induction steps generalizing s with
  | nil => exact ⟨s, rfl, h.ahead_refl, rfl⟩
  | cons step steps ih =>
    obtain ⟨t, hp, ht, hs⟩ := h.perform step
    obtain ⟨u, hu, hau, hsu⟩ := ih ht.sound
    refine ⟨u, ?_, ht.trans hau, ?_⟩
    · rw [Scanner.script, hp, Option.bind_some, hu]
    · rw [hsu, hs]
      rfl

/-- What a scanner stores over a text, as the index settles it. -/
structure StandsIn (s : Scanner) (text : List Char) : Prop where
  source : s.source.toList = text
  within : s.index ≤ text.length
  current : s.current = text[s.index]?
  ended : s.current = none ↔ s.index = text.length
  line : s.position.line = 1 + (text.take s.index).count '\n'
  column : s.position.column = 1 + ((text.take s.index).reverse.takeWhile (· ≠ '\n')).length

theorem Sound.standsIn {s : Scanner} (h : s.Sound) : s.StandsIn s.source.toList where
  source := rfl
  within := h.within
  current := h.current.trans Array.getElem?_toList.symm
  ended := by
    rw [h.current, Array.getElem?_eq_none_iff, Array.length_toList]
    exact ⟨Nat.le_antisymm h.within, Nat.le_of_eq ∘ Eq.symm⟩
  line := congrArg Position.line h.position
  column := congrArg Position.column h.position

/-- Every script has an outcome and so has every operation after it: no text is taken out of the
source but between two indices that it has, and no loop comes to a stop where it should go on. The
source stays what it was and ends in a line feed, the fields tell of one place in it, and no
operation leads back. -/
theorem script_standsIn (source : String) (steps : List Step) (step : Step) :
    (Cursor.terminated source.toList).getLast? = some '\n' ∧
      ∃ s t, (ofSource source).script steps = some s ∧ s.perform step = some t ∧
        s.StandsIn (Cursor.terminated source.toList) ∧
        t.StandsIn (Cursor.terminated source.toList) ∧ s.index ≤ t.index := by
  obtain ⟨s, hs, has, -⟩ := (sound_ofSource source).script steps
  obtain ⟨t, ht, hat, -⟩ := has.sound.perform step
  have hsource : s.source.toList = Cursor.terminated source.toList := by
    rw [has.source, ofSource_source]
  refine ⟨Cursor.terminated_getLast? _, s, t, hs, ht, ?_, ?_, hat.index⟩
  · exact hsource ▸ has.sound.standsIn
  · rw [← hsource, ← hat.source]
    exact hat.sound.standsIn

end Scanner

end TeenyFront
