import TeenyFront.Proofs.Lexing

/-!
# Reading line by line

Neither a gap nor a lexeme reaches beyond a line feed, so what stands behind a line feed does not
matter to what is read in front of it. A source ends in a line feed; a text behind it is read as it
would be alone, only further down.
-/

set_option autoImplicit false

namespace TeenyFront

open Text

/-- A text that is empty or ends in a line feed. -/
def Ended (cs : List Char) : Prop := ∀ c, cs.getLast? = some c → c = '\n'

namespace Ended

theorem terminated (source : List Char) : Ended (Cursor.terminated source) := by
  intro c hc
  unfold Cursor.terminated at hc
  split at hc
  · simp_all
  · simpa using hc.symm

theorem drop {cs : List Char} (h : Ended cs) (n : Nat) : Ended (cs.drop n) := by
  intro c hc
  rw [List.getLast?_drop] at hc
  split at hc
  · cases hc
  · exact h c hc

theorem mem {cs : List Char} (h : Ended cs) (hne : cs ≠ []) : '\n' ∈ cs := by
  obtain ⟨c, hc⟩ := Option.isSome_iff_exists.1 (List.getLast?_isSome.2 hne)
  rw [← h c hc]
  exact List.mem_of_getLast? hc

end Ended

namespace Lexeme

theorem takeWhile_line {p : Char → Bool} (hp : p '\n' = false) (cs : List Char) :
    '\n' ∉ cs.takeWhile p := by
  intro h
  rw [List.all_eq_true.1 List.all_takeWhile _ h] at hp
  cases hp

section

variable {p : Char → Bool} {cs : List Char} (h : '\n' ∈ cs) (hp : p '\n' = false)

include h hp

theorem takeWhile_append_line (ds : List Char) : (cs ++ ds).takeWhile p = cs.takeWhile p := by
  rw [List.takeWhile_append, if_neg]
  intro hl
  rw [← (List.takeWhile_prefix p).eq_of_length hl] at h
  exact takeWhile_line hp cs h

theorem dropWhile_append_line (ds : List Char) :
    (cs ++ ds).dropWhile p = cs.dropWhile p ++ ds := by
  have hc := List.takeWhile_append_dropWhile (p := p) (l := cs ++ ds)
  rw [takeWhile_append_line h hp] at hc
  conv at hc => rhs; rw [← List.takeWhile_append_dropWhile (p := p) (l := cs), List.append_assoc]
  exact List.append_cancel_left hc

theorem mem_dropWhile_line : '\n' ∈ cs.dropWhile p := by
  rw [← List.takeWhile_append_dropWhile (p := p) (l := cs), List.mem_append] at h
  exact h.resolve_left (takeWhile_line hp cs)

end

theorem comment_cases (cs : List Char) : comment cs = [] ∨
    ∃ rest, cs = '#' :: rest ∧ comment cs = '#' :: rest.takeWhile (· ≠ '\n') := by
  unfold comment
  split
  · exact .inr ⟨_, rfl, rfl⟩
  · exact .inl rfl

theorem comment_append {cs : List Char} (h : '\n' ∈ cs) (ds : List Char) :
    comment (cs ++ ds) = comment cs := by
  cases cs with
  | nil => cases h
  | cons c rest =>
    by_cases hc : c = '#'
    · subst hc
      have hr : '\n' ∈ rest := by simpa using h
      exact congrArg ('#' :: ·) (takeWhile_append_line hr (by decide) ds)
    · simp [comment, hc]

theorem gap_append {cs : List Char} (h : '\n' ∈ cs) (ds : List Char) :
    gap (cs ++ ds) = gap cs := by
  have hb : isBlank '\n' = false := by decide
  rw [gap, takeWhile_append_line h hb, dropWhile_append_line h hb,
    comment_append (mem_dropWhile_line h hb), gap]

theorem gap_append_drop (cs : List Char) : gap cs ++ cs.drop (gap cs).length = cs :=
  List.prefix_iff_eq_append.1 (gap_isPrefix cs)

theorem not_mem_comment (cs : List Char) : '\n' ∉ comment cs := by
  intro h
  rcases comment_cases cs with hc | ⟨rest, -, hc⟩
  · rw [hc] at h
    cases h
  · rw [hc, List.mem_cons] at h
    exact takeWhile_line (by decide) rest (h.resolve_left (by decide))

theorem not_mem_gap (cs : List Char) : '\n' ∉ gap cs := by
  intro h
  rw [gap, List.mem_append] at h
  exact takeWhile_line (by decide) cs (h.resolve_right (not_mem_comment _))

theorem mem_behind_gap {cs : List Char} (h : '\n' ∈ cs) : '\n' ∈ cs.drop (gap cs).length := by
  rw [← gap_append_drop cs, List.mem_append] at h
  exact h.resolve_left (not_mem_gap cs)

theorem scanString_append {rest : List Char} (h : '\n' ∈ rest) (ds : List Char) :
    scanString (rest ++ ds) = scanString rest := by
  have hb : isStringBody '\n' = false := by decide
  have hd := mem_dropWhile_line h hb
  simp only [scanString, takeWhile_append_line h hb, dropWhile_append_line h hb]
  cases hr : rest.dropWhile isStringBody with
  | nil =>
    rw [hr] at hd
    cases hd
  | cons c tail => rfl

theorem scanNumber_append {cs : List Char} (h : '\n' ∈ cs) (ds : List Char) :
    scanNumber (cs ++ ds) = scanNumber cs := by
  have hn : Char.isDigit '\n' = false := by decide
  have hd := mem_dropWhile_line h hn
  simp only [scanNumber, takeWhile_append_line h hn, dropWhile_append_line h hn]
  cases hr : cs.dropWhile Char.isDigit with
  | nil =>
    rw [hr] at hd
    cases hd
  | cons c tail =>
    by_cases hc : c = '.'
    · subst hc
      rw [hr] at hd
      have ht : '\n' ∈ tail := by simpa using hd
      simp only [List.cons_append, takeWhile_append_line ht hn]
    · simp [hc]

/-- What is scanned depends on the text up to the first line feed. -/
theorem scan_append {cs : List Char} (h : '\n' ∈ cs) (ds : List Char) :
    scan (cs ++ ds) = scan cs := by
  cases cs with
  | nil => cases h
  | cons c rest =>
    by_cases hc : c = '\n'
    · subst hc
      rfl
    · have hr : '\n' ∈ rest := by simpa [Ne.symm hc] using h
      have hh : (rest ++ ds).head? = rest.head? := by
        cases rest with
        | nil => cases hr
        | cons d rest => rfl
      have ha : Text.isAlphanumeric '\n' = false := by decide
      have hn : ∀ d, scanNumber (d :: (rest ++ ds)) = scanNumber (d :: rest) := fun d =>
        scanNumber_append (List.mem_cons_of_mem d hr) ds
      rw [List.cons_append]
      unfold scan
      simp only [operator, hh, scanString_append hr, hn, takeWhile_append_line hr ha]

theorem scanString_fault {rest : List Char} {f : Fault} (h : scanString rest = .error f) :
    f.offset = (rest.takeWhile isStringBody).length + 1 := by
  simp only [scanString] at h
  split at h
  · cases h
    rfl
  · split at h
    · cases h
    · cases h
      rfl

theorem scanNumber_fault {cs : List Char} {f : Fault} (h : scanNumber cs = .error f) :
    f.offset = (cs.takeWhile Char.isDigit).length := by
  simp only [scanNumber] at h
  split at h
  · split at h
    · cases h
      rfl
    · cases h
  · cases h

theorem scan_fault {cs : List Char} {f : Fault} (h : scan cs = .error f) :
    ∃ front, front <+: cs ∧ front.length = f.offset ∧ '\n' ∉ front := by
  cases scanned h with
  | exclamation | stray => exact ⟨[], List.nil_prefix, rfl, List.not_mem_nil⟩
  | @string rest _ hr =>
    refine ⟨'"' :: rest.takeWhile isStringBody, ?_, (scanString_fault hr).symm, ?_⟩
    · exact List.cons_prefix_cons.2 ⟨rfl, List.takeWhile_prefix _⟩
    · exact List.not_mem_cons_of_ne_of_not_mem (by decide) (takeWhile_line (by decide) rest)
  | number hd hr =>
    exact ⟨_, List.takeWhile_prefix _, (scanNumber_fault hr).symm, takeWhile_line (by decide) _⟩

theorem scan_offset {cs : List Char} {f : Fault} (h : scan cs = .error f) :
    f.offset ≤ cs.length := by
  obtain ⟨front, hp, hl, -⟩ := scan_fault h
  rw [← hl]
  exact hp.length_le

end Lexeme

namespace Cursor

open Lexeme

theorem forward_of_append {c : Cursor} {cs rest : List Char} (h : c.rest = cs ++ rest) :
    c.forward cs.length = ⟨rest, c.position.after cs⟩ := by
  simp [forward, h]

theorem skipGap_eq (c : Cursor) :
    c.skipGap = ⟨c.rest.drop (gap c.rest).length, c.position.after (gap c.rest)⟩ :=
  forward_of_append (gap_append_drop c.rest).symm

def followedBy (c : Cursor) (ds : List Char) : Cursor := ⟨c.rest ++ ds, c.position⟩

theorem forward_followedBy {c : Cursor} {n : Nat} (h : n ≤ c.rest.length) (ds : List Char) :
    (c.followedBy ds).forward n = (c.forward n).followedBy ds := by
  simp [forward, followedBy, List.drop_append_of_le_length h, List.take_append_of_le_length h]

theorem skipGap_followedBy {c : Cursor} (h : '\n' ∈ c.rest) (ds : List Char) :
    (c.followedBy ds).skipGap = c.skipGap.followedBy ds := by
  have hg : gap (c.followedBy ds).rest = gap c.rest := gap_append h ds
  rw [skipGap, hg, forward_followedBy (gap_isPrefix c.rest).length_le]
  rfl

theorem readLexeme_followedBy {c : Cursor} (h : '\n' ∈ c.rest) (ds : List Char) :
    (c.followedBy ds).readLexeme = (c.readLexeme.1, c.readLexeme.2.followedBy ds) := by
  have hs : scan (c.followedBy ds).rest = scan c.rest := scan_append h ds
  cases hc : scan c.rest with
  | ok l =>
    rw [readLexeme_ok hc, readLexeme_ok (hs.trans hc),
      forward_followedBy (scan_spelling hc).1.length_le]
    rfl
  | error f =>
    rw [readLexeme_error hc, readLexeme_error (hs.trans hc), forward_followedBy (scan_offset hc)]
    rfl

theorem readToken_followedBy {c : Cursor} (h : '\n' ∈ c.rest) (ds : List Char) :
    (c.followedBy ds).readToken = (c.readToken.1, c.readToken.2.followedBy ds) := by
  have hg : '\n' ∈ c.skipGap.rest := mem_behind_gap h
  rw [readToken, skipGap_followedBy h, readLexeme_followedBy hg]
  rfl

theorem readToken_forward (c : Cursor) : ∃ n, c.readToken.2 = c.forward n := by
  cases hs : scan c.skipGap.rest with
  | ok l =>
    rw [readToken, readLexeme_ok hs, skipGap, forward_forward]
    exact ⟨_, rfl⟩
  | error f =>
    rw [readToken, readLexeme_error hs, skipGap, forward_forward]
    exact ⟨_, rfl⟩

section

variable {c d : Cursor} {r : Except LexicalError Token} (h : c.readToken = (r, d))

include h

theorem ended_readToken (he : Ended c.rest) : Ended d.rest := by
  obtain ⟨n, hn⟩ := readToken_forward c
  rw [h] at hn
  subst hn
  exact he.drop n

theorem after_rest_readToken : d.position.after d.rest = c.position.after c.rest := by
  obtain ⟨n, hn⟩ := readToken_forward c
  rw [h] at hn
  subst hn
  simp [forward, ← Position.after_append]

end

theorem mem_of_token {c d : Cursor} {t : Token} (he : Ended c.rest)
    (h : c.readToken = (.ok t, d)) (ht : t.kind ≠ .eof) : '\n' ∈ c.rest := by
  refine he.mem fun hc => ht ?_
  rw [readToken_nil hc] at h
  cases h
  rfl

theorem rest_of_end {c d : Cursor} {t : Token} (he : Ended c.rest)
    (h : c.readToken = (.ok t, d)) (ht : t.kind = .eof) : c.rest = [] := by
  by_cases hc : c.rest = []
  · exact hc
  · have hm : '\n' ∈ c.skipGap.rest := mem_behind_gap (he.mem hc)
    cases hs : scan c.skipGap.rest with
    | error f =>
      rw [readToken, readLexeme_error hs] at h
      cases h
    | ok l =>
      rw [readToken, readLexeme_ok hs] at h
      cases h
      rw [scan_end hs ht] at hm
      cases hm

/-- Whole lines that can be lexed are lexed first, up to their end token, and then the text behind
them is. -/
theorem lex_followedBy {c : Cursor} (he : Ended c.rest) (h : c.lex.error? = none)
    (ds : List Char) : ∃ ts t, c.lex.tokens = ts ++ [t] ∧ t.kind = .eof ∧
      (c.followedBy ds).lex.tokens = ts ++ (Cursor.mk ds (c.position.after c.rest)).lex.tokens ∧
      (c.followedBy ds).lex.error? = (Cursor.mk ds (c.position.after c.rest)).lex.error? := by
  induction c using lex_induction with
  | error c e d hr =>
    rw [lex_error hr] at h
    cases h
  | last c t d hr ht =>
    have hc := rest_of_end he hr ht
    refine ⟨[], t, by rw [lex_end hr ht]; rfl, ht, ?_⟩
    simp [followedBy, hc]
  | token c t d hr ht ih =>
    have hm := mem_of_token he hr ht
    have hf : (c.followedBy ds).readToken = (.ok t, d.followedBy ds) := by
      rw [readToken_followedBy hm, hr]
    rw [lex_token hr ht] at h ⊢
    rw [lex_token hf ht]
    obtain ⟨ts, u, hts, hu, htokens, herror⟩ := ih (ended_readToken hr he) h
    rw [after_rest_readToken hr] at htokens herror
    exact ⟨t :: ts, u, by simp [hts], hu, by simp [htokens], herror⟩

/-- An error within whole lines is met before the text behind them is. -/
theorem lex_followedBy_error {c : Cursor} (he : Ended c.rest) {e : LexicalError}
    (h : c.lex.error? = some e) (ds : List Char) :
    (c.followedBy ds).lex.tokens = c.lex.tokens ∧ (c.followedBy ds).lex.error? = some e := by
  induction c using lex_induction with
  | error c e' d hr =>
    have hm : '\n' ∈ c.rest := by
      apply he.mem
      intro hc
      rw [readToken_nil hc] at hr
      cases hr
    have hf : (c.followedBy ds).readToken = (.error e', d.followedBy ds) := by
      rw [readToken_followedBy hm, hr]
    rw [lex_error hr] at h ⊢
    rw [lex_error hf]
    exact ⟨rfl, h⟩
  | last c t d hr ht =>
    rw [lex_end hr ht] at h
    cases h
  | token c t d hr ht ih =>
    have hm := mem_of_token he hr ht
    have hf : (c.followedBy ds).readToken = (.ok t, d.followedBy ds) := by
      rw [readToken_followedBy hm, hr]
    rw [lex_token hr ht] at h ⊢
    rw [lex_token hf ht]
    obtain ⟨htokens, herror⟩ := ih (ended_readToken hr he) h
    exact ⟨congrArg (t :: ·) htokens, herror⟩

end Cursor

/-!
Where a text begins does not matter to how it is read, only to the positions that are met. So a
change of positions that goes along with the characters goes along with reading.
-/

namespace Position

/-- The change takes along every position that a text leads to from `p`. -/
def Carries (f : Position → Position) (p : Position) : Prop :=
  ∀ cs, (f p).after cs = f (p.after cs)

theorem Carries.after {f : Position → Position} {p : Position} (h : Carries f p)
    (cs : List Char) : Carries f (p.after cs) := by
  intro ds
  rw [← h cs, ← after_append, ← after_append, h]

end Position

def Token.mapPosition (f : Position → Position) (t : Token) : Token :=
  ⟨t.kind, t.text, f t.position⟩

def LexicalError.mapPosition (f : Position → Position) (e : LexicalError) : LexicalError :=
  ⟨e.cause, f e.position⟩

namespace Cursor

open Lexeme

def mapPosition (f : Position → Position) (c : Cursor) : Cursor := ⟨c.rest, f c.position⟩

section

variable {f : Position → Position} {c : Cursor} (h : Position.Carries f c.position)

include h

theorem carries_forward (n : Nat) : Position.Carries f (c.forward n).position := h.after _

theorem carries_readToken : Position.Carries f c.readToken.2.position := by
  obtain ⟨n, hn⟩ := readToken_forward c
  rw [hn]
  exact carries_forward h n

theorem forward_mapPosition (n : Nat) :
    (c.mapPosition f).forward n = (c.forward n).mapPosition f :=
  congrArg (Cursor.mk _) (h _)

theorem readLexeme_mapPosition : (c.mapPosition f).readLexeme =
    ((c.readLexeme.1.map (Token.mapPosition f)).mapError (LexicalError.mapPosition f),
      c.readLexeme.2.mapPosition f) := by
  have hr : (c.mapPosition f).rest = c.rest := rfl
  cases hs : scan c.rest with
  | ok l =>
    rw [readLexeme_ok hs, readLexeme_ok (hr ▸ hs), forward_mapPosition h]
    rfl
  | error e =>
    rw [readLexeme_error hs, readLexeme_error (hr ▸ hs), forward_mapPosition h]
    rfl

theorem readToken_mapPosition : (c.mapPosition f).readToken =
    ((c.readToken.1.map (Token.mapPosition f)).mapError (LexicalError.mapPosition f),
      c.readToken.2.mapPosition f) := by
  have hg : (c.mapPosition f).skipGap = c.skipGap.mapPosition f := forward_mapPosition h _
  rw [readToken, hg, readLexeme_mapPosition (c := c.skipGap) (carries_forward h _)]
  rfl

end

end Cursor

/-!
Further down the source the same tokens and errors are met, on later lines.
-/

namespace Position

def down (k : Nat) (p : Position) : Position := ⟨p.line + k, p.column⟩

theorem next_down (k : Nat) (p : Position) (c : Char) : (p.down k).next c = (p.next c).down k := by
  unfold next down
  split
  · simp
    omega
  · rfl

theorem after_down (k : Nat) (p : Position) (cs : List Char) :
    (p.down k).after cs = (p.after cs).down k := by
  induction cs generalizing p with
  | nil => rfl
  | cons c cs ih => rw [after_cons, after_cons, next_down, ih]

/-- The position behind a text: a line more than it has line feeds, and a column more than there
are characters behind the last of them. -/
def behind (cs : List Char) : Position :=
  ⟨1 + cs.count '\n', 1 + (cs.reverse.takeWhile (· ≠ '\n')).length⟩

theorem behind_concat (cs : List Char) (c : Char) : behind (cs ++ [c]) = (behind cs).next c := by
  unfold behind next
  by_cases hc : c = '\n'
  · subst hc
    simp
    omega
  · simp [hc]
    omega

theorem start_after (cs : List Char) : start.after cs = behind cs := by
  rw [← cs.reverse_reverse]
  induction cs.reverse with
  | nil => rfl
  | cons c cs ih => rw [List.reverse_cons, after_append, ih, behind_concat]; rfl

theorem behind_append (cs ds : List Char) : behind (cs ++ ds) = (behind cs).after ds := by
  rw [← start_after, ← start_after, after_append]

theorem behind_line {cs : List Char} (h : cs.getLast? = some '\n') :
    behind cs = start.down (cs.count '\n') := by
  obtain ⟨ds, rfl⟩ := List.getLast?_eq_some_iff.1 h
  simp [behind, down, start]

end Position

def Token.down (k : Nat) (t : Token) : Token := ⟨t.kind, t.text, t.position.down k⟩

def LexicalError.down (k : Nat) (e : LexicalError) : LexicalError := ⟨e.cause, e.position.down k⟩

namespace Cursor

def down (k : Nat) (c : Cursor) : Cursor := ⟨c.rest, c.position.down k⟩

theorem readToken_down (k : Nat) (c : Cursor) : (c.down k).readToken =
    ((c.readToken.1.map (Token.down k)).mapError (LexicalError.down k), c.readToken.2.down k) :=
  readToken_mapPosition (Position.after_down k c.position)

end Cursor

end TeenyFront
