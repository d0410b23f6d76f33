import Mathlib.Data.List.Chain
import TeenyFront.Proofs.Layout

/-!
# Rendering

Lexemes are rendered in lines, with blanks between them and a comment behind them. Lexing gives the
same lexemes back. Two of them may stand side by side unless the first goes on with the second.
-/

set_option autoImplicit false

namespace TeenyFront

open Text

namespace Lexeme

def isWord (l : Lexeme) : Bool := l.kind = .identifier || l.kind.isKeyword

/-- Whether something has to stand between the lexemes. -/
def clings (x y : Lexeme) : Bool :=
  (x.isWord && y.spelling.head?.any isAlphanumeric) ||
    (x.kind = .number && y.kind = .number) ||
    ([.assign, .less, .greater].contains x.kind && y.spelling.head? = some '=')

/-! The first character of a lexeme. -/

theorem scan_gap {c : Char} (h : isBlank c = true ∨ c = '#') (cs : List Char) :
    scan (c :: cs) = .error ⟨.strayCharacter c, 0⟩ := by
  simp only [isBlank, Bool.or_eq_true, decide_eq_true_eq] at h
  rcases h with ((rfl | rfl) | rfl) | rfl <;> rfl

theorem scan_point (cs : List Char) : scan ('.' :: cs) = .error ⟨.strayCharacter '.', 0⟩ := rfl

theorem WellFormed.begins {l : Lexeme} (h : l.WellFormed) (hk : l.kind ≠ .eof) :
    ∃ c cs, l.spelling = c :: cs ∧ ¬(isBlank c = true ∨ c = '#') ∧ c ≠ '.' ∧
      (c.isDigit = true → l.kind = .number) := by
  have hs := scan_spelling_append h (apart_nil l)
  rw [List.append_nil] at hs
  cases hl : l.spelling with
  | nil => exact absurd hl ((scan_spelling hs).2 hk)
  | cons c cs =>
    rw [hl] at hs
    refine ⟨c, cs, rfl, ?_, ?_, ?_⟩
    · intro hg
      rw [scan_gap hg] at hs
      cases hs
    · rintro rfl
      rw [scan_point] at hs
      cases hs
    · intro hd
      rw [scan_digit hd] at hs
      exact (scanNumber_spelling hs).1

theorem goesOn_gap {l : Lexeme} (hk : l.kind ≠ .eof) {c : Char} (hc : isBlank c = true ∨ c = '#') :
    l.goesOn c = false := by
  have hf : isAlphanumeric c = false ∧ c.isDigit = false ∧ c ≠ '.' ∧ c ≠ '=' := by
    simp only [isBlank, Bool.or_eq_true, decide_eq_true_eq] at hc
    rcases hc with ((rfl | rfl) | rfl) | rfl <;> decide
  obtain ⟨ha, hd, hp, he⟩ := hf
  unfold goesOn
  split <;> simp_all

theorem apart_of_not_clings {x y : Lexeme} (hx : x.kind ≠ .eof) (hy : y.WellFormed)
    (hk : y.kind ≠ .eof) (h : x.clings y = false) (rest : List Char) :
    x.Apart (y.spelling ++ rest) := by
  obtain ⟨c, cs, hs, -, hp, hd⟩ := hy.begins hk
  intro d hc
  rw [hs] at hc
  cases hc
  simp only [clings, isWord, hs] at h
  unfold goesOn
  split <;> simp_all

/-! Lexemes that cling are read as one longer lexeme or more. -/

theorem IsWord.concat {cs : List Char} {c : Char} (h : IsWord cs) (hc : isAlphanumeric c = true) :
    IsWord (cs ++ [c]) := by
  obtain ⟨d, ds, rfl, hd, hds⟩ := h
  refine ⟨d, ds ++ [c], rfl, hd, fun e he => ?_⟩
  rcases List.mem_append.1 he with he | he
  · exact hds e he
  · rwa [List.mem_singleton.1 he]

theorem IsDigits.concat {ds : List Char} {c : Char} (h : IsDigits ds) (hc : c.isDigit = true) :
    IsDigits (ds ++ [c]) := by
  refine ⟨by simp, fun d hd => ?_⟩
  rcases List.mem_append.1 hd with hd | hd
  · exact h.2 d hd
  · rwa [List.mem_singleton.1 hd]

theorem IsNumeral.concat {cs : List Char} {c : Char} (h : IsNumeral cs) (hc : c.isDigit = true) :
    IsNumeral (cs ++ [c]) := by
  cases h with
  | whole h => exact .whole (h.concat hc)
  | pointed h h' =>
    rw [List.append_assoc, List.cons_append]
    exact .pointed h (h'.concat hc)

theorem WellFormed.symbol_spelling {l : Lexeme} (h : l.WellFormed) {cs : List Char}
    (hs : l.kind.symbol? = some cs) : l.spelling = cs := by
  cases h with
  | symbol hc =>
    rw [spelling_ofChars (symbol?_ne_string hc)]
    exact Option.some.inj (hc.symm.trans hs)
  | keyword hk =>
    revert hk hs
    rename_i kind
    cases kind <;> simp [Kind.symbol?, Kind.keywords]
  | ending | name | number | string => cases hs

theorem WellFormed.isWord_spelling {l : Lexeme} (h : l.WellFormed) (hw : l.isWord = true) :
    IsWord l.spelling := by
  cases h with
  | keyword hk =>
    rw [← word_keyword hk, spelling_word]
    exact isWord_keyword hk
  | name hn hk =>
    rw [spelling_ofChars (by decide)]
    exact hn
  | ending | number | string => exact absurd hw (by simp [isWord, Kind.isKeyword, Kind.keywords])
  | symbol hs =>
    exfalso
    revert hs hw
    rename_i kind cs
    cases kind <;> simp [isWord, Kind.symbol?, Kind.isKeyword, Kind.keywords]

theorem WellFormed.isNumeral_spelling {l : Lexeme} (h : l.WellFormed) (hk : l.kind = .number) :
    IsNumeral l.spelling := by
  cases h with
  | number hn =>
    rw [spelling_ofChars (by decide)]
    exact hn
  | symbol hs =>
    cases hk
    cases hs
  | keyword hm =>
    cases hk
    exact absurd hm (by decide)
  | ending | name | string => cases hk

/-- Lexemes that cling begin a longer one. -/
theorem longer_of_clings {x y : Lexeme} (hx : x.WellFormed) (hy : y.WellFormed)
    (h : x.clings y = true) : ∃ l : Lexeme, l.WellFormed ∧
      l.spelling <+: x.spelling ++ y.spelling ∧ x.spelling.length < l.spelling.length := by
  simp only [clings, Bool.or_eq_true, Bool.and_eq_true, decide_eq_true_eq] at h
  rcases h with (⟨hw, ha⟩ | ⟨hxk, hyk⟩) | ⟨hk, he⟩
  · cases hs : y.spelling with
    | nil =>
      rw [hs] at ha
      cases ha
    | cons c cs =>
      rw [hs] at ha
      have hc := (hx.isWord_spelling hw).concat ha
      refine ⟨word (x.spelling ++ [c]), word_wellFormed hc, ?_, ?_⟩
      · rw [spelling_word]
        simp
      · rw [spelling_word]
        simp
  · obtain ⟨c, cs, hc, hd⟩ := (hy.isNumeral_spelling hyk).cons
    refine ⟨_, .number ((hx.isNumeral_spelling hxk).concat hd), ?_, ?_⟩
    · rw [spelling_ofChars (by decide), hc]
      simp
    · rw [spelling_ofChars (by decide)]
      simp
  · obtain ⟨cs, hc⟩ := List.head?_eq_some_iff.1 he
    rw [hc]
    have hd : ∃ (kind : Kind) (c : Char),
        x.kind.symbol? = some [c] ∧ kind.symbol? = some [c, '='] := by
      simp only [List.contains_eq_mem, List.mem_cons, List.not_mem_nil, or_false,
        decide_eq_true_eq] at hk
      rcases hk with hk | hk | hk <;> rw [hk]
      · exact ⟨.equal, '=', rfl, rfl⟩
      · exact ⟨.lessEqual, '<', rfl, rfl⟩
      · exact ⟨.greaterEqual, '>', rfl, rfl⟩
    obtain ⟨kind, c, hs, hd⟩ := hd
    rw [hx.symbol_spelling hs]
    refine ⟨_, .symbol hd, ?_, ?_⟩ <;> rw [spelling_ofChars (symbol?_ne_string hd)] <;> simp

theorem scan_clings {x y : Lexeme} (hx : x.WellFormed) (hy : y.WellFormed)
    (h : x.clings y = true) (rest : List Char) :
    scan (x.spelling ++ (y.spelling ++ rest)) ≠ .ok x := by
  intro hs
  obtain ⟨l, hl, hp, hlt⟩ := longer_of_clings hx hy h
  rw [← List.append_assoc] at hs
  have hle := scan_longest hs l hl (hp.trans (List.prefix_append _ _))
  omega

/-! A gap is found again in front of what is no gap. -/

theorem gap_blanks {blanks cs : List Char} (hb : ∀ c ∈ blanks, isBlank c = true)
    (hc : ∀ c, cs.head? = some c → isBlank c = false) :
    gap (blanks ++ cs) = blanks ++ comment cs := by
  rw [gap, List.takeWhile_append_of_pos hb, List.dropWhile_append_of_pos hb]
  cases cs with
  | nil => simp
  | cons c cs => simp [hc c rfl]

theorem comment_line {body : List Char} (h : '\n' ∉ body) (rest : List Char) :
    comment ('#' :: (body ++ '\n' :: rest)) = '#' :: body := by
  have hb : ∀ c ∈ body, decide (c ≠ '\n') = true := by
    intro c hc
    have hne : c ≠ '\n' := fun he => h (he ▸ hc)
    simpa using hne
  rw [comment, List.takeWhile_append_of_pos hb]
  simp

end Lexeme

open Lexeme

namespace Piece

def ending : Piece := ⟨[], ofChars .eof []⟩

/-- Whether the second piece may be written behind the first. -/
def Separated (x y : Piece) : Prop := y.gap = [] → x.lexeme.clings y.lexeme = false

theorem gap_chars {x : Piece} (h : x.WellFormed) (hk : x.lexeme.kind ≠ .eof) (rest : List Char) :
    Lexeme.gap (x.chars ++ rest) = x.gap := by
  obtain ⟨blanks, comment, hg, hb, hc⟩ := h.gap
  rw [chars, hg, List.append_assoc, List.append_assoc]
  rcases hc with rfl | ⟨hl, body, rfl, hn⟩
  · obtain ⟨c, cs, hs, hc, -⟩ := h.lexeme.begins hk
    simp only [not_or, Bool.not_eq_true] at hc
    rw [gap_blanks hb (by simp [hs, hc.1])]
    simp [hs, comment, hc.2]
  · have hs : x.lexeme.spelling = ['\n'] := h.lexeme.symbol_spelling (by rw [hl]; rfl)
    rw [hs, gap_blanks hb (by simp [isBlank])]
    exact congrArg _ (comment_line hn rest)

theorem apart {x y : Piece} (hx : x.lexeme.kind ≠ .eof) (hy : y.WellFormed)
    (hk : y.lexeme.kind ≠ .eof) (h : x.Separated y) (rest : List Char) :
    x.lexeme.Apart (y.chars ++ rest) := by
  by_cases hg : y.gap = []
  · rw [chars, hg]
    exact apart_of_not_clings hx hy.lexeme hk (h hg) rest
  · intro c hc
    refine goesOn_gap hx ?_
    obtain ⟨blanks, comment, he, hb, hcomment⟩ := hy.gap
    cases blanks with
    | cons b blanks =>
      have hd : b = c := by simpa [chars, he] using hc
      exact .inl (hd ▸ hb b (by simp))
    | nil =>
      rcases hcomment with rfl | ⟨-, body, rfl, -⟩
      · exact absurd he hg
      · have hd : '#' = c := by simpa [chars, he] using hc
        exact .inr hd.symm

end Piece

namespace Cursor

section

variable {x : Piece} (h : x.WellFormed) (hk : x.lexeme.kind ≠ .eof) {rest : List Char}
  (before : List Char)

include h hk

theorem skipGap_written : skipGap ⟨x.chars ++ rest, .behind before⟩ =
    ⟨x.lexeme.spelling ++ rest, .behind (before ++ x.gap)⟩ := by
  rw [skipGap_eq]
  simp only [Piece.gap_chars h hk rest, Position.behind_append]
  simp [Piece.chars]

theorem readToken_written (hs : scan (x.lexeme.spelling ++ rest) = .ok x.lexeme) :
    readToken ⟨x.chars ++ rest, .behind before⟩ =
      (.ok (x.token before), ⟨rest, .behind (before ++ x.chars)⟩) := by
  rw [readToken, skipGap_written h hk, readLexeme_ok hs, forward_of_append rfl, Piece.chars,
    ← List.append_assoc, Position.behind_append _ x.lexeme.spelling]
  rfl

/-- Nothing but the lexeme itself is read as its token. -/
theorem scan_of_token
    (ht : (readToken ⟨x.chars ++ rest, .behind before⟩).1 = .ok (x.token before)) :
    scan (x.lexeme.spelling ++ rest) = .ok x.lexeme := by
  rw [readToken, skipGap_written h hk] at ht
  cases hs : scan (x.lexeme.spelling ++ rest) with
  | error f =>
    rw [readLexeme_error hs] at ht
    cases ht
  | ok l =>
    rw [readLexeme_ok hs] at ht
    injection ht with ht
    injection ht with hkind htext
    have hl : (⟨l.kind, l.text⟩ : Lexeme) = ⟨x.lexeme.kind, x.lexeme.text⟩ := by
      rw [hkind, htext]
    exact congrArg Except.ok hl

end

theorem readToken_of_tokens {c : Cursor} {t : Token} {ts : List Token}
    (h : c.lex.tokens = t :: ts) : c.readToken.1 = .ok t := by
  rcases hr : c.readToken with ⟨r, d⟩
  cases r with
  | error e =>
    rw [lex_error hr] at h
    cases h
  | ok u =>
    by_cases hu : u.kind = .eof
    · rw [lex_end hr hu] at h
      cases h
      rfl
    · rw [lex_token hr hu] at h
      cases h
      rfl

theorem lex_written {xs : List Piece} (h : ∀ x ∈ xs, x.WellFormed ∧ x.lexeme.kind ≠ .eof)
    (before : List Char) : (lex ⟨written xs, .behind before⟩).result =
      .ok (placed before (xs ++ [.ending])) ↔ xs.IsChain Piece.Separated := by
  rw [Lexing.result_eq_ok]
  induction xs generalizing before with
  | nil =>
    rw [written, List.flatMap_nil, lex_end (readToken_nil rfl) rfl]
    simp [placed, Piece.token, Piece.ending]
  | cons x xs ih =>
    obtain ⟨hw, hk⟩ := h x (by simp)
    rw [written_cons, List.isChain_cons]
    by_cases hs : ∀ y ∈ xs.head?, x.Separated y
    · have ha : x.lexeme.Apart (written xs) := by
        cases xs with
        | nil => exact apart_nil _
        | cons y xs =>
          obtain ⟨hy, hyk⟩ := h y (by simp)
          rw [written_cons]
          exact Piece.apart hk hy hyk (hs y rfl) _
      have hr := readToken_written hw hk before (scan_spelling_append hw.lexeme ha)
      rw [and_iff_right hs, lex_token hr hk,
        ← ih (fun y hy => h y (by simp [hy])) (before ++ x.chars)]
      simp [placed]
    · refine iff_of_false (fun hl => hs fun y hy hg => ?_) fun hc => hs hc.1
      obtain ⟨xs, rfl⟩ := List.head?_eq_some_iff.1 hy
      have ht := scan_of_token hw hk before (readToken_of_tokens hl.2)
      rw [written_cons, Piece.chars, hg, List.nil_append] at ht
      rw [Bool.eq_false_iff]
      exact fun hc => scan_clings hw.lexeme (h y (by simp)).1.lexeme hc _ ht

end Cursor

/-- A line of lexemes, each with the blanks in front of it, then more blanks and a comment. -/
structure Line where
  items : List Piece
  blanks : List Char
  comment? : Option (List Char)

namespace Line

def feed (l : Line) : Piece :=
  ⟨l.blanks ++ l.comment?.elim [] ('#' :: ·), ofChars .newline ['\n']⟩

def pieces (l : Line) : List Piece := l.items ++ [l.feed]

structure WellFormed (l : Line) : Prop where
  lexemes : ∀ x ∈ l.items, x.lexeme.WellFormed
  kinds : ∀ x ∈ l.items, x.lexeme.kind ≠ .eof ∧ x.lexeme.kind ≠ .newline
  gaps : ∀ x ∈ l.items, ∀ c ∈ x.gap, isBlank c = true
  blanks : ∀ c ∈ l.blanks, isBlank c = true
  comment : ∀ body ∈ l.comment?, '\n' ∉ body

def render (lines : List Line) : String := String.ofList (written (lines.flatMap pieces))

theorem feed_spelling (l : Line) : l.feed.lexeme.spelling = ['\n'] :=
  spelling_ofChars (by decide) _

theorem feed_wellFormed {l : Line} (h : l.WellFormed) : l.feed.WellFormed := by
  refine ⟨.symbol rfl, l.blanks, _, rfl, h.blanks, ?_⟩
  cases hc : l.comment? with
  | none => exact .inl rfl
  | some body => exact .inr ⟨rfl, body, rfl, h.comment body hc⟩

theorem pieces_wellFormed {l : Line} (h : l.WellFormed) :
    ∀ x ∈ l.pieces, x.WellFormed ∧ x.lexeme.kind ≠ .eof := by
  intro x hx
  rw [pieces, List.mem_append, List.mem_singleton] at hx
  rcases hx with hx | rfl
  · exact ⟨⟨h.lexemes x hx, x.gap, [], by simp, h.gaps x hx, .inl rfl⟩, (h.kinds x hx).1⟩
  · refine ⟨feed_wellFormed h, ?_⟩
    simp [feed]

theorem separated_feed (x : Piece) (l : Line) : x.Separated l.feed := by
  intro _
  have ha : isAlphanumeric '\n' = false := by decide
  simp [clings, feed, spelling, ha]

theorem feed_separated (l : Line) (x : Piece) : l.feed.Separated x := by
  intro _
  simp [clings, feed, isWord, Kind.isKeyword, Kind.keywords]

theorem pieces_separated (lines : List Line) : (lines.flatMap pieces).IsChain Piece.Separated ↔
    ∀ l ∈ lines, l.items.IsChain Piece.Separated := by
  induction lines with
  | nil => simp
  | cons l lines ih =>
    have hf : ∀ y ∈ (lines.flatMap pieces).head?, l.feed.Separated y := fun y _ =>
      feed_separated l y
    have hl : ∀ x ∈ l.items.getLast?, x.Separated l.feed := fun x _ => separated_feed x l
    rw [List.flatMap_cons, pieces, List.append_assoc, List.isChain_append, List.singleton_append,
      List.isChain_cons, ih, List.forall_mem_cons]
    simp only [List.head?_cons, Option.mem_def, Option.some.injEq, forall_eq']
    exact ⟨fun hc => ⟨hc.1, hc.2.1.2⟩, fun hc => ⟨hc.1, ⟨hf, hc.2⟩, hl⟩⟩

theorem getLast?_written {lines : List Line} (h : lines ≠ []) :
    (written (lines.flatMap pieces)).getLast? = some '\n' := by
  obtain ⟨ls, l, rfl⟩ := lines.eq_nil_or_concat.resolve_left h
  simp [written, pieces, Piece.chars, feed_spelling]

end Line

/-- Rendered lines are lexed as the lexemes they are made of, each where it is written, with a line
feed for every line and the end of input behind the last one, exactly if lexemes that stand side by
side in a line do not cling. -/
theorem lexing_render (lines : List Line) (hne : lines ≠ []) (h : ∀ l ∈ lines, l.WellFormed) :
    (lexing (Line.render lines)).result =
        .ok (placed [] (lines.flatMap Line.pieces ++ [.ending])) ↔
      ∀ l ∈ lines, l.items.IsChain Piece.Separated := by
  have hp : ∀ x ∈ lines.flatMap Line.pieces, x.WellFormed ∧ x.lexeme.kind ≠ .eof := by
    intro x hx
    obtain ⟨l, hl, hx⟩ := List.mem_flatMap.1 hx
    exact Line.pieces_wellFormed (h l hl) x hx
  have hc : Cursor.ofSource (Line.render lines) =
      ⟨written (lines.flatMap Line.pieces), .behind []⟩ := by
    simp [Cursor.ofSource, Cursor.terminated, Line.render, Line.getLast?_written hne]
    rfl
  have hl : lexing (Line.render lines) = (Cursor.ofSource (Line.render lines)).lex := rfl
  rw [hl, hc, Cursor.lex_written hp, Line.pieces_separated]

/-- The mark in the string begins no comment, and nothing has to stand between `<` and `-`. -/
theorem lexing_render_two_lines : (lexing "PRINT\"a#b\" # c\n\tx<-1\n").result = .ok
    [⟨.print, "PRINT", ⟨1, 1⟩⟩, ⟨.string, "a#b", ⟨1, 6⟩⟩, ⟨.newline, "\n", ⟨1, 15⟩⟩,
      ⟨.identifier, "x", ⟨2, 2⟩⟩, ⟨.less, "<", ⟨2, 3⟩⟩, ⟨.minus, "-", ⟨2, 4⟩⟩,
      ⟨.number, "1", ⟨2, 5⟩⟩, ⟨.newline, "\n", ⟨2, 6⟩⟩, ⟨.eof, "", ⟨3, 1⟩⟩] := by
  refine (lexing_render
    [⟨[⟨[], ⟨.print, "PRINT"⟩⟩, ⟨[], ofChars .string ['a', '#', 'b']⟩], [' '], some [' ', 'c']⟩,
      ⟨[⟨['\t'], ofChars .identifier ['x']⟩, ⟨[], ofChars .less ['<']⟩,
        ⟨[], ofChars .minus ['-']⟩, ⟨[], ofChars .number ['1']⟩], [], none⟩] (by simp) ?_).2 ?_
  · simp only [List.forall_mem_cons, List.not_mem_nil, false_implies, implies_true, and_true]
    constructor
    · refine ⟨?_, by simp, by simp, by simp [isBlank], by simp⟩
      simp only [List.forall_mem_cons, List.not_mem_nil, false_implies, implies_true, and_true]
      exact ⟨.keyword (by decide), .string (by simp [isStringBody])⟩
    · refine ⟨?_, by simp, by simp [isBlank], by simp, by simp⟩
      simp only [List.forall_mem_cons, List.not_mem_nil, false_implies, implies_true, and_true]
      exact ⟨.name ⟨'x', [], rfl, by decide, by simp⟩ (by decide), .symbol rfl, .symbol rfl,
        .number (.whole ⟨by simp, by simp⟩)⟩
  · have hq : isAlphanumeric '"' = false := by decide
    have hl : isAlphanumeric '<' = false := by decide
    simp [Piece.Separated, clings, isWord, Kind.isKeyword, Kind.keywords, spelling, hq, hl]

end TeenyFront
