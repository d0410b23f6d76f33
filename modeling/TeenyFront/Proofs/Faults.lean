import TeenyFront.Proofs.Layout
import TeenyFront.Proofs.Scanning

/-!
# Faults

A text that a lexeme should begin has one of four faults, or a lexeme does begin it. A fault names
its cause and splits the text in front of the character that shows it. Wherever a cursor has been
led, reading a token fails exactly if what stands behind the gap has a fault, and then the error is
at that character and the cursor stays there.
-/

set_option autoImplicit false

namespace TeenyFront

open Text

namespace Lexeme

/-- What a string cannot hold. The first of these ends it. -/
def stringStops : List Char := ['"', '\r', '\n', '\t', '\\', '%']

inductive GapBefore : List Char → List Char → Prop
  | blanks {blanks rest : List Char} (hb : ∀ c ∈ blanks, c ∈ [' ', '\t', '\r'])
      (hr : ∀ c, rest.head? = some c → c ∉ [' ', '\t', '\r', '#']) : GapBefore blanks rest
  | comment {blanks body rest : List Char} (hb : ∀ c ∈ blanks, c ∈ [' ', '\t', '\r'])
      (hn : '\n' ∉ body) : GapBefore (blanks ++ '#' :: body) ('\n' :: rest)

/-- What makes a text faulty, which is split in front of the character that shows it. -/
inductive Faulty : List Char → List Char → LexicalCause → Prop
  | exclamation {d : Char} {rest : List Char} (hd : d ≠ '=') :
      Faulty [] ('!' :: d :: rest) (.loneExclamation (some d))
  | string {body : List Char} {c : Char} {rest : List Char} (hb : ∀ b ∈ body, b ∉ stringStops)
      (hc : c ∈ stringStops) (hq : c ≠ '"') :
      Faulty ('"' :: body) (c :: rest) (.forbiddenInString c)
  | number {ds : List Char} {d : Char} {rest : List Char} (hds : IsDigits ds)
      (hd : d.isDigit = false) : Faulty ds ('.' :: d :: rest) .bareDecimalPoint
  | stray {c : Char} {rest : List Char}
      (hc : c ∉ ['\n', '+', '-', '*', '/', '=', '>', '<', '!', '"']) (hd : c.isDigit = false)
      (ha : isAlphabetic c = false) : Faulty [] (c :: rest) (.strayCharacter c)

theorem isBlank_iff (c : Char) : isBlank c = true ↔ c ∈ [' ', '\t', '\r'] := by
  simp [isBlank, or_assoc]

theorem isStringBody_iff (c : Char) : isStringBody c = true ↔ c ∉ stringStops := by
  simp [isStringBody, stringStops, and_assoc]

theorem not_isStringBody_iff (c : Char) : isStringBody c = false ↔ c ∈ stringStops := by
  rw [← Bool.not_eq_true, isStringBody_iff, Decidable.not_not]

theorem gapBefore_gap {cs : List Char} (h : Ended cs) :
    GapBefore (gap cs) (cs.drop (gap cs).length) := by
  have hb : ∀ c ∈ cs.takeWhile isBlank, c ∈ [' ', '\t', '\r'] := fun c hc =>
    (isBlank_iff c).1 (List.all_eq_true.1 List.all_takeWhile c hc)
  have hn := not_mem_gap cs
  rcases comment_cases (cs.dropWhile isBlank) with hc | ⟨rest, hr, hc⟩
  · have hd := gap_append_drop cs
    rw [gap, hc, List.append_nil] at hd ⊢
    conv at hd => rhs; rw [← List.takeWhile_append_dropWhile (p := isBlank) (l := cs)]
    rw [List.append_cancel_left hd]
    refine .blanks hb fun c hh => ?_
    have hf := cs.head?_dropWhile_not isBlank
    rw [hh] at hf
    have hnb : c ∉ [' ', '\t', '\r'] := fun hm => by simp [(isBlank_iff c).2 hm] at hf
    have hsharp : c ≠ '#' := by
      rintro rfl
      obtain ⟨tail, ht⟩ := List.head?_eq_some_iff.1 hh
      rw [ht] at hc
      cases hc
    simpa [hsharp] using hnb
  · have hne : cs ≠ [] := by
      rintro rfl
      cases hr
    obtain ⟨tail, ht⟩ := behind_comment hr (h.mem hne)
    rw [ht]
    rw [gap, hc] at hn ⊢
    exact .comment hb fun hm =>
      hn (List.mem_append_right _ (List.mem_cons_of_mem _ hm))

/-! A scanned fault is a fault of the text, and no other text has one. -/

theorem scanString_faulty {rest : List Char} {f : Fault} (hn : '\n' ∈ rest)
    (h : scanString rest = .error f) : ∃ front back, '"' :: rest = front ++ back ∧
      front.length = f.offset ∧ Faulty front back f.cause := by
  have hd := mem_dropWhile_line hn (p := isStringBody) (by decide)
  have hs := List.takeWhile_append_dropWhile (p := isStringBody) (l := rest)
  have hf := rest.head?_dropWhile_not isStringBody
  simp only [scanString] at h
  cases hw : rest.dropWhile isStringBody with
  | nil =>
    rw [hw] at hd
    cases hd
  | cons c tail =>
    rw [hw] at h hs hf
    simp only at h
    split at h
    · cases h
    · rename_i hq
      cases h
      refine ⟨'"' :: rest.takeWhile isStringBody, c :: tail, by rw [List.cons_append, hs], rfl,
        .string (fun b hb => ?_) ((not_isStringBody_iff c).1 (by simpa using hf)) hq⟩
      exact (isStringBody_iff b).1 (List.all_eq_true.1 List.all_takeWhile b hb)

theorem scanNumber_faulty {c : Char} {rest : List Char} {f : Fault} (hc : c.isDigit = true)
    (hn : '\n' ∈ c :: rest) (h : scanNumber (c :: rest) = .error f) :
    ∃ front back, c :: rest = front ++ back ∧ front.length = f.offset ∧
      Faulty front back f.cause := by
  have hd := mem_dropWhile_line hn (p := Char.isDigit) (by decide)
  have hs := List.takeWhile_append_dropWhile (p := Char.isDigit) (l := c :: rest)
  simp only [scanNumber] at h
  split at h
  · rename_i tail hw
    rw [hw] at hd hs
    split at h
    · rename_i ht
      cases h
      cases tail with
      | nil => cases (List.mem_singleton.1 hd)
      | cons d tail =>
        refine ⟨_, _, hs.symm, rfl, .number (isDigits_takeWhile hc rest) ?_⟩
        rw [List.takeWhile_cons] at ht
        split at ht
        · cases ht
        · exact Bool.eq_false_iff.2 ‹_›
    · cases h
  · cases h

theorem scan_faulty {cs : List Char} {f : Fault} (he : Ended cs) (h : scan cs = .error f) :
    ∃ front back, cs = front ++ back ∧ front.length = f.offset ∧ Faulty front back f.cause := by
  cases scanned h with
  | @exclamation rest hr =>
    have hn : '\n' ∈ rest := by simpa using he.mem (List.cons_ne_nil '!' rest)
    cases rest with
    | nil => cases hn
    | cons d rest => exact ⟨[], _, rfl, rfl, .exclamation fun hd => hr (congrArg some hd)⟩
  | @string rest _ hr =>
    exact scanString_faulty (by simpa using he.mem (List.cons_ne_nil '"' rest)) hr
  | number hd hr => exact scanNumber_faulty hd (he.mem (List.cons_ne_nil _ _)) hr
  | stray hc hd ha => exact ⟨[], _, rfl, rfl, .stray hc hd ha⟩

theorem Faulty.scan {front back : List Char} {cause : LexicalCause}
    (h : Faulty front back cause) :
    Lexeme.scan (front ++ back) = .error ⟨cause, front.length⟩ := by
  cases h with
  | @exclamation d rest hd =>
    have hh : (d :: rest).head? ≠ some '=' := fun h => hd (Option.some.inj h)
    exact if_neg hh
  | @string body c rest hb hc hq =>
    have hbody : ∀ b ∈ body, isStringBody b = true := fun b hm => (isStringBody_iff b).2 (hb b hm)
    have hstop := (not_isStringBody_iff c).2 hc
    show scanString _ = _
    simp [scanString, List.takeWhile_append_of_pos hbody, List.dropWhile_append_of_pos hbody, hstop,
      hq]
  | @number ds d rest hds hd =>
    obtain ⟨c, cs, rfl, hc⟩ := isDigits_cons hds
    have hp : ∀ c, ('.' :: d :: rest).head? = some c → c.isDigit = false := by simp
    obtain ⟨ht, hw⟩ := hds.takeWhile_stop hp
    rw [List.cons_append, scan_digit hc, ← List.cons_append, scanNumber, ht, hw]
    simp [hd]
  | @stray c rest hc hd ha =>
    rw [List.nil_append, Lexeme.scan, if_neg (Bool.eq_false_iff.1 hd),
      if_neg (Bool.eq_false_iff.1 ha)]
    · rfl
    all_goals rintro rfl; exact hc (by decide)

theorem scan_error_iff {cs : List Char} (he : Ended cs) (f : Fault) :
    Lexeme.scan cs = .error f ↔
      ∃ front back, cs = front ++ back ∧ front.length = f.offset ∧ Faulty front back f.cause := by
  constructor
  · exact scan_faulty he
  · rintro ⟨front, back, rfl, hl, hf⟩
    rw [hf.scan, hl]

end Lexeme

open Lexeme

/-- Reading fails exactly if what stands behind the gap is faulty. The error and the cursor are then
in front of the character that shows the fault. -/
theorem Cursor.readToken_error_iff {c : Cursor} (he : Ended c.rest) (e : LexicalError)
    (d : Cursor) : c.readToken = (.error e, d) ↔
      ∃ front back, c.rest.drop (gap c.rest).length = front ++ back ∧
        Faulty front back e.cause ∧ e.position = c.position.after (gap c.rest ++ front) ∧
        d = ⟨back, e.position⟩ := by
  have hg := he.drop (gap c.rest).length
  rw [readToken, skipGap_eq]
  constructor
  · intro h
    cases hs : scan (c.rest.drop (gap c.rest).length) with
    | ok l =>
      rw [readLexeme_ok hs] at h
      cases h
    | error f =>
      obtain ⟨front, back, hr, hl, hf⟩ := scan_faulty hg hs
      rw [readLexeme_error hs, ← hl, forward_of_append hr] at h
      cases h
      exact ⟨front, back, hr, hf, (Position.after_append _ _ _).symm, rfl⟩
  · rintro ⟨front, back, hr, hf, hp, rfl⟩
    have hs := (scan_error_iff hg ⟨e.cause, front.length⟩).2 ⟨front, back, hr, rfl, hf⟩
    rw [readLexeme_error hs, forward_of_append hr, ← Position.after_append, ← hp]

namespace TokenStream

theorem readToken_error_iff {s : TokenStream} {before : List Char} (he : Ended s.cursor.rest)
    (hp : s.cursor.position = .behind before) (e : LexicalError) (s' : TokenStream) :
    s.readToken = (.error e, s') ↔
      ∃ front back, s.cursor.rest.drop (gap s.cursor.rest).length = front ++ back ∧
        Faulty front back e.cause ∧
        e.position = .behind (before ++ gap s.cursor.rest ++ front) ∧
        s' = ⟨⟨back, e.position⟩, s.finished⟩ := by
  have hread : s.readToken = (.error e, s') ↔
      ∃ d, s.cursor.readToken = (.error e, d) ∧ s' = ⟨d, s.finished⟩ := by
    rw [readToken, Prod.mk.injEq]
    constructor
    · rintro ⟨he, rfl⟩
      exact ⟨_, Prod.ext he rfl, rfl⟩
    · rintro ⟨d, hr, rfl⟩
      rw [hr]
      exact ⟨rfl, rfl⟩
  simp only [hread, Cursor.readToken_error_iff he, hp, ← Position.behind_append, List.append_assoc]
  constructor
  · rintro ⟨d, ⟨front, back, hs, hf, hpos, rfl⟩, rfl⟩
    exact ⟨front, back, hs, hf, hpos, rfl⟩
  · rintro ⟨front, back, hs, hf, hpos, rfl⟩
    exact ⟨_, ⟨front, back, hs, hf, hpos, rfl⟩, rfl⟩

theorem script_behind (source : String) (steps : List Step) :
    ∃ before, Cursor.terminated source.toList =
        before ++ ((ofSource source).script steps).cursor.rest ∧
      ((ofSource source).script steps).cursor.position = .behind before ∧
      Ended ((ofSource source).script steps).cursor.rest := by
  obtain ⟨s, -, ht, hs⟩ := (Scanner.sound_ofSource source).script steps
  have hsource : s.source.toList = Cursor.terminated source.toList := by
    rw [ht.source, Scanner.ofSource_source]
  rw [← Scanner.stream_ofSource, ← hs]
  refine ⟨s.source.toList.take s.index, ?_, ht.sound.position, ?_⟩
  · rw [← hsource]
    exact (List.take_append_drop s.index _).symm
  · show Ended (s.source.toList.drop s.index)
    rw [hsource]
    exact (Ended.terminated source.toList).drop s.index

/-- After every script a text, a gap and a rest make up the source, with the cursor behind the text.
A token is read unless the rest is faulty, and a faulty rest gives the error of its fault, at the
character that shows it, where the cursor stays. -/
theorem script_readToken_error (source : String) (steps : List Step) :
    ∃ before gap rest, Cursor.terminated source.toList = before ++ (gap ++ rest) ∧
      ((ofSource source).script steps).cursor = ⟨gap ++ rest, .behind before⟩ ∧
      GapBefore gap rest ∧
      (∀ e s, ((ofSource source).script steps).readToken = (.error e, s) ↔
        ∃ front back, rest = front ++ back ∧ Faulty front back e.cause ∧
          e.position = .behind (before ++ gap ++ front) ∧
          s = ⟨⟨back, e.position⟩, ((ofSource source).script steps).finished⟩) ∧
      ((∀ front back cause, rest = front ++ back → ¬Faulty front back cause) →
        ∃ t s, ((ofSource source).script steps).readToken = (.ok t, s)) := by
  obtain ⟨before, hs, hp, he⟩ := script_behind source steps
  generalize (ofSource source).script steps = s at hs hp he ⊢
  have hg := gap_append_drop s.cursor.rest
  have herror := readToken_error_iff he hp
  refine ⟨before, gap s.cursor.rest, _, by rw [hg, hs], by rw [hg, ← hp], gapBefore_gap he,
    herror, fun hno => ?_⟩
  rcases hread : s.readToken with ⟨r, s'⟩
  cases r with
  | ok t => exact ⟨t, s', rfl⟩
  | error e =>
    obtain ⟨front, back, hr, hf, -⟩ := (herror e s').1 hread
    exact absurd hf (hno front back e.cause hr)

end TokenStream

end TeenyFront
