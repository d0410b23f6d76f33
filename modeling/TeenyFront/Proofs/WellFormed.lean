import TeenyFront.Proofs.Lexing

/-!
# Well-formed lexemes

Each kind has its texts. A line feed, an operator, a keyword and the end of input have one text
each; names, numbers and strings have a class of them. What is scanned is well formed and as long
as it can be, and a well-formed lexeme is scanned from its spelling if the next character does not
go on with it.
-/

set_option autoImplicit false

namespace TeenyFront

open Text

namespace Kind

def symbol? : Kind → Option (List Char)
  | newline => some ['\n']
  | assign => some ['=']
  | plus => some ['+']
  | minus => some ['-']
  | asterisk => some ['*']
  | slash => some ['/']
  | equal => some ['=', '=']
  | notEqual => some ['!', '=']
  | less => some ['<']
  | lessEqual => some ['<', '=']
  | greater => some ['>']
  | greaterEqual => some ['>', '=']
  | _ => none

theorem keyword?_name {k : Kind} (h : k ∈ keywords) : keyword? k.name = some k := by
  revert h
  cases k <;> decide

end Kind

namespace Lexeme

def IsDigits (cs : List Char) : Prop := cs ≠ [] ∧ ∀ c ∈ cs, c.isDigit = true

inductive IsNumeral : List Char → Prop
  | whole {ds : List Char} (h : IsDigits ds) : IsNumeral ds
  | pointed {ds es : List Char} (h : IsDigits ds) (h' : IsDigits es) : IsNumeral (ds ++ '.' :: es)

def IsWord (cs : List Char) : Prop :=
  ∃ c ds, cs = c :: ds ∧ isAlphabetic c = true ∧ ∀ d ∈ ds, isAlphanumeric d = true

inductive WellFormed : Lexeme → Prop
  | ending : WellFormed (ofChars .eof [])
  | symbol {kind : Kind} {cs : List Char} (h : kind.symbol? = some cs) :
      WellFormed (ofChars kind cs)
  | keyword {kind : Kind} (h : kind ∈ Kind.keywords) : WellFormed ⟨kind, kind.name⟩
  | name {cs : List Char} (h : IsWord cs) (hk : Kind.keyword? (String.ofList cs) = none) :
      WellFormed (ofChars .identifier cs)
  | number {cs : List Char} (h : IsNumeral cs) : WellFormed (ofChars .number cs)
  | string {cs : List Char} (h : ∀ c ∈ cs, isStringBody c = true) : WellFormed (ofChars .string cs)

/-- No well-formed lexeme that begins the text is longer. -/
def Longest (l : Lexeme) (cs : List Char) : Prop :=
  ∀ l' : Lexeme, l'.WellFormed → l'.spelling <+: cs → l'.spelling.length ≤ l.spelling.length

/-- Whether the lexeme does not end in front of the character. -/
def goesOn (l : Lexeme) (c : Char) : Bool :=
  match l.kind with
  | .eof => true
  | .number => c.isDigit || c = '.'
  | .assign | .less | .greater => c = '='
  | .identifier => isAlphanumeric c
  | kind => kind.isKeyword && isAlphanumeric c

def Apart (l : Lexeme) (rest : List Char) : Prop :=
  ∀ c, rest.head? = some c → l.goesOn c = false

/-!
Which characters begin what. Characters of ASCII decide among the symbols, the digits and the
quotation mark; a word begins with none of them.
-/

theorem isAlphabetic_of_isDigit {c : Char} (h : c.isDigit = true) : isAlphabetic c = false := by
  simp only [Char.isDigit, Bool.and_eq_true, decide_eq_true_eq, UInt32.le_iff_toNat_le,
    ge_iff_le] at h
  change 48 ≤ c.toNat ∧ c.toNat ≤ 57 at h
  rw [isAlphabetic_ascii c (by omega), Bool.eq_false_iff]
  intro ha
  change (decide (65 ≤ c.val ∧ c.val ≤ 90) || (decide (97 ≤ c.val) && decide (c.val ≤ 122))) = true
    at ha
  simp only [UInt32.le_iff_toNat_le, Bool.or_eq_true, Bool.and_eq_true, decide_eq_true_eq] at ha
  change (65 ≤ c.toNat ∧ c.toNat ≤ 90) ∨ (97 ≤ c.toNat ∧ c.toNat ≤ 122) at ha
  omega

theorem scan_alphabetic {c : Char} (h : isAlphabetic c = true) (rest : List Char) :
    scan (c :: rest) = .ok (word (c :: rest.takeWhile isAlphanumeric)) := by
  have hd : ¬c.isDigit = true := fun hd => by
    rw [isAlphabetic_of_isDigit hd] at h
    cases h
  rw [scan, if_neg hd, if_pos h]
  all_goals rintro rfl; exact absurd h (by decide)

theorem scan_digit {c : Char} (h : c.isDigit = true) (rest : List Char) :
    scan (c :: rest) = scanNumber (c :: rest) := by
  rw [scan, if_pos h]
  all_goals rintro rfl; exact absurd h (by decide)

theorem isDigits_takeWhile {c : Char} (h : c.isDigit = true) (rest : List Char) :
    IsDigits ((c :: rest).takeWhile Char.isDigit) := by
  constructor
  · simp [h]
  · exact fun d hd => List.all_eq_true.1 List.all_takeWhile d hd

theorem IsDigits.takeWhile_append {ds : List Char} (h : IsDigits ds) (rest : List Char) :
    (ds ++ rest).takeWhile Char.isDigit = ds ++ rest.takeWhile Char.isDigit :=
  List.takeWhile_append_of_pos h.2

theorem IsDigits.takeWhile_stop {ds : List Char} (h : IsDigits ds) {rest : List Char}
    (hr : ∀ c, rest.head? = some c → c.isDigit = false) :
    (ds ++ rest).takeWhile Char.isDigit = ds ∧ (ds ++ rest).dropWhile Char.isDigit = rest := by
  rw [h.takeWhile_append, List.dropWhile_append_of_pos h.2]
  cases rest with
  | nil => simp
  | cons c rest => simp [hr c rfl]

theorem isDigits_cons {ds : List Char} (h : IsDigits ds) :
    ∃ c cs, ds = c :: cs ∧ c.isDigit = true := by
  obtain ⟨hne, hd⟩ := h
  cases ds with
  | nil => contradiction
  | cons c cs => exact ⟨c, cs, rfl, hd c (by simp)⟩

theorem IsNumeral.cons {cs : List Char} (h : IsNumeral cs) :
    ∃ c ds, cs = c :: ds ∧ c.isDigit = true := by
  cases h with
  | whole h => exact isDigits_cons h
  | pointed h h' =>
    obtain ⟨c, ds, rfl, hc⟩ := isDigits_cons h
    exact ⟨c, _, rfl, hc⟩

theorem scan_numeral {cs : List Char} (h : IsNumeral cs) (rest : List Char) :
    scan (cs ++ rest) = scanNumber (cs ++ rest) := by
  obtain ⟨c, ds, rfl, hc⟩ := h.cons
  exact scan_digit hc _

theorem scanNumber_whole {ds rest : List Char} (h : IsDigits ds)
    (hr : ∀ c, rest.head? = some c → c.isDigit = false ∧ c ≠ '.') :
    scanNumber (ds ++ rest) = .ok (ofChars .number ds) := by
  obtain ⟨ht, hd⟩ := h.takeWhile_stop fun c hc => (hr c hc).1
  rw [scanNumber, ht, hd]
  split
  · exact absurd rfl (hr '.' rfl).2
  · rfl

theorem scanNumber_pointed {ds es : List Char} (h : IsDigits ds) (h' : IsDigits es)
    (rest : List Char) : scanNumber (ds ++ '.' :: (es ++ rest)) =
      .ok (ofChars .number (ds ++ '.' :: (es ++ rest.takeWhile Char.isDigit))) := by
  have hp : ∀ c, ('.' :: (es ++ rest)).head? = some c → c.isDigit = false := by simp
  obtain ⟨ht, hd⟩ := h.takeWhile_stop hp
  simp only [scanNumber, ht, hd, h'.takeWhile_append]
  obtain ⟨c, cs, rfl, -⟩ := isDigits_cons h'
  rfl

theorem scanString_closed {body : List Char} (h : ∀ c ∈ body, isStringBody c = true)
    (rest : List Char) : scanString (body ++ '"' :: rest) = .ok (ofChars .string body) := by
  have hq : isStringBody '"' = false := by decide
  simp [scanString, List.takeWhile_append_of_pos h, List.dropWhile_append_of_pos h, hq]

/-! What is scanned is well formed. -/

theorem word_wellFormed {cs : List Char} (h : IsWord cs) : (word cs).WellFormed := by
  unfold word
  cases hk : Kind.keyword? (String.ofList cs) with
  | none => exact .name h hk
  | some k =>
    obtain ⟨hm, hn⟩ := Kind.keyword?_eq_some hk
    have hw := WellFormed.keyword hm
    rwa [hn] at hw

theorem operator_wellFormed {c : Char} {single double : Kind} (rest : List Char)
    (hs : single.symbol? = some [c]) (hd : double.symbol? = some [c, '=']) :
    (operator c single double rest).WellFormed := by
  unfold operator
  split
  · exact .symbol hd
  · exact .symbol hs

theorem scanNumber_wellFormed {c : Char} {rest : List Char} {l : Lexeme} (hc : c.isDigit = true)
    (h : scanNumber (c :: rest) = .ok l) : l.WellFormed := by
  have hw := isDigits_takeWhile hc rest
  simp only [scanNumber] at h
  split at h
  · rename_i rest' _
    split at h
    · cases h
    · rename_i hf
      cases h
      refine .number (.pointed hw ⟨hf, ?_⟩)
      exact fun d hd => List.all_eq_true.1 List.all_takeWhile d hd
  · cases h
    exact .number (.whole hw)

theorem scanString_wellFormed {rest : List Char} {l : Lexeme} (h : scanString rest = .ok l) :
    l.WellFormed := by
  simp only [scanString] at h
  split at h
  · cases h
  · split at h
    · cases h
      exact .string fun d hd => List.all_eq_true.1 List.all_takeWhile d hd
    · cases h

theorem scan_wellFormed {cs : List Char} {l : Lexeme} (h : scan cs = .ok l) : l.WellFormed := by
  cases scanned h with
  | ending => exact .ending
  | newline | plus | minus | asterisk | slash | notEqual => exact .symbol rfl
  | assign | greater | less => exact operator_wellFormed _ rfl rfl
  | string hr => exact scanString_wellFormed hr
  | number hd hr => exact scanNumber_wellFormed hd hr
  | word ha =>
    refine word_wellFormed ⟨_, _, rfl, ha, ?_⟩
    exact fun d hd => List.all_eq_true.1 List.all_takeWhile d hd

namespace WellFormed

variable {l : Lexeme} (h : l.WellFormed)

include h

theorem newline_text (hk : l.kind = .newline) : l.text = "\n" := by
  cases h with
  | symbol hs =>
    cases hk
    cases hs
    rfl
  | keyword hm =>
    cases hk
    exact absurd hm (by decide)
  | _ => cases hk

theorem line_text (hk : l.kind ≠ .newline) : '\n' ∉ l.text.toList := by
  cases h with
  | ending => simp
  | @symbol kind cs hs =>
    rw [ofChars_text, String.toList_ofList]
    cases kind <;> cases hs
    case symbol.newline.refl => exact absurd rfl hk
    all_goals decide
  | @keyword kind hm =>
    revert hm
    cases kind <;> decide
  | name hw =>
    obtain ⟨c, ds, rfl, hc, hd⟩ := hw
    rw [ofChars_text, String.toList_ofList, List.mem_cons, not_or]
    refine ⟨?_, fun hm => absurd (hd _ hm) (by decide)⟩
    rintro rfl
    exact absurd hc (by decide)
  | number hn =>
    rw [ofChars_text, String.toList_ofList]
    cases hn with
    | whole hd => exact fun hm => absurd (hd.2 _ hm) (by decide)
    | pointed hd hd' =>
      simp only [List.mem_append, List.mem_cons, not_or]
      exact ⟨fun hm => absurd (hd.2 _ hm) (by decide), by decide,
        fun hm => absurd (hd'.2 _ hm) (by decide)⟩
  | string hb =>
    rw [ofChars_text, String.toList_ofList]
    exact fun hm => absurd (hb _ hm) (by decide)

theorem line_spelling (hk : l.kind ≠ .newline) : '\n' ∉ l.spelling := by
  have ht := h.line_text hk
  unfold spelling
  split
  · simp [ht]
  · exact ht

end WellFormed

/-! Whatever well-formed lexeme begins a text, what is scanned from it is as long. -/

theorem symbol?_ne_string {kind : Kind} {cs : List Char} (h : kind.symbol? = some cs) :
    kind ≠ .string := by
  rintro rfl
  cases h

theorem symbol?_length {kind : Kind} {cs : List Char} (h : kind.symbol? = some cs) :
    ∃ c, cs = [c] ∨ cs = [c, '='] := by
  cases kind <;> cases h <;> simp

theorem scan_double {kind : Kind} {c : Char} (h : kind.symbol? = some [c, '='])
    (rest : List Char) : scan (c :: '=' :: rest) = .ok (ofChars kind [c, '=']) := by
  cases kind <;> cases h <;> rfl

theorem isWord_keyword {kind : Kind} (h : kind ∈ Kind.keywords) : IsWord kind.name.toList := by
  cases kind
  all_goals first
    | exact absurd h (by decide)
    | exact ⟨_, _, rfl, by decide, List.all_eq_true.1 (by decide)⟩

theorem word_keyword {kind : Kind} (h : kind ∈ Kind.keywords) :
    word kind.name.toList = ⟨kind, kind.name⟩ := by
  simp [word, ofChars, Kind.keyword?_name h]

theorem goesOn_keyword {kind : Kind} (h : kind ∈ Kind.keywords) (c : Char) :
    goesOn ⟨kind, kind.name⟩ c = isAlphanumeric c := by
  revert h
  cases kind <;> simp [goesOn, Kind.isKeyword, Kind.keywords]

theorem word_name {cs : List Char} (h : Kind.keyword? (String.ofList cs) = none) :
    word cs = ofChars .identifier cs := by
  simp [word, h]

theorem scan_word {cs : List Char} (h : IsWord cs) (rest : List Char) :
    scan (cs ++ rest) = .ok (word (cs ++ rest.takeWhile isAlphanumeric)) := by
  obtain ⟨c, ds, rfl, hc, hd⟩ := h
  rw [List.cons_append, scan_alphabetic hc, List.takeWhile_append_of_pos hd]
  rfl

theorem scan_cons_length {c : Char} {rest : List Char} {l : Lexeme}
    (h : scan (c :: rest) = .ok l) : 0 < l.spelling.length := by
  refine List.length_pos_iff.2 ((scan_spelling h).2 fun hk => ?_)
  cases scan_end h hk

theorem scan_longest {cs : List Char} {l : Lexeme} (h : scan cs = .ok l) : l.Longest cs := by
  rintro l' hl ⟨rest, rfl⟩
  cases hl with
  | ending => exact Nat.zero_le _
  | symbol hs =>
    rw [spelling_ofChars (symbol?_ne_string hs)] at h ⊢
    obtain ⟨c, rfl | rfl⟩ := symbol?_length hs
    · exact scan_cons_length h
    · rw [List.cons_append, List.cons_append, scan_double hs] at h
      cases h
      simp [spelling_ofChars (symbol?_ne_string hs)]
  | keyword hk =>
    rw [← word_keyword hk, spelling_word] at h ⊢
    rw [scan_word (isWord_keyword hk)] at h
    cases h
    simp [spelling_word]
  | name hw hk =>
    rw [← word_name hk, spelling_word] at h ⊢
    rw [scan_word hw] at h
    cases h
    simp [spelling_word]
  | number hn =>
    rw [spelling_ofChars (by decide)] at h ⊢
    rw [scan_numeral hn] at h
    cases hn with
    | whole hd =>
      have hp := (scanNumber_spelling h).2.2.length_le
      rw [hd.takeWhile_append, List.length_append] at hp
      omega
    | pointed hd hd' =>
      rw [List.append_assoc, List.cons_append, scanNumber_pointed hd hd'] at h
      cases h
      rw [spelling_ofChars (by decide)]
      simp
  | string hb =>
    rw [spelling_ofChars_string] at h ⊢
    have hs : scan ('"' :: (_ ++ '"' :: rest)) = .ok _ := scanString_closed hb rest
    rw [List.cons_append, List.append_assoc, List.singleton_append, hs] at h
    cases h
    simp [spelling_ofChars_string]

/-! A well-formed lexeme that the next character does not go on with is scanned as it is. -/

theorem scan_operator {c : Char} {single double : Kind} {rest : List Char}
    (h : rest.head? ≠ some '=') : operator c single double rest = ofChars single [c] :=
  if_neg h

theorem scan_symbol {kind : Kind} {cs rest : List Char} (h : kind.symbol? = some cs)
    (ha : (ofChars kind cs).Apart rest) : scan (cs ++ rest) = .ok (ofChars kind cs) := by
  have ho : kind = .assign ∨ kind = .less ∨ kind = .greater → rest.head? ≠ some '=' := by
    intro hk hr
    have := ha '=' hr
    rcases hk with rfl | rfl | rfl <;> cases this
  cases kind <;> cases h <;> try rfl
  all_goals
    show Except.ok (operator _ _ _ rest) = _
    rw [scan_operator (ho (by simp))]

theorem scan_word_apart {cs rest : List Char} (h : IsWord cs)
    (ha : ∀ c, rest.head? = some c → isAlphanumeric c = false) :
    scan (cs ++ rest) = .ok (word cs) := by
  rw [scan_word h]
  cases rest with
  | nil => simp
  | cons c rest => simp [ha c rfl]

theorem scan_number_apart {cs rest : List Char} (h : IsNumeral cs)
    (ha : ∀ c, rest.head? = some c → c.isDigit = false ∧ c ≠ '.') :
    scan (cs ++ rest) = .ok (ofChars .number cs) := by
  rw [scan_numeral h]
  cases h with
  | whole h => exact scanNumber_whole h ha
  | pointed h h' =>
    rw [List.append_assoc, List.cons_append, scanNumber_pointed h h']
    cases rest with
    | nil => simp
    | cons c rest => simp [(ha c rfl).1]

theorem apart_nil (l : Lexeme) : l.Apart [] := by
  intro c hc
  cases hc

/-- A well-formed lexeme is read back from its spelling. -/
theorem scan_spelling_append {l : Lexeme} {rest : List Char} (h : l.WellFormed)
    (ha : l.Apart rest) : scan (l.spelling ++ rest) = .ok l := by
  cases h with
  | ending =>
    cases rest with
    | nil => rfl
    | cons c rest => cases ha c rfl
  | symbol hs =>
    rw [spelling_ofChars (symbol?_ne_string hs)]
    exact scan_symbol hs ha
  | keyword hk =>
    rw [← word_keyword hk, spelling_word]
    refine scan_word_apart (isWord_keyword hk) fun c hc => ?_
    rw [← goesOn_keyword hk]
    exact ha c hc
  | name hw hk =>
    rw [← word_name hk, spelling_word]
    exact scan_word_apart hw ha
  | number hn =>
    rw [spelling_ofChars (by decide)]
    refine scan_number_apart hn fun c hc => ?_
    simpa [goesOn] using ha c hc
  | string hb =>
    rw [spelling_ofChars_string, List.cons_append, List.append_assoc]
    exact scanString_closed hb rest

end Lexeme

def Token.lexeme (t : Token) : Lexeme := ⟨t.kind, t.text⟩

theorem Cursor.readToken_wellFormed {c d : Cursor} {t : Token} (h : c.readToken = (.ok t, d)) :
    t.lexeme.WellFormed := by
  rw [readToken] at h
  cases hs : Lexeme.scan c.skipGap.rest with
  | error f =>
    rw [readLexeme_error hs] at h
    cases h
  | ok l =>
    rw [readLexeme_ok hs] at h
    cases h
    exact Lexeme.scan_wellFormed hs

theorem Cursor.lex_wellFormed (c : Cursor) : ∀ t ∈ c.lex.tokens, t.lexeme.WellFormed := by
  induction c using lex_induction with
  | error c e d h => simp [lex_error h]
  | last c t d h ht => simp [lex_end h ht, readToken_wellFormed h]
  | token c t d h ht ih => simpa [lex_token h ht, readToken_wellFormed h] using ih

end TeenyFront
