import TeenyFront.Proofs.JsonSkipping

/-!
# What is asked of a library for JSON

A library reads an object by the rules of JSON if it hands out the members in the order in which
they are written, and of each value what is written in every form that fits it. It writes records if
it writes JSON for them. The library that this program runs with does both.
-/

set_option autoImplicit false

namespace TeenyFront.Json

/-- A value is passed over in any case. It is a text or one of several names if it is a string, and
one of several names also as an object with the name for its only member and null for its value. -/
structure Offer.Gives {ε : Type} (o : Offer ε) (v : Value) : Prop where
  skipped : o.skipped = .ok ()
  text : ∀ s, v = .text s → o.text = .ok s
  choice : ∀ s, v = .text s ∨ v = .object [(s, .null)] →
    ∃ refuse, o.choice = .ok ⟨s, refuse, .ok ()⟩

inductive Members.Gives {ε : Type} : Members ε → List (String × Value) → Prop
  | done : Gives (.done (.ok ())) []
  | member {name : String} {refuse : String → ε} {o : Offer ε} {v : Value} {rest : Members ε}
      {ms : List (String × Value)} (h : o.Gives v) (hs : rest.Gives ms) :
      Gives (.member name refuse o rest) ((name, v) :: ms)

def ReadsObjects (ε : Type) [Library ε] : Prop :=
  ∀ (text : String) (ms : List (String × Value)), Written (.padded (.object ms)) text.toList →
    ∃ members : Members ε, Library.read text = .object members ∧ members.Gives ms

def Scalar.value : Scalar → Value
  | .text s => .text s
  | .number n => .numeral (Nat.toDigits 10 n)

def Record.members (r : Record) : List (String × Value) := r.map fun f => (f.1, f.2.value)

def WritesRecords (ε : Type) [Library ε] : Prop :=
  ∀ r : Record, Written (.value (.object r.members)) (Library.write (ε := ε) r).toList

structure Library.Lawful (ε : Type) [Library ε] : Prop where
  reads : ReadsObjects ε
  writes : WritesRecords ε

section

variable {bs : List Char} (h : Blank bs) (cs : List Char)

include h

/-! Blanks in front of a part do not count. -/

theorem readName_append : readName (bs ++ cs) = readName cs := by
  rw [readName, readName, skipBlank_append h]

theorem readString_append : readString (bs ++ cs) = readString cs := by
  rw [readString, readString, skipBlank_append h]

theorem readChoice_append : readChoice (bs ++ cs) = readChoice cs := by
  rw [readChoice, readChoice, skipBlank_append h]

theorem readSeparator_append (closer : Char) :
    readSeparator closer (bs ++ cs) = readSeparator closer cs := by
  rw [readSeparator, readSeparator, skipBlank_append h]

theorem readNull_append : readNull (bs ++ cs) = readNull cs := by
  rw [readNull, readNull, skipBlank_append h]

theorem readCloser_append (closer : Char) :
    readCloser closer (bs ++ cs) = readCloser closer cs := by
  rw [readCloser, readCloser, skipBlank_append h]

theorem readDocument_append : readDocument (bs ++ cs) = readDocument cs := by
  rw [readDocument, readDocument, skipBlank_append h]

theorem readEnd_blank : readEnd bs = .ok () := by
  rw [readEnd, skipBlank_blank h]

end

theorem readString_quoted {text cs : List Char} (h : Quoted text cs) (rest : List Char) :
    readString (cs ++ rest) = .ok (text, rest) := by
  obtain ⟨tail, heq, hread, -⟩ := h.read rest
  rw [heq, readString, skipBlank_cons rfl]
  exact hread

theorem readChoice_quoted {text cs : List Char} (h : Quoted text cs) (rest : List Char) :
    readChoice (cs ++ rest) = .ok (choiceOf text (.ok ())) := by
  obtain ⟨tail, heq, hread, -⟩ := h.read rest
  rw [heq, readChoice, skipBlank_cons rfl]
  simp only [if_pos, hread]
  rfl

theorem readNull_null (cs : List Char) : readNull ('n' :: 'u' :: 'l' :: 'l' :: cs) = .ok cs := rfl

theorem readTag_null {back front tail : List Char} (hb : Blank back) (hf : Blank front)
    (ht : Blank tail) (rest : List Char) :
    readTag (back ++ ':' :: (front ++ (['n', 'u', 'l', 'l'] ++ (tail ++ '\x7d' :: rest)))) =
      .ok () := by
  rw [readTag, readColon_append hb, ok_bind, readNull_append hf, List.cons_append, List.cons_append,
    List.cons_append, List.cons_append, List.nil_append, readNull_null, ok_bind,
    readCloser_append ht]
  rfl

theorem readChoice_tag {s : String} {cs : List Char}
    (h : Written (.value (.object [(s, .null)])) cs) (rest : List Char) :
    readChoice (cs ++ rest) = .ok (choiceOf s.toList (.ok ())) := by
  have ho (tail : List Char) : readChoice ('\x7b' :: tail) =
      (readName tail).map fun r => choiceOf r.1 (readTag r.2) := rfl
  cases h with
  | object h =>
    cases h with
    | last h =>
      cases h with
      | member hf hn hb h =>
        cases h with
        | padded hf' h hb' =>
          cases h
          simp only [List.cons_append, List.append_assoc, List.nil_append]
          rw [ho, readName_append hf, readName_quoted hn]
          exact congrArg (fun t => Except.ok (choiceOf s.toList t)) (readTag_null hb hf' hb' rest)
    | members _ hs => cases hs

section

variable {v : Value} {front cs : List Char} {rest : List Char} (hf : Blank front)
  (h : Written (.value v) cs) (hr : Numeral.Stops rest)

include hf h hr

theorem offer_gives : (offer (.ok (front ++ (cs ++ rest)))).Gives v where
  skipped := by
    show (skipValue (front ++ (cs ++ rest))).map _ = _
    rw [skipValue_written hf h hr]
    rfl
  text := by
    rintro s rfl
    cases h with
    | text h =>
      show (readString (front ++ (cs ++ rest))).map _ = _
      rw [readString_append hf, readString_quoted h, Except.map, String.ofList_toList]
  choice := by
    intro s hs
    have hchoice : choiceOf s.toList (.ok ()) = ⟨s, fun _ => .unfitting, .ok ()⟩ := by
      rw [choiceOf, String.ofList_toList]
    refine ⟨fun _ => .unfitting, ?_⟩
    show readChoice (front ++ (cs ++ rest)) = _
    rw [readChoice_append hf, ← hchoice]
    rcases hs with rfl | rfl
    · cases h with
      | text h => exact readChoice_quoted h rest
    · exact readChoice_tag h rest

end

section

variable {cs behind rest : List Char} {name : String}
  (hn : readName cs = .ok (name.toList, behind))

include hn

theorem members_eq : ∃ next, members cs =
      .member name (fun _ => .unfitting) (offer (readColon behind)) next ∧
    (passMember behind = .ok (false, rest) → next = .done (readEnd rest)) ∧
    (passMember behind = .ok (true, rest) → next = members rest) := by
  rw [members]
  split
  · rename_i hr
    rw [hn] at hr
    cases hr
  · rename_i hr
    rw [hn] at hr
    cases hr
    rw [String.ofList_toList]
    refine ⟨_, rfl, fun hp => ?_, fun hp => ?_⟩
    · split <;> simp_all
    · split <;> simp_all

end

section

variable {cs : List Char} {rest : List Char}

theorem member_gives {name : String} {v : Value} (h : Written (.member (name, v)) cs) {c : Char}
    {more : Bool} (hc : c ∈ [',', ']', '\x7d'])
    (hs : readSeparator '\x7d' (c :: rest) = .ok (more, rest)) :
    ∃ behind, readName (cs ++ c :: rest) = .ok (name.toList, behind) ∧
      (offer (readColon behind)).Gives v ∧ passMember behind = .ok (more, rest) := by
  cases h with
  | member hf hn hb h =>
    cases h with
    | @padded _ front ws back hf' h hb' =>
      have hstops : Numeral.Stops (back ++ c :: rest) := (Numeral.stops_cons hc).behind_blanks hb'
      simp only [List.append_assoc, List.cons_append]
      refine ⟨_, (readName_append hf _).trans (readName_quoted hn _), ?_, ?_⟩
      · rw [readColon_append hb]
        exact offer_gives hf' h hstops
      · rw [passMember, readColon_append hb, ok_bind, skipValue_written hf' h hstops, ok_bind,
          readSeparator_append hb', hs]

theorem members_give {ms : List (String × Value)} (h : Written (.members ms) cs)
    (hr : Blank rest) : (members (cs ++ '\x7d' :: rest)).Gives ms := by
  induction ms generalizing cs with
  | nil => cases h
  | cons m ms ih =>
    obtain ⟨name, v⟩ := m
    cases h with
    | last h =>
      obtain ⟨behind, hn, ho, hp⟩ := member_gives h (by decide) (readSeparator_brace rest)
      obtain ⟨next, hm, hlast, -⟩ := members_eq hn
      rw [hm, hlast hp, readEnd_blank hr]
      exact .member ho .done
    | members h hs =>
      rw [List.append_assoc, List.cons_append]
      obtain ⟨behind, hn, ho, hp⟩ := member_gives h (by decide) (readSeparator_comma _)
      obtain ⟨next, hm, -, hmore⟩ := members_eq hn
      rw [hm, hmore hp]
      exact .member ho (ih hs)

end

theorem readDocument_empty {cs rest : List Char} (h : skipBlank cs = '\x7d' :: rest) :
    readDocument ('\x7b' :: cs) = .object (.done (readEnd rest)) := by
  rw [readDocument, skipBlank_cons rfl]
  simp only [h]

theorem readDocument_members {cs rest : List Char} (h : skipBlank cs = '"' :: rest) :
    readDocument ('\x7b' :: cs) = .object (members cs) := by
  rw [readDocument, skipBlank_cons rfl]
  simp only [h]
  rfl

theorem readsObjects : ReadsObjects Defect := by
  intro text ms h
  show ∃ ms', readDocument text.toList = _ ∧ _
  generalize text.toList = cs at h
  cases h with
  | padded hf h hb =>
    rw [readDocument_append hf]
    cases h with
    | @noMembers bs hbs =>
      have hs (rest : List Char) : skipBlank (bs ++ '\x7d' :: rest) = '\x7d' :: rest :=
        (skipBlank_append hbs _).trans (skipBlank_cons rfl _)
      rw [List.cons_append, List.append_assoc, List.singleton_append, readDocument_empty (hs _)]
      exact ⟨_, rfl, readEnd_blank hb ▸ .done⟩
    | object h =>
      have hm := members_give h hb
      obtain ⟨tail, hs⟩ := h.members_begin ('\x7d' :: _)
      rw [List.cons_append, List.append_assoc, List.singleton_append, readDocument_members hs]
      exact ⟨_, rfl, hm⟩

/-! Records are written as JSON. -/

theorem unsigned_toDigits (n : Nat) : Numeral.Unsigned (Nat.toDigits 10 n) := by
  have hd : Numeral.Digits (Nat.toDigits 10 n) :=
    ⟨Nat.toDigits_ne_nil, fun d => Nat.isDigit_of_mem_toDigits (by decide) (by decide)⟩
  have hz : (Nat.toDigits 10 n).head? = some '0' → Nat.toDigits 10 n = ['0'] := by
    intro hhead
    by_cases hn : n = 0
    · rw [hn]
      rfl
    · exact absurd hhead (head?_toDigits hn)
  have h := Numeral.Unsigned.parts hd hz .none .none
  rwa [List.nil_append, List.append_nil] at h

theorem Scalar.written (v : Scalar) : Written (.value v.value) v.render := by
  cases v with
  | text s => exact .text (quoted_literal s.toList)
  | number n => exact .numeral (unsigned_toDigits n)

theorem written_field (f : String × Scalar) {front back : List Char} (hf : Blank front)
    (hb : Blank back) :
    Written (.member (f.1, f.2.value)) (front ++ (Record.field [':', ' '] f ++ back)) := by
  have h := Written.member hf (quoted_literal f.1.toList) (by decide : Blank [])
    (.padded blank_space f.2.written hb)
  simpa [Record.field] using h

theorem written_fields (f : String × Scalar) (r : Record) {back : List Char} (hb : Blank back) :
    Written (.members (Record.members (f :: r)))
      ('\n' :: (List.intercalate [',', '\n']
        ((f :: r).map fun f => ' ' :: ' ' :: Record.field [':', ' '] f) ++ back)) := by
  have hfront : Blank ['\n', ' ', ' '] := by decide
  induction r generalizing f with
  | nil =>
    rw [List.map_singleton, List.intercalate_singleton]
    exact .last (written_field f hfront hb)
  | cons g r ih =>
    have h := Written.members (written_field f hfront (by decide : Blank [])) (ih g)
    rw [List.map_cons, List.map_cons, List.intercalate_cons_cons]
    simpa [Record.members] using h

theorem writesRecords : WritesRecords Defect := by
  intro r
  show Written _ r.spread.toList
  rw [Record.spread, String.toList_ofList]
  cases r with
  | nil => exact .noMembers (by decide : Blank ['\n', '\n'])
  | cons f r =>
    have h := Written.object (written_fields f r (by decide : Blank ['\n']))
    simpa using h

theorem lawful : Library.Lawful Defect := ⟨readsObjects, writesRecords⟩

end TeenyFront.Json
