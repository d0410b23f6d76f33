import TeenyFront.Proofs.Faults
import TeenyFront.Proofs.Iteration

/-!
# Reading on

What is read depends on no more than the characters that are left. Wherever a script leads, reading
on gives what a new stream on the rest of the source gives, behind errors and at the end too. Only
the positions differ: on the first line of the rest they count from where the cursor stands, and on
the lines below a column is the same in both.
-/

set_option autoImplicit false

namespace TeenyFront

namespace Position

/-- Where a position in a text is found if the text begins at `origin` and not at the start. -/
def relocate (origin p : Position) : Position :=
  if p.line = 1 then ⟨origin.line, origin.column + p.column - 1⟩
  else ⟨origin.line + p.line - 1, p.column⟩

theorem relocate_start (origin : Position) : origin.relocate start = origin := rfl

theorem line_relocate (origin p : Position) :
    (origin.relocate p).line = origin.line + p.line - 1 := by
  unfold relocate
  split
  · rename_i hp
    rw [hp]
    rfl
  · rfl

structure FromOne (p : Position) : Prop where
  line : 1 ≤ p.line
  column : 1 ≤ p.column

theorem fromOne_start : start.FromOne := ⟨Nat.le_refl 1, Nat.le_refl 1⟩

namespace FromOne

variable {p : Position} (h : p.FromOne)

include h

theorem next (c : Char) : (p.next c).FromOne := by
  unfold Position.next
  split
  · exact ⟨Nat.le_add_left 1 p.line, Nat.le_refl 1⟩
  · exact ⟨h.line, Nat.le_add_left 1 p.column⟩

theorem next_relocate (origin : Position) (c : Char) :
    (origin.relocate p).next c = origin.relocate (p.next c) := by
  obtain ⟨hl, hk⟩ := h
  by_cases hc : c = '\n'
  · -- The line below is not the first one, wherever this one is.
    have hne : p.line + 1 ≠ 1 := by omega
    have hbelow : origin.relocate ⟨p.line + 1, 1⟩ = ⟨origin.line + p.line, 1⟩ := if_neg hne
    have hline : origin.line + p.line - 1 + 1 = origin.line + p.line := by omega
    rw [Position.next, Position.next, if_pos hc, if_pos hc, line_relocate, hline, hbelow]
  · by_cases hp : p.line = 1
    · simp only [Position.next, if_neg hc, relocate, if_pos hp, mk.injEq, true_and]
      omega
    · simp only [Position.next, if_neg hc, relocate, if_neg hp]

theorem carries_relocate (origin : Position) : Carries origin.relocate p := by
  intro cs
  induction cs generalizing p with
  | nil => rfl
  | cons c cs ih => rw [after_cons, after_cons, h.next_relocate, ih (h.next c)]

end FromOne

end Position

theorem Ended.terminated_eq {cs : List Char} (h : Ended cs) (hne : cs ≠ []) :
    Cursor.terminated cs = cs := by
  obtain ⟨c, hc⟩ := Option.isSome_iff_exists.1 (List.getLast?_isSome.2 hne)
  exact if_pos (h c hc ▸ hc)

/-- What is left of a text is read as a source of its own would be, from another position on. -/
theorem Cursor.ofSource_relocate {c : Cursor} (he : Ended c.rest) (hne : c.rest ≠ []) :
    (ofSource (String.ofList c.rest)).mapPosition c.position.relocate = c := by
  rw [ofSource, String.toList_ofList, he.terminated_eq hne, mapPosition,
    Position.relocate_start]

def Item.mapPosition (f : Position → Position) (item : Item) : Item :=
  (item.map (Token.mapPosition f)).mapError (LexicalError.mapPosition f)

namespace TokenStream

/-- The results of so many readings, whether or not they fail and behind the end token too. -/
def readings (s : TokenStream) : Nat → List Item
  | 0 => []
  | n + 1 => s.readToken.1 :: s.readToken.2.readings n

theorem readings_mapPosition {f : Position → Position} {s s' : TokenStream}
    (hs : s'.cursor = s.cursor.mapPosition f) (hf : Position.Carries f s.cursor.position)
    (n : Nat) : s'.readings n = (s.readings n).map (Item.mapPosition f) := by
  induction n generalizing s s' with
  | zero => rfl
  | succ n ih =>
    have hread := Cursor.readToken_mapPosition hf
    rw [← hs] at hread
    have hitem : s'.readToken.1 = Item.mapPosition f s.readToken.1 := congrArg Prod.fst hread
    have hnext : s'.readToken.2.cursor = s.readToken.2.cursor.mapPosition f :=
      congrArg Prod.snd hread
    rw [readings, readings, List.map_cons, hitem, ih hnext (Cursor.carries_readToken hf)]

end TokenStream

namespace Scanner

def readings (s : Scanner) : Nat → Option (List Item)
  | 0 => some []
  | n + 1 => s.readToken.bind fun (item, t) => (t.readings n).map (item :: ·)

theorem Sound.readings_stream {s : Scanner} (h : s.Sound) (n : Nat) :
    s.readings n = some (s.stream.readings n) := by
  induction n generalizing s with
  | zero => rfl
  | succ n ih =>
    obtain ⟨t, hr, ht, hs⟩ := h.readToken_stream
    rw [readings, hr, TokenStream.readings, ← hs]
    exact congrArg (Option.map _) (ih ht.sound)

/-- After every script that leaves something to read, however often the scanner is read on, the
results are those of a new scanner that has only the rest for its source, with the same kinds, texts
and causes and with positions counted from where the old scanner stands. -/
theorem script_reads_as_new (source : String) (steps : List TokenStream.Step) :
    ∃ s, (ofSource source).script steps = some s ∧ (s.index < s.source.size → ∀ n, ∃ items,
      (ofSource (String.ofList (s.source.toList.drop s.index))).readings n = some items ∧
      s.readings n = some (items.map (Item.mapPosition s.position.relocate))) := by
  obtain ⟨s, hs, has, hstream⟩ := (sound_ofSource source).script steps
  refine ⟨s, hs, fun hlt n => ?_⟩
  have hne : s.cursor.rest ≠ [] := by
    rw [← List.length_pos_iff, length_rest]
    exact Nat.sub_pos_of_lt hlt
  have hended : Ended s.cursor.rest := by
    obtain ⟨before, -, -, he⟩ := TokenStream.script_behind source steps
    rwa [← stream_ofSource, ← hstream] at he
  refine ⟨_, (sound_ofSource _).readings_stream n, ?_⟩
  rw [has.sound.readings_stream, stream_ofSource]
  exact congrArg some (TokenStream.readings_mapPosition
    (Cursor.ofSource_relocate hended hne).symm (Position.fromOne_start.carries_relocate _) n)

/-- Past a lone exclamation mark a word is left on its line and an open string on the next. The word
is read further to the right than where it stands in what is left, the rest a line further down. -/
theorem script_reads_as_new_behind_error :
    ∃ s, (ofSource "a\n b !c\n\"d").script [.next, .readToken, .tokenize, .skip 1] = some s ∧
      s.index = 6 ∧ s.index < s.source.size ∧
      s.readings 5 = some [.ok ⟨.identifier, "c", ⟨2, 5⟩⟩, .ok ⟨.newline, "\n", ⟨2, 6⟩⟩,
        .error ⟨.forbiddenInString '\n', ⟨3, 3⟩⟩, .ok ⟨.newline, "\n", ⟨3, 3⟩⟩,
        .ok ⟨.eof, "", ⟨4, 1⟩⟩] := by
  obtain ⟨s, hs, hr⟩ :=
    script_reads_as_new "a\n b !c\n\"d" [.next, .readToken, .tokenize, .skip 1]
  obtain ⟨t, ht, hat, hstream⟩ := (sound_ofSource "a\n b !c\n\"d").script
    [.next, .readToken, .tokenize, .skip 1]
  cases hs.symm.trans ht
  have hcursor : s.cursor = ⟨['c', '\n', '"', 'd', '\n'], ⟨2, 5⟩⟩ := by
    rw [stream_ofSource] at hstream
    exact (congrArg TokenStream.cursor hstream).trans (by decide +kernel)
  have hindex : s.source.size - s.index = 5 := by
    rw [← length_rest, hcursor]
    rfl
  have hsize : s.source.size = 11 := by
    rw [hat.source]
    rfl
  have hrest : s.source.toList.drop s.index = ['c', '\n', '"', 'd', '\n'] :=
    congrArg Cursor.rest hcursor
  have hposition : s.position = ⟨2, 5⟩ := congrArg Cursor.position hcursor
  have hlt : s.index < s.source.size := by omega
  obtain ⟨items, hnew, hold⟩ := hr hlt 5
  rw [(sound_ofSource _).readings_stream, stream_ofSource, hrest] at hnew
  refine ⟨s, hs, by omega, hlt, ?_⟩
  rw [hold, hposition, ← Option.some.inj hnew]
  decide +kernel

end Scanner

end TeenyFront
