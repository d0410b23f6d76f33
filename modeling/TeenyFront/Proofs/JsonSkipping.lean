import TeenyFront.Proofs.JsonGrammar

/-!
# Values are skipped to their end

A value that is not kept is skipped by a machine with the open enclosures on a stack. What is
written for a value takes the machine from awaiting a value to having it, with the stack as it was.
So a value is skipped to its last character and no further, however deep it nests.
-/

set_option autoImplicit false

namespace TeenyFront.Json

open Numeral (Stops)

theorem skipScalar_digit {d : Char} (hd : d.isDigit = true) (cs : List Char) :
    skipScalar d cs = skipNumeral (d :: cs) := by
  unfold skipScalar
  split <;> first | cases hd | exact if_pos hd

namespace Skip

variable {outer : List Enclosure} {cs rest : List Char}

theorem run_step {s t : Skip} (h : s.step = .ok (some t)) : s.run = t.run := by
  rw [run]
  split <;> simp_all

theorem run_scalar {c : Char} (hc : isBlank c = false) (hl : c ≠ '[') (ho : c ≠ '\x7b')
    (h : skipScalar c cs = .ok rest) : run ⟨outer, true, c :: cs⟩ = run ⟨outer, false, rest⟩ := by
  apply run_step
  simp only [step, if_true, skipBlank_cons hc, h]
  rfl

theorem run_noElements {bs : List Char} (hb : Blank bs) :
    run ⟨outer, true, '[' :: (bs ++ ']' :: rest)⟩ = run ⟨outer, false, rest⟩ := by
  have hs : skipBlank (bs ++ ']' :: rest) = ']' :: rest := by
    rw [skipBlank_append hb]
    rfl
  have ho : skipBlank ('[' :: (bs ++ ']' :: rest)) = '[' :: (bs ++ ']' :: rest) := rfl
  apply run_step
  simp only [step, if_true, ho, hs]

theorem run_elements {c : Char} {tail : List Char} (hs : skipBlank cs = c :: tail) (hc : c ≠ ']') :
    run ⟨outer, true, '[' :: cs⟩ = run ⟨.list :: outer, true, cs⟩ := by
  have ho : skipBlank ('[' :: cs) = '[' :: cs := rfl
  apply run_step
  simp only [step, if_true, ho, hs]
  split
  · rename_i heq
    exact absurd (List.cons.inj heq).1 hc
  · rfl

theorem run_noMembers {bs : List Char} (hb : Blank bs) :
    run ⟨outer, true, '\x7b' :: (bs ++ '\x7d' :: rest)⟩ = run ⟨outer, false, rest⟩ := by
  have hs : skipBlank (bs ++ '\x7d' :: rest) = '\x7d' :: rest := by
    rw [skipBlank_append hb]
    rfl
  have ho : skipBlank ('\x7b' :: (bs ++ '\x7d' :: rest)) = '\x7b' :: (bs ++ '\x7d' :: rest) := rfl
  apply run_step
  simp only [step, if_true, ho, hs]

theorem run_members {tail mid : List Char} (hs : skipBlank cs = '"' :: tail)
    (hn : skipName cs = .ok mid) :
    run ⟨outer, true, '\x7b' :: cs⟩ = run ⟨.object :: outer, true, mid⟩ := by
  have ho : skipBlank ('\x7b' :: cs) = '\x7b' :: cs := rfl
  apply run_step
  simp only [step, if_true, ho, hs, hn]
  rfl

theorem run_nextElement :
    run ⟨.list :: outer, false, ',' :: rest⟩ = run ⟨.list :: outer, true, rest⟩ := run_step rfl

theorem run_nextMember {mid : List Char} (hn : skipName rest = .ok mid) :
    run ⟨.object :: outer, false, ',' :: rest⟩ = run ⟨.object :: outer, true, mid⟩ := by
  apply run_step
  show (skipName rest).map _ = _
  rw [hn]
  rfl

theorem run_close (e : Enclosure) :
    run ⟨e :: outer, false, e.closer :: rest⟩ = run ⟨outer, false, rest⟩ := by
  cases e with
  | list => exact run_step rfl
  | object => exact run_step rfl

theorem run_error {s : Skip} {d : Defect} (h : s.step = .error d) : s.run = .error d := by
  rw [run]
  split <;> simp_all

theorem complete_of_step {s : Skip} (h : s.step = .ok none) :
    s.awaiting = false ∧ s.outer = [] := by
  have hmap {x : Except Defect (List Char)} {f : List Char → Skip} :
      x.map (fun rest => some (f rest)) ≠ .ok none := by
    intro hx
    cases x <;> cases hx
  unfold step at h
  split at h
  · split at h
    · cases h
    · split at h <;> cases h
    · split at h
      · cases h
      · exact absurd h hmap
    · exact absurd h hmap
  · rename_i ha
    split at h
    · rename_i ho
      exact ⟨Bool.eq_false_iff.2 ha, ho⟩
    · split at h
      · cases h
      · split at h
        · cases h
        · exact absurd h hmap
      · split at h <;> cases h

theorem run_blank {bs : List Char} (hb : Blank bs) {awaiting : Bool}
    (ha : awaiting = true ∨ outer ≠ []) :
    run ⟨outer, awaiting, bs ++ cs⟩ = run ⟨outer, awaiting, cs⟩ := by
  have hstep : step ⟨outer, awaiting, bs ++ cs⟩ = step ⟨outer, awaiting, cs⟩ := by
    simp only [step, skipBlank_append hb]
  cases hs : step ⟨outer, awaiting, cs⟩ with
  | error d => rw [run_error hs, run_error (hstep.trans hs)]
  | ok next =>
    cases next with
    | some t => rw [run_step hs, run_step (hstep.trans hs)]
    | none =>
      obtain ⟨hc, ho⟩ := complete_of_step hs
      rcases ha with ha | ha
      · cases ha.symm.trans hc
      · exact absurd ho ha

end Skip

theorem readColon_append {bs : List Char} (hb : Blank bs) (cs : List Char) :
    readColon (bs ++ ':' :: cs) = .ok cs := by
  rw [readColon, skipBlank_append hb]
  rfl

theorem skipName_quoted {name front ns back cs : List Char} (hf : Blank front)
    (hn : Quoted name ns) (hb : Blank back) :
    skipName (front ++ (ns ++ (back ++ ':' :: cs))) = .ok cs := by
  obtain ⟨tail, heq, -, hskip⟩ := hn.read (back ++ ':' :: cs)
  rw [skipName, skipBlank_append hf, heq, skipBlank_cons rfl]
  show (skipText tail).bind readColon = _
  rw [hskip]
  exact readColon_append hb cs

/-! What each piece of text does to the machine, whatever stands behind it. -/

/-- A value that is awaited is had; a list or an object that is open is closed. A member is passed
behind its name, and a value of a list or an object only if an enclosure is open. -/
def Skipped : Part → List Char → Prop
  | .value _, cs => ∀ outer rest, Stops rest →
      Skip.run ⟨outer, true, cs ++ rest⟩ = Skip.run ⟨outer, false, rest⟩
  | .padded _, cs => ∀ e outer rest, Stops rest →
      Skip.run ⟨e :: outer, true, cs ++ rest⟩ = Skip.run ⟨e :: outer, false, rest⟩
  | .elements _, cs => ∀ outer rest,
      Skip.run ⟨.list :: outer, true, cs ++ ']' :: rest⟩ = Skip.run ⟨outer, false, rest⟩
  | .member _, cs => ∀ outer rest, Stops rest → ∃ mid, skipName (cs ++ rest) = .ok mid ∧
      Skip.run ⟨.object :: outer, true, mid⟩ = Skip.run ⟨.object :: outer, false, rest⟩
  | .members _, cs => ∀ outer rest, ∃ mid, skipName (cs ++ '\x7d' :: rest) = .ok mid ∧
      Skip.run ⟨.object :: outer, true, mid⟩ = Skip.run ⟨outer, false, rest⟩

theorem Written.skipped {p : Part} {cs : List Char} (h : Written p cs) : Skipped p cs := by
  -- What stands behind a piece is arbitrary, except that a numeral must not go on there.
  induction h with
  | null => exact fun outer rest _ => Skip.run_scalar rfl (by decide) (by decide) rfl
  | isTrue => exact fun outer rest _ => Skip.run_scalar rfl (by decide) (by decide) rfl
  | isFalse => exact fun outer rest _ => Skip.run_scalar rfl (by decide) (by decide) rfl
  | numeral h =>
    intro outer rest hr
    have hs := skipNumeral_append h hr
    obtain ⟨d, ds, rfl, hd⟩ := h.begins
    apply Skip.run_scalar (isBlank_digit hd)
    · rintro rfl
      cases hd
    · rintro rfl
      cases hd
    · exact (skipScalar_digit hd _).trans hs
  | negative h =>
    exact fun outer rest hr => Skip.run_scalar rfl (by decide) (by decide) (skipNumeral_append h hr)
  | text h =>
    intro outer rest _
    obtain ⟨tail, heq, -, hskip⟩ := h.read rest
    rw [heq]
    exact Skip.run_scalar rfl (by decide) (by decide) hskip
  | noElements hb =>
    intro outer rest _
    rw [List.cons_append, List.append_assoc]
    exact Skip.run_noElements hb
  | list h ih =>
    intro outer rest _
    obtain ⟨c, tail, hs, hc⟩ := h.elements_begin (']' :: rest)
    rw [List.cons_append, List.append_assoc, ← ih outer rest]
    exact Skip.run_elements hs hc
  | noMembers hb =>
    intro outer rest _
    rw [List.cons_append, List.append_assoc]
    exact Skip.run_noMembers hb
  | object h ih =>
    intro outer rest _
    obtain ⟨mid, hn, hr⟩ := ih outer rest
    obtain ⟨tail, hs⟩ := h.members_begin ('\x7d' :: rest)
    rw [List.cons_append, List.append_assoc, ← hr]
    exact Skip.run_members hs hn
  | padded hf h hb ih =>
    intro e outer rest hr
    rw [List.append_assoc, List.append_assoc, Skip.run_blank hf (.inl rfl),
      ih _ _ (hr.behind_blanks hb)]
    exact Skip.run_blank hb (.inr (List.cons_ne_nil e outer))
  | element h ih =>
    intro outer rest
    rw [ih .list outer _ (Numeral.stops_cons (by decide))]
    exact Skip.run_close .list
  | elements h hs ih ihs =>
    intro outer rest
    rw [List.append_assoc, List.cons_append, ih .list outer _ (Numeral.stops_cons (by decide)),
      Skip.run_nextElement, ihs]
  | member hf hn hb h ih =>
    intro outer rest hr
    refine ⟨_, ?_, ih .object outer rest hr⟩
    simp only [List.append_assoc, List.cons_append]
    exact skipName_quoted hf hn hb
  | last h ih =>
    intro outer rest
    obtain ⟨mid, hn, hr⟩ := ih outer ('\x7d' :: rest) (Numeral.stops_cons (by decide))
    exact ⟨mid, hn, hr.trans (Skip.run_close .object)⟩
  | @members m ms cs ds h hs ih ihs =>
    intro outer rest
    obtain ⟨mid, hn, hr⟩ := ihs outer rest
    obtain ⟨mid', hn', hr'⟩ :=
      ih outer (',' :: (ds ++ '\x7d' :: rest)) (Numeral.stops_cons (by decide))
    refine ⟨mid', ?_, ?_⟩
    · rw [List.append_assoc, List.cons_append]
      exact hn'
    · rw [hr', Skip.run_nextMember hn, hr]

/-- A value is skipped to its end and no further. -/
theorem skipValue_written {v : Value} {bs cs rest : List Char} (hb : Blank bs)
    (h : Written (.value v) cs) (hr : Stops rest) : skipValue (bs ++ (cs ++ rest)) = .ok rest := by
  have hend : Skip.step ⟨[], false, rest⟩ = .ok none := rfl
  rw [skipValue, Skip.run_blank hb (.inl rfl), h.skipped [] rest hr, Skip.run]
  split <;> simp_all

end TeenyFront.Json
