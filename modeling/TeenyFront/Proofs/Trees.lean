import TeenyFront.Files.Tree

/-!
# Trees that change

Making directories only lets a tree grow: what stood in it stands there still, and paths that led
somewhere lead there still. A path that begins to lead somewhere went through a missing directory
before, and unless it turns back up from there, it leads to a place where nothing stood. What was
written at the end of a path is found there.
-/

set_option autoImplicit false

namespace TeenyFront.Files

namespace Path

theorem not_mem_pieces {path : String} {piece : List Char} (h : piece ∈ pieces path) :
    '/' ∉ piece := by
  unfold pieces at h
  generalize path.toList = cs at h
  induction cs generalizing piece with
  | nil =>
    rw [List.mem_singleton.1 h]
    exact List.not_mem_nil
  | cons c cs ih =>
    rw [List.foldr_cons, addChar] at h
    split at h
    · rcases List.mem_cons.1 h with rfl | h
      · exact List.not_mem_nil
      · exact ih h
    · rename_i hc
      rcases List.mem_cons.1 h with rfl | h
      · refine List.not_mem_cons_of_ne_of_not_mem (Ne.symm hc) ?_
        cases hp : cs.foldr addChar [[]] with
        | nil => exact List.not_mem_nil
        | cons first rest =>
          rw [hp] at ih
          exact ih List.mem_cons_self
      · exact ih (List.mem_of_mem_tail h)

theorem not_mem_steps {path step : String} (h : step ∈ steps path) : '/' ∉ step.toList := by
  obtain ⟨piece, hp, rfl⟩ := List.mem_map.1 h
  rw [String.toList_ofList]
  exact not_mem_pieces (List.mem_filter.1 hp).1

end Path

namespace Tree

/-- What stands anywhere but at the root stands in a directory. -/
def WellFormed (t : Tree) : Prop :=
  ∀ l, l ≠ root → t.entry? l ≠ none → t.entry? (above l) = some .directory

/-- A later tree in which there may be more directories. -/
structure Grown (t t' : Tree) : Prop where
  working : t'.working = t.working
  kept : ∀ l e, t.entry? l = some e → t'.entry? l = some e
  added : ∀ l, t.entry? l = none → t'.entry? l = none ∨ t'.entry? l = some .directory

theorem set_self (t : Tree) (l : Location) (e : Entry) : entry? (t.set l e) l = some e :=
  if_pos rfl

theorem set_other (t : Tree) {l k : Location} (e : Entry) (h : k ≠ l) :
    entry? (t.set l e) k = t.entry? k :=
  if_neg h

namespace Grown

variable {t t' t'' : Tree}

theorem refl (t : Tree) : Grown t t := ⟨rfl, fun _ _ h => h, fun _ h => .inl h⟩

theorem trans (h : Grown t t') (h' : Grown t' t'') : Grown t t'' where
  working := h'.working.trans h.working
  kept l e he := h'.kept l e (h.kept l e he)
  added l hl := by
    rcases h.added l hl with hl | hl
    · exact h'.added l hl
    · exact .inr (h'.kept l _ hl)

theorem set {l : Location} (h : t.entry? l = none) : Grown t (t.set l .directory) where
  working := rfl
  kept k e he := by
    have hk : k ≠ l := by
      rintro rfl
      rw [h] at he
      cases he
    rw [set_other t _ hk, he]
  added k hk := by
    by_cases hkl : k = l
    · rw [hkl, set_self]
      exact .inr rfl
    · rw [set_other t _ hkl]
      exact .inl hk

theorem entry_cases (h : Grown t t') (l : Location) : t'.entry? l = t.entry? l ∨
    t.entry? l = none ∧ t'.entry? l = some .directory := by
  cases he : t.entry? l with
  | none => exact (h.added l he).imp_right fun ha => ⟨rfl, ha⟩
  | some e => exact .inl (h.kept l e he)

end Grown

/-! Making directories lets a tree grow, be it to the end or up to an error. -/

theorem grown_createAlong (t : Tree) (made : Bool) (l : Location) (steps : List String) :
    Grown t (t.createAlong made l steps).2 := by
  induction steps generalizing t made l with
  | nil => exact .refl t
  | cons step steps ih =>
    rw [createAlong]
    split
    · exact .refl t
    · split
      · rename_i hnone
        exact (Grown.set hnone).trans (ih _ _ _)
      · exact ih _ _ _
      · exact .refl t

theorem grown_createParents (t : Tree) (path : String) : Grown t (t.createParents path).2 := by
  simp only [createParents]
  split
  · exact .refl t
  · exact grown_createAlong t _ _ _

/-! A walk that gets to its end has made its steps one after the other. -/

theorem walk_eq_foldl {t : Tree} {l k : Location} {steps : List String}
    (h : t.walk l steps = .ok k) : steps.foldl move l = k := by
  induction steps generalizing l with
  | nil =>
    cases h
    rfl
  | cons step steps ih =>
    unfold walk at h
    split at h
    · cases h
    · cases h
    · split at h
      · cases h
      · exact ih h

theorem walk_of_directories {t t' : Tree}
    (hd : ∀ l, t.entry? l = some .directory → t'.entry? l = some .directory) {l k : Location}
    {steps : List String} (h : t.walk l steps = .ok k) : t'.walk l steps = .ok k := by
  induction steps generalizing l with
  | nil => exact h
  | cons step steps ih =>
    unfold walk at h
    split at h
    · cases h
    · cases h
    · rename_i hl
      split at h
      · cases h
      · rename_i hn
        rw [walk, hd l hl, if_neg hn]
        exact ih h

section

variable {t t' : Tree}

/-- If a walk gets to its end only in the grown tree, a directory on its way was missing before. -/
theorem walk_of_grown (hg : Grown t t') {l k : Location} {steps : List String}
    (h : t'.walk l steps = .ok k) : t.walk l steps = .ok k ∨
      ∃ front back p, steps = front ++ back ∧ t.walk l front = .ok p ∧ t.entry? p = none ∧
        t'.walk p back = .ok k := by
  induction steps generalizing l with
  | nil => exact .inl h
  | cons step steps ih =>
    cases hl : t.entry? l with
    | none => exact .inr ⟨[], step :: steps, l, rfl, rfl, hl, h⟩
    | some e =>
      rw [walk, hg.kept l e hl] at h
      cases e with
      | file bytes => cases h
      | directory =>
        simp only at h
        split at h
        · cases h
        · rename_i hn
          have hwalk (rest : List String) :
              t.walk l (step :: rest) = t.walk (move l step) rest := by
            rw [walk, hl]
            exact if_neg hn
          rcases ih h with hw | ⟨front, back, p, rfl, hw, hp, hb⟩
          · exact .inl ((hwalk steps).trans hw)
          · exact .inr ⟨step :: front, back, p, rfl, (hwalk front).trans hw, hp, hb⟩

theorem below_ne_root (l : Location) (name : String) : below l name ≠ root := by
  intro h
  have hl := congrArg String.toList h
  simp [below, root] at hl

theorem above_below (l : Location) {name : String} (h : '/' ∉ name.toList) :
    above (below l name) = l := by
  have hname : ∀ c ∈ name.toList.reverse, decide (c ≠ '/') = true := by
    intro c hc
    refine decide_eq_true ?_
    rintro rfl
    exact h (List.mem_reverse.1 hc)
  have hl : (below l name).toList = l.toList ++ '/' :: name.toList := by
    simp [below]
  rw [above, hl, List.reverse_append, List.reverse_cons, List.append_assoc,
    List.dropWhile_append_of_pos hname]
  simp

theorem wellFormed_empty {name : String} (h : '/' ∉ name.toList) : (empty name).WellFormed := by
  intro l hl he
  have hname : l = below root name := Decidable.byContradiction fun hn =>
    he (if_neg (not_or.2 ⟨hl, hn⟩))
  rw [hname, above_below root h]
  simp [empty]

theorem WellFormed.set (hw : t.WellFormed) {l : Location}
    (ha : t.entry? (above l) = some .directory) (hl : t.entry? l ≠ some .directory) (e : Entry) :
    (t.set l e).WellFormed := by
  have hne {k : Location} (hk : t.entry? k = some .directory) : k ≠ l := by
    rintro rfl
    exact hl hk
  intro k hk he
  by_cases hkl : k = l
  · subst hkl
    rw [set_other t e (hne ha), ha]
  · rw [set_other t e hkl] at he
    have hak := hw k hk he
    rw [set_other t e (hne hak), hak]

/-- Behind a missing directory nothing stands, wherever steps lead that do not turn back up. -/
theorem missing_foldl (hw : t.WellFormed) {p : Location} (hp : t.entry? p = none)
    {steps : List String} (hs : ∀ step ∈ steps, '/' ∉ step.toList) (hu : ".." ∉ steps) :
    t.entry? (steps.foldl move p) = none := by
  induction steps generalizing p with
  | nil => exact hp
  | cons step steps ih =>
    rw [List.mem_cons, not_or] at hu
    refine ih ?_ (fun s h => hs s (List.mem_cons_of_mem step h)) hu.2
    unfold move
    rw [if_neg (Ne.symm hu.1)]
    split
    · exact hp
    · refine Decidable.byContradiction fun hb => ?_
      have ha := hw _ (below_ne_root p step) hb
      rw [above_below p (hs step List.mem_cons_self), hp] at ha
      cases ha

end

/-! A path leads where its steps do. -/

theorem locate_eq_ok {t : Tree} {path : String} {k : Location} : t.locate path = .ok k ↔
    path ≠ "" ∧ path.utf8ByteSize ≤ pathLimit ∧
      t.walk (t.origin path) (Path.steps path) = .ok k := by
  unfold locate follow
  split
  · simp_all
  · split
    · rename_i hl
      simp [Nat.not_le.2 hl]
    · rename_i hn hl
      simp [hn, Nat.not_lt.1 hl]

theorem locate_of_directories {t t' : Tree} (hworking : t'.working = t.working)
    (hd : ∀ l, t.entry? l = some .directory → t'.entry? l = some .directory) {path : String}
    {k : Location} (h : t.locate path = .ok k) : t'.locate path = .ok k := by
  obtain ⟨hne, hle, hw⟩ := locate_eq_ok.1 h
  have ho : t'.origin path = t.origin path := by rw [origin, origin, hworking]
  exact locate_eq_ok.2 ⟨hne, hle, ho ▸ walk_of_directories hd hw⟩

theorem find_eq_file {t : Tree} {path : String} {bytes : ByteArray} :
    t.find path = .ok (.file bytes) ↔ Path.endsInSlash path = false ∧
      ∃ k, t.locate path = .ok k ∧ t.entry? k = some (.file bytes) := by
  unfold find
  cases t.locate path with
  | error e => simp
  | ok k =>
    cases he : t.entry? k with
    | none => simp [he]
    | some e =>
      cases e with
      | directory => simp [he]
      | file b => cases hs : Path.endsInSlash path <;> simp [he]

theorem writeBytes_ok {t t' : Tree} {path : String} {bytes : ByteArray}
    (h : t.writeBytes path bytes = .ok t') : Path.endsInSlash path = false ∧
      ∃ k, t.locate path = .ok k ∧ t.entry? k ≠ some .directory ∧ t' = t.set k (.file bytes) := by
  unfold writeBytes at h
  split at h
  · split at h <;> cases h
  · rename_i hs
    refine ⟨Bool.eq_false_iff.2 hs, ?_⟩
    split at h
    · cases h
    · rename_i k hk
      split at h
      · cases h
      · rename_i hd
        cases h
        exact ⟨k, hk, hd, rfl⟩

theorem locate_written {t t' : Tree} {path : String} {bytes : ByteArray}
    (h : t.writeBytes path bytes = .ok t') :
    ∃ k, t'.locate path = .ok k ∧ t' = t.set k (.file bytes) := by
  obtain ⟨-, k, hk, hd, rfl⟩ := writeBytes_ok h
  -- The way to a place that is no directory does not pass through it.
  have hdirs (l : Location) (hl : t.entry? l = some .directory) :
      entry? (t.set k (.file bytes)) l = some .directory := by
    have hlk : l ≠ k := by
      rintro rfl
      exact hd hl
    rw [set_other t _ hlk, hl]
  have hworking : (t.set k (.file bytes)).working = t.working := rfl
  exact ⟨k, locate_of_directories hworking hdirs hk, rfl⟩

theorem find_written {t t' : Tree} {path : String} {bytes : ByteArray}
    (h : t.writeBytes path bytes = .ok t') : t'.find path = .ok (.file bytes) := by
  obtain ⟨k, hk, rfl⟩ := locate_written h
  exact find_eq_file.2 ⟨(writeBytes_ok h).1, k, hk, set_self t k _⟩

/-- A file that a path leads to only by turning back up from a missing directory, so that it is not
found at the end of the path. -/
def Overlooks (t : Tree) (path : String) (l : Location) : Prop :=
  ∃ front back p, Path.steps path = front ++ back ∧ t.walk (t.origin path) front = .ok p ∧
    t.entry? p = none ∧ ".." ∈ back ∧ (Path.steps path).foldl move (t.origin path) = l

/-- A path at whose end nothing is found leads to a file in a grown tree only if the file was
overlooked. -/
theorem overlooks_of_grown {t t' : Tree} (hw : t.WellFormed) (hg : Grown t t') {path : String}
    (hs : Path.endsInSlash path = false) (hn : t.isPresent path = false) {k : Location}
    (hk : t'.locate path = .ok k) {bytes : ByteArray} (hf : t.entry? k = some (.file bytes)) :
    t.Overlooks path k := by
  obtain ⟨hne, hle, hwalk⟩ := locate_eq_ok.1 hk
  have ho : t'.origin path = t.origin path := by rw [origin, origin, hg.working]
  rw [ho] at hwalk
  rcases walk_of_grown hg hwalk with hwalk' | ⟨front, back, p, hsteps, hfront, hp, hback⟩
  · have hfind := find_eq_file.2 ⟨hs, k, locate_eq_ok.2 ⟨hne, hle, hwalk'⟩, hf⟩
    rw [isPresent, hfind] at hn
    cases hn
  · refine ⟨front, back, p, hsteps, hfront, hp, ?_, walk_eq_foldl hwalk⟩
    refine Decidable.byContradiction fun hu => ?_
    have hslash : ∀ step ∈ back, '/' ∉ step.toList := fun step hm =>
      Path.not_mem_steps (hsteps ▸ List.mem_append_right front hm)
    have hmissing := missing_foldl hw hp hslash hu
    rw [walk_eq_foldl hback, hf] at hmissing
    cases hmissing

end Tree

end TeenyFront.Files
