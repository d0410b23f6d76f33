import TeenyFront.Proofs.Runs
import TeenyFront.Proofs.SettingsText
import TeenyFront.Proofs.Trees

/-!
# Where settings come from

The bytes of the settings file give the settings, or the error with which loading ends whatever the
environment asks for. Then the variable for the trace format replaces the format alone. Settings
that were saved are the ones that are loaded next, up to this variable. Of the store it is only
asked that bytes which were written can be read at the same path; a tree keeps to this.
-/

set_option autoImplicit false

namespace TeenyFront

open Files

namespace TraceFormat

def Named (f : TraceFormat) (name : String) : Prop :=
  ∃ front word back : List Char, name.toList = front ++ (word ++ back) ∧
    (∀ c ∈ front ++ back, Text.isWhiteSpace c = true) ∧ word.map Char.toLower = f.name.toList

theorem toLower_whiteSpace {c : Char} (h : Text.isWhiteSpace c = true) : c.toLower = c := by
  obtain ⟨r, hr, hl, hu⟩ := (Text.RangeTable.contains_iff _ c).1 h
  have hc : ¬(c.val ≥ 'A'.val ∧ c.val ≤ 'Z'.val) := by
    simp only [Text.whiteSpace, List.mem_cons, List.not_mem_nil, or_false] at hr
    rw [ge_iff_le, UInt32.le_iff_toNat_le, UInt32.le_iff_toNat_le]
    change ¬(65 ≤ c.toNat ∧ c.toNat ≤ 90)
    rcases hr with rfl | rfl | rfl | rfl | rfl | rfl | rfl | rfl | rfl | rfl <;>
      simp only at hl hu <;> omega
  exact dif_neg hc

theorem name_solid (f : TraceFormat) : ∀ c ∈ f.name.toList, Text.isWhiteSpace c = false := by
  have h : f.name.toList.all (fun c => !Text.isWhiteSpace c) = true := by
    cases f <;> decide +kernel
  exact fun c hc => by simpa using List.all_eq_true.1 h c hc

theorem dropWhile_solid {p : Char → Bool} {front word : List Char} (hf : ∀ c ∈ front, p c = true)
    (hw : ∀ c ∈ word, p c = false) (hne : word ≠ []) (back : List Char) :
    (front ++ (word ++ back)).dropWhile p = word ++ back := by
  rw [List.dropWhile_append_of_pos hf]
  cases word with
  | nil => contradiction
  | cons c word => simp [hw c List.mem_cons_self]

theorem trim_split (cs : List Char) : ∃ front back, cs = front ++ (trim cs ++ back) ∧
    ∀ c ∈ front ++ back, Text.isWhiteSpace c = true := by
  let rest := cs.dropWhile Text.isWhiteSpace
  refine ⟨cs.takeWhile Text.isWhiteSpace, (rest.reverse.takeWhile Text.isWhiteSpace).reverse,
    ?_, ?_⟩
  · rw [trim, ← List.reverse_append, List.takeWhile_append_dropWhile, List.reverse_reverse,
      List.takeWhile_append_dropWhile]
  · intro c hc
    rw [List.mem_append, List.mem_reverse] at hc
    rcases hc with hc | hc
    · exact List.all_eq_true.1 List.all_takeWhile c hc
    · exact List.all_eq_true.1 List.all_takeWhile c hc

theorem trim_solid {front word back : List Char}
    (hs : ∀ c ∈ front ++ back, Text.isWhiteSpace c = true)
    (hw : ∀ c ∈ word, Text.isWhiteSpace c = false) (hne : word ≠ []) :
    trim (front ++ (word ++ back)) = word := by
  have hfront : ∀ c ∈ front, Text.isWhiteSpace c = true := fun c hc =>
    hs c (List.mem_append_left back hc)
  have hback : ∀ c ∈ back.reverse, Text.isWhiteSpace c = true := fun c hc =>
    hs c (List.mem_append_right front (List.mem_reverse.1 hc))
  have hword : ∀ c ∈ word.reverse, Text.isWhiteSpace c = false := fun c hc =>
    hw c (List.mem_reverse.1 hc)
  have hrev := dropWhile_solid hback hword (fun h => hne (List.reverse_eq_nil_iff.1 h)) []
  rw [List.append_nil] at hrev
  rw [trim, dropWhile_solid hfront hw hne, List.reverse_append, hrev, List.reverse_reverse]

theorem ofName?_eq_some {name : String} {f : TraceFormat} :
    ofName? name = some f ↔ f.name = name := by
  constructor
  · intro h
    rw [ofName?] at h
    have hb := List.find?_some h
    exact eq_of_beq hb
  · rintro rfl
    exact Settings.ofName?_name f

theorem ofLooseName?_eq_some {name : String} {f : TraceFormat} :
    ofLooseName? name = some f ↔ f.Named name := by
  rw [ofLooseName?, ofName?_eq_some]
  constructor
  · intro h
    obtain ⟨front, back, hs, hw⟩ := trim_split name.toList
    refine ⟨front, trim name.toList, back, hs, hw, ?_⟩
    rw [h, String.toList_ofList]
  · rintro ⟨front, word, back, hs, hw, hl⟩
    have hsolid : ∀ c ∈ word, Text.isWhiteSpace c = false := by
      intro c hc
      rw [← Bool.not_eq_true]
      intro hb
      have hm : c.toLower ∈ f.name.toList := hl ▸ List.mem_map_of_mem hc
      rw [toLower_whiteSpace hb] at hm
      rw [name_solid f c hm] at hb
      cases hb
    have hne : word ≠ [] := by
      rintro rfl
      cases f <;> cases hl
    rw [hs, trim_solid hw hsolid hne, hl, String.ofList_toList]

theorem ofLooseName?_eq_none {name : String} :
    ofLooseName? name = none ↔ ∀ f : TraceFormat, ¬f.Named name := by
  simp only [Option.eq_none_iff_forall_ne_some, ne_eq, ofLooseName?_eq_some]

end TraceFormat

namespace Files

theorem fromUTF8?_cases (bytes : ByteArray) :
    (∃ text : String, bytes = text.toUTF8 ∧ String.fromUTF8? bytes = some text) ∨
      ((∀ text : String, text.toUTF8 ≠ bytes) ∧ String.fromUTF8? bytes = none) := by
  by_cases h : bytes.IsValidUTF8
  · exact .inl ⟨.ofByteArray bytes h, rfl, dif_pos h⟩
  · refine .inr ⟨?_, dif_neg h⟩
    rintro text rfl
    exact h text.isValidUTF8

/-- Bytes whose writing succeeds are the bytes that are read at the same path next. -/
def Retains (σ : Type) [Store (StateM σ)] : Prop :=
  ∀ (path : String) (bytes : ByteArray) (s s' : σ),
    (Store.writeBytes path bytes : StateM σ (Except FileError Unit)).run s = (.ok (), s') →
    ((Store.readBytes path : StateM σ (Except FileError ByteArray)).run s').1 = .ok bytes

theorem Tree.run_writeBytes {t : Tree} {path : String} {bytes : ByteArray}
    {r : Except FileError Unit} {t' : Tree}
    (h : (Store.writeBytes path bytes : StateM Tree (Except FileError Unit)).run t = (r, t')) :
    (∃ e, r = .error e ∧ t' = t) ∨ (r = .ok () ∧ t.writeBytes path bytes = .ok t') := by
  dsimp only [StateT.run, Store.writeBytes] at h
  cases hw : t.writeBytes path bytes with
  | error e =>
    rw [hw] at h
    cases h
    exact .inl ⟨e, rfl, rfl⟩
  | ok t'' =>
    rw [hw] at h
    cases h
    exact .inr ⟨rfl, rfl⟩

theorem Tree.retains : Retains Tree := by
  intro path bytes t t' h
  rcases Tree.run_writeBytes h with ⟨e, he, -⟩ | ⟨-, hw⟩
  · cases he
  · exact find_file_iff.1 (find_written hw)

end Files

namespace Environment

/-- The two environments differ in one variable at the most. -/
def AgreesBut (name : String) (env env' : Environment) : Prop :=
  ∀ n, n ≠ name → env.bytes? n = env'.bytes? n

theorem AgreesBut.settingsPath {env env' : Environment}
    (h : AgreesBut "TEENY_TRACE_FORMAT" env env') : env.settingsPath = env'.settingsPath := by
  have hp := h "TEENY_CONFIG" (by decide)
  have hh := h "HOME" (by decide)
  rw [Environment.settingsPath, Environment.settingsPath, text?, text?, text?, text?, hp, hh]

end Environment

namespace Settings

/-- The settings in the file at a path, by what reading its bytes gives. -/
inductive OfFile {ε : Type} [Json.Library ε] (path : String) :
    Except FileError ByteArray → Except Failure Settings → Prop
  | missing : OfFile path (.error .notFound) (.ok standard)
  | unreadable {e : FileError} (he : e ≠ .notFound) : OfFile path (.error e) (.error (.files e))
  | noText {bytes : ByteArray} (hb : ∀ text : String, text.toUTF8 ≠ bytes) :
      OfFile path (.ok bytes) (.error (.files .invalidText))
  | defect {text : String} {e : ε} (hp : parse text = .error e) :
      OfFile path (.ok text.toUTF8)
        (.error (.settings (path ++ ": " ++ Json.Library.message e)))
  | settings {text : String} {s : Settings} (hp : parse text = .ok s) :
      OfFile path (.ok text.toUTF8) (.ok s)

inductive Overridden : Except Failure Settings → Option ByteArray → Except Failure Settings → Prop
  | error (f : Failure) (value : Option ByteArray) : Overridden (.error f) value (.error f)
  | unset (s : Settings) : Overridden (.ok s) none (.ok s)
  | noText (s : Settings) {bytes : ByteArray} (hb : ∀ text : String, text.toUTF8 ≠ bytes) :
      Overridden (.ok s) (some bytes) (.ok s)
  | format (s : Settings) {name : String} {f : TraceFormat} (hf : f.Named name) :
      Overridden (.ok s) (some name.toUTF8) (.ok ⟨f, s.logFilter⟩)
  | unknown (s : Settings) {name : String} (hf : ∀ f : TraceFormat, ¬f.Named name) :
      Overridden (.ok s) (some name.toUTF8)
        (.error (.settings ("unknown TEENY_TRACE_FORMAT " ++ Text.quotedString name)))

theorem ofFile_ofContents {ε : Type} [Json.Library ε] (path : String)
    (contents : Except FileError ByteArray) :
    OfFile path contents ((ofContents path (decoded contents)).mapError LoadError.failure) := by
  cases contents with
  | error e =>
    by_cases he : e = .notFound
    · subst he
      exact .missing
    · have ho : ofContents path (decoded (.error e)) = .error (.file e) := by
        cases e <;> first | rfl | contradiction
      rw [ho]
      exact .unreadable he
  | ok bytes =>
    rcases fromUTF8?_cases bytes with ⟨text, rfl, hu⟩ | ⟨hb, hu⟩
    · simp only [decoded, hu, ofContents]
      cases hp : parse text with
      | error d => exact .defect hp
      | ok s => exact .settings hp
    · simp only [decoded, hu, ofContents]
      exact .noText hb

theorem overridden_override (env : Environment) (base : Except LoadError Settings) :
    Overridden (base.mapError LoadError.failure) (env.bytes? "TEENY_TRACE_FORMAT")
      ((base.bind (override env)).mapError LoadError.failure) := by
  cases base with
  | error e => exact .error e.failure _
  | ok s =>
    show Overridden (.ok s) _ ((override env s).mapError LoadError.failure)
    rw [override, Environment.text?]
    cases env.bytes? "TEENY_TRACE_FORMAT" with
    | none => exact .unset s
    | some bytes =>
      rcases fromUTF8?_cases bytes with ⟨name, rfl, hu⟩ | ⟨hb, hu⟩
      · simp only [Option.bind_some, hu]
        cases hf : TraceFormat.ofLooseName? name with
        | none => exact .unknown s (TraceFormat.ofLooseName?_eq_none.1 hf)
        | some f => exact .format s (TraceFormat.ofLooseName?_eq_some.1 hf)
      · simp only [Option.bind_some, hu]
        exact .noText s hb

section

variable {σ : Type} [Store (StateM σ)] {ε : Type} [Json.Library ε] {env env' : Environment}
  {s s' : σ}

theorem run_load_of (h : env'.AgreesBut "TEENY_TRACE_FORMAT" env)
    {contents : Except FileError ByteArray}
    (hr : (Store.readBytes env.settingsPath : StateM σ (Except FileError ByteArray)).run s =
      (contents, s')) :
    ∃ loaded, (load env' : StateM σ (Except LoadError Settings)).run s = (loaded, s') ∧
      Overridden ((ofContents env.settingsPath (decoded contents)).mapError LoadError.failure)
        (env'.bytes? "TEENY_TRACE_FORMAT") (loaded.mapError LoadError.failure) := by
  refine ⟨_, ?_, overridden_override env' _⟩
  rw [load, h.settingsPath, StateT.run_bind, run_readText_of hr]
  rfl

theorem run_save_ok {c : Settings}
    (h : (save env c : StateM σ (Except FileError Unit)).run s = (.ok (), s')) :
    ∃ s₁, (Store.writeBytes env.settingsPath c.render.toUTF8 :
      StateM σ (Except FileError Unit)).run s₁ = (.ok (), s') := by
  rw [save, StateT.run_bind] at h
  rcases hp : (Store.createParents env.settingsPath : StateM σ (Except FileError Unit)).run s with
    ⟨r, s₁⟩
  rw [hp] at h
  cases r with
  | error e => cases h
  | ok _ => exact ⟨s₁, h⟩

end

/-- Loading goes by the file first, whose errors end it, and then by the variable for the format,
which replaces nothing but the format. What was saved is loaded again in the same environment, but
for the format if the variable asks for one. -/
theorem load_goes_by_file {σ : Type} [Store (StateM σ)] (hσ : Retains σ) {ε : Type}
    [Json.Library ε] (hε : Json.Library.Lawful ε) (env : Environment) (s : σ) :
    (∃ contents s' base,
      (Store.readBytes env.settingsPath : StateM σ (Except FileError ByteArray)).run s =
        (contents, s') ∧
      OfFile env.settingsPath contents base ∧
      ∀ env' : Environment, env'.AgreesBut "TEENY_TRACE_FORMAT" env → ∃ loaded,
        (load env' : StateM σ (Except LoadError Settings)).run s = (loaded, s') ∧
        Overridden base (env'.bytes? "TEENY_TRACE_FORMAT") (loaded.mapError LoadError.failure)) ∧
    ∀ (c : Settings) (s' : σ),
      (save env c : StateM σ (Except FileError Unit)).run s = (.ok (), s') →
      ∀ env' : Environment, env'.AgreesBut "TEENY_TRACE_FORMAT" env → ∃ loaded s'',
        (load env' : StateM σ (Except LoadError Settings)).run s' = (loaded, s'') ∧
        Overridden (.ok c) (env'.bytes? "TEENY_TRACE_FORMAT")
          (loaded.mapError LoadError.failure) := by
  constructor
  · rcases hr : (Store.readBytes env.settingsPath :
        StateM σ (Except FileError ByteArray)).run s with ⟨contents, s'⟩
    exact ⟨contents, s', _, rfl, ofFile_ofContents _ _, fun env' h => run_load_of h hr⟩
  · intro c s' hsave env' h
    obtain ⟨s₁, hwrite⟩ := run_save_ok hsave
    have hread := hσ _ _ _ _ hwrite
    rcases hr : (Store.readBytes env.settingsPath :
        StateM σ (Except FileError ByteArray)).run s' with ⟨contents, s''⟩
    rw [hr] at hread
    dsimp only at hread
    subst hread
    obtain ⟨loaded, hload, ho⟩ := run_load_of h hr
    have hbase : ofContents env.settingsPath (decoded (.ok c.render.toUTF8)) = .ok c := by
      simp only [decoded, Tree.fromUTF8?_toUTF8, ofContents, parse_render hε]
    rw [hbase] at ho
    exact ⟨loaded, s'', hload, ho⟩

theorem load_goes_by_shouted_format :
    ∃ (env : Environment) (t t' t'' : Tree) (loaded : Except LoadError Settings),
      env.bytes? "TEENY_TRACE_FORMAT" = some " JSON\n".toUTF8 ∧
      (save env ⟨.text, "debug"⟩ : StateM Tree (Except FileError Unit)).run t = (.ok (), t') ∧
      (load env : StateM Tree (Except LoadError Settings)).run t' = (loaded, t'') ∧
      Overridden (.ok ⟨.text, "debug"⟩) (some " JSON\n".toUTF8)
        (loaded.mapError LoadError.failure) ∧
      loaded = .ok ⟨.json, "debug"⟩ := by
  let env : Environment := (Environment.empty.set "TEENY_CONFIG" "a/c.json".toUTF8).set
    "TEENY_TRACE_FORMAT" " JSON\n".toUTF8
  let saving : StateM Tree (Except FileError Unit) := save env ⟨.text, "debug"⟩
  let t' : Tree := (saving.run (.empty "w")).2
  have hsaved : (saving.run (.empty "w")).1 = .ok () := by decide +kernel
  have hsave : saving.run (.empty "w") = (.ok (), t') := Prod.ext hsaved rfl
  obtain ⟨loaded, t'', hload, ho⟩ :=
    (load_goes_by_file Tree.retains Json.lawful env (.empty "w")).2 _ t' hsave env fun _ _ => rfl
  have hloaded : ((load env : StateM Tree (Except LoadError Settings)).run t').1 =
      .ok ⟨.json, "debug"⟩ := by decide +kernel
  rw [hload] at hloaded
  exact ⟨env, .empty "w", t', t'', loaded, rfl, hsave, hload, ho, hloaded⟩

end Settings

end TeenyFront
