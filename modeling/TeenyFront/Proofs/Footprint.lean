import TeenyFront.Proofs.Precedence

/-!
# What a run leaves behind

Only the command that creates the settings file changes a tree, and only if nothing is found at the
path of that file. Then it makes directories and writes the standard settings, after which it finds
them there and changes nothing any more. A file that stood in the tree stays as it was, unless the
path turns back up to it from a directory that was missing: making this directory uncovers the file,
which is then written over.
-/

set_option autoImplicit false

namespace TeenyFront

open Files

section

variable {ε : Type} [Json.Library ε]

theorem Settings.run_save_cases {env : Environment} {c : Settings} {t t' : Tree}
    {r : Except FileError Unit}
    (h : (save env c : StateM Tree (Except FileError Unit)).run t = (r, t')) :
    (∃ e, r = .error e ∧ Tree.Grown t t') ∨
      (r = .ok () ∧ ∃ t₁, Tree.Grown t t₁ ∧
        t₁.writeBytes env.settingsPath c.render.toUTF8 = .ok t') := by
  have hmade : (Store.createParents env.settingsPath :
      StateM Tree (Except FileError Unit)).run t = t.createParents env.settingsPath := rfl
  have hg := Tree.grown_createParents t env.settingsPath
  rw [save, StateT.run_bind, hmade] at h
  rcases hc : t.createParents env.settingsPath with ⟨made, t₁⟩
  rw [hc] at h hg
  cases made with
  | error e =>
    cases h
    exact .inl ⟨e, rfl, hg⟩
  | ok _ =>
    rcases Tree.run_writeBytes h with ⟨e, rfl, rfl⟩ | ⟨rfl, hw⟩
    · exact .inl ⟨e, rfl, hg⟩
    · exact .inr ⟨rfl, t₁, hg, hw⟩

namespace Command

variable (env : Environment) (t : Tree)

/-- What a command does to a tree, and its exit code. -/
inductive Does : Command → Nat → Tree → Prop
  | nothing {c : Command} {code : Nat}
      (hc : c = .initSettings → t.isPresent env.settingsPath = true ∧ code = 0) : Does c code t
  | fails {t' : Tree} (hn : t.isPresent env.settingsPath = false) (hg : Tree.Grown t t') :
      Does .initSettings 1 t'
  | writes {t₁ t' : Tree} (hn : t.isPresent env.settingsPath = false) (hg : Tree.Grown t t₁)
      (hw : t₁.writeBytes env.settingsPath Settings.standard.render.toUTF8 = .ok t') :
      Does .initSettings 0 t'

theorem run_onSource_still (path : String) (report : String → Report) :
    ∃ r, (onSource path report : StateM Tree Report).run t = (r, t) := by
  have hf : (Store.isFile path : StateM Tree Bool).run t = (t.isFile path, t) := rfl
  have hr : ∃ r, (readSource path : StateM Tree (Except Failure String)).run t = (r, t) := by
    rw [readSource, run_bind_still hf]
    cases t.isFile path with
    | false => exact ⟨_, rfl⟩
    | true =>
      rw [if_pos rfl, run_bind_still (run_readText t path)]
      cases t.text path with
      | error e => exact ⟨_, rfl⟩
      | ok source => exact ⟨_, rfl⟩
  obtain ⟨r, hr⟩ := hr
  rw [onSource, run_bind_still hr]
  cases r with
  | error f => exact ⟨_, rfl⟩
  | ok source => exact ⟨_, rfl⟩

theorem createSettings_does {r : Report} {t' : Tree}
    (h : (createSettings env : StateM Tree Report).run t = (r, t')) :
    Does env t .initSettings r.exitCode t' := by
  have hp : (Store.isPresent env.settingsPath : StateM Tree Bool).run t =
      (t.isPresent env.settingsPath, t) := rfl
  rw [createSettings, run_bind_still hp] at h
  cases hn : t.isPresent env.settingsPath with
  | true =>
    rw [hn] at h
    cases h
    exact .nothing fun _ => ⟨hn, rfl⟩
  | false =>
    rw [hn, if_neg nofun, StateT.run_bind] at h
    rcases hs : (Settings.standard.save env : StateM Tree (Except FileError Unit)).run t with
      ⟨saved, t₁⟩
    rw [hs] at h
    rcases Settings.run_save_cases hs with ⟨e, rfl, hg⟩ | ⟨rfl, t₂, hg, hw⟩
    · cases h
      exact .fails hn hg
    · cases h
      exact .writes hn hg hw

theorem execute_does (s : Settings) {c : Command} {r : Report} {t' : Tree}
    (h : (c.execute env s : StateM Tree Report).run t = (r, t')) :
    Does env t c r.exitCode t' := by
  cases c with
  | lex file json =>
    obtain ⟨r', hr⟩ := run_onSource_still t file (listTokens · json)
    cases hr.symm.trans h
    exact .nothing nofun
  | parse file format =>
    obtain ⟨r', hr⟩ := run_onSource_still t file (printTrace · (format.getD s.traceFormat))
    cases hr.symm.trans h
    exact .nothing nofun
  | showSettings =>
    cases h
    exact .nothing nofun
  | initSettings => exact createSettings_does env t h

theorem run_does {c : Command} {r : Report} {t' : Tree}
    (h : (c.run env : StateM Tree Report).run t = (r, t')) : Does env t c r.exitCode t' := by
  rw [run_eq] at h
  rcases hx : (c.execute env (Settings.effective (Settings.loaded env t)) :
    StateM Tree Report).run t with ⟨r', t''⟩
  rw [hx] at h
  cases h
  have hd := execute_does env t _ hx
  exact hd

end Command

section

variable {env : Environment} {t t' : Tree}

theorem Command.Does.changes {c : Command} {code : Nat} (h : Does env t c code t') :
    t' = t ∨ Request.run c = .run .initSettings ∧ t.isPresent env.settingsPath = false := by
  cases h with
  | nothing hc => exact .inl rfl
  | fails hn hg => exact .inr ⟨rfl, hn⟩
  | writes hn hg hw => exact .inr ⟨rfl, hn⟩

/-- The tree keeps its files, those apart that are overlooked at the path of the settings. -/
theorem Command.Does.keeps (hw : t.WellFormed) {c : Command} {code : Nat}
    (h : Does env t c code t') {l : Location} {bytes : ByteArray}
    (hf : t.entry? l = some (.file bytes)) :
    t'.entry? l = some (.file bytes) ∨ t.Overlooks env.settingsPath l := by
  cases h with
  | nothing hc => exact .inl hf
  | fails hn hg => exact .inl (hg.kept l _ hf)
  | writes hn hg hwrite =>
    obtain ⟨hs, k, hk, -, rfl⟩ := Tree.writeBytes_ok hwrite
    by_cases hl : l = k
    · subst hl
      exact .inr (Tree.overlooks_of_grown hw hg hs hn hk hf)
    · rw [Tree.set_other _ _ hl]
      exact .inl (hg.kept l _ hf)

/-- The settings file was created: directories were made, and at the path there are the standard
settings and nothing else is different. They are loaded next, and asking for the settings file again
changes nothing, however often. -/
structure Created (env : Environment) (t t' : Tree) : Prop where
  found : t'.find env.settingsPath = .ok (.file Settings.standard.render.toUTF8)
  rest : ∀ l, t'.locate env.settingsPath ≠ .ok l →
    t'.entry? l = t.entry? l ∨ t.entry? l = none ∧ t'.entry? l = some .directory
  loaded : ∀ env' : Environment, env'.AgreesBut "TEENY_TRACE_FORMAT" env →
    env'.text? "TEENY_TRACE_FORMAT" = none →
    (Settings.load env' : StateM Tree (Except Settings.LoadError Settings)).run t' =
      (.ok .standard, t')
  again : ∀ env' : Environment, env'.AgreesBut "TEENY_TRACE_FORMAT" env → ∀ args,
    Request.ofArguments args = .run .initSettings → ∀ n, ∃ reports : List Report,
      ((List.replicate n args).mapM (runArguments env') : StateM Tree (List Report)).run t' =
        (reports, t') ∧ reports.length = n ∧ ∀ r ∈ reports, r.exitCode = 0

theorem runArguments_command {args : List String} {c : Command}
    (ha : Request.ofArguments args = .run c) :
    (runArguments env args : StateM Tree Report) = c.run env := by
  rw [runArguments, ha]

theorem run_init_present (hp : t.isPresent env.settingsPath = true) {args : List String}
    (ha : Request.ofArguments args = .run .initSettings) :
    ∃ r, (runArguments env args : StateM Tree Report).run t = (r, t) ∧ r.exitCode = 0 := by
  rw [runArguments_command ha]
  rcases hr : (Command.initSettings.run env : StateM Tree Report).run t with ⟨r, t'⟩
  have hd := Command.run_does env t hr
  generalize hcode : r.exitCode = code at hd
  cases hd with
  | nothing hc => exact ⟨r, rfl, hcode.trans (hc rfl).2⟩
  | fails hn hg => simp [hn] at hp
  | writes hn hg hw => simp [hn] at hp

theorem run_inits_present (hp : t.isPresent env.settingsPath = true) {args : List String}
    (ha : Request.ofArguments args = .run .initSettings) (n : Nat) : ∃ reports : List Report,
      ((List.replicate n args).mapM (runArguments env) : StateM Tree (List Report)).run t =
        (reports, t) ∧ reports.length = n ∧ ∀ r ∈ reports, r.exitCode = 0 := by
  induction n with
  | zero => exact ⟨[], rfl, rfl, nofun⟩
  | succ n ih =>
    obtain ⟨r, hr, hcode⟩ := run_init_present hp ha
    obtain ⟨reports, hrun, hlen, hcodes⟩ := ih
    refine ⟨r :: reports, ?_, congrArg Nat.succ hlen, ?_⟩
    · rw [List.replicate_succ, List.mapM_cons, run_bind_still hr, run_bind_still hrun]
      rfl
    · intro r' hr'
      rcases List.mem_cons.1 hr' with rfl | hr'
      · exact hcode
      · exact hcodes r' hr'

theorem Settings.loaded_found (hε : Json.Library.Lawful ε) {c : Settings}
    (hf : t.find env.settingsPath = .ok (.file c.render.toUTF8))
    (hv : env.text? "TEENY_TRACE_FORMAT" = none) : Settings.loaded env t = .ok c := by
  rw [loaded, Tree.text_eq_ok.2 (Tree.hasText_of_find hf), ofContents, parse_render hε]
  show override env c = .ok c
  rw [override, hv]

theorem Command.Does.created (hε : Json.Library.Lawful ε)
    (hn : t.isPresent env.settingsPath = false)
    (h : Does env t .initSettings 0 t') : Created env t t' := by
  cases h with
  | nothing hc =>
    rw [(hc rfl).1] at hn
    cases hn
  | writes _ hg hw =>
    have hfound := Tree.find_written hw
    refine ⟨hfound, fun l hl => ?_, fun env' he hv => ?_, fun env' he args ha n => ?_⟩
    · obtain ⟨k, hk, rfl⟩ := Tree.locate_written hw
      have hlk : l ≠ k := by
        rintro rfl
        exact hl hk
      rw [Tree.set_other _ _ hlk]
      exact hg.entry_cases l
    · rw [Settings.run_load, Settings.loaded_found hε (he.settingsPath ▸ hfound) hv]
    · have hp : t'.isPresent env'.settingsPath = true := by
        rw [he.settingsPath, Tree.isPresent, hfound]
        rfl
      exact run_inits_present hp ha n

end

end

/-- A run changes a tree only if it is to create the settings file and finds nothing at the path,
be the settings that it goes by loaded or not. The files in the tree stay as they are, unless one is
overlooked. If the run succeeds then, the settings file is created for good. -/
theorem run_leaves_files {ε : Type} [Json.Library ε] (hε : Json.Library.Lawful ε) {t : Tree}
    (hw : t.WellFormed) (env : Environment) (args : List String) :
    ∃ report t', (runArguments env args : StateM Tree Report).run t = (report, t') ∧
      (t' = t ∨ Request.ofArguments args = .run .initSettings ∧
        t.isPresent env.settingsPath = false) ∧
      (∀ l bytes, t.entry? l = some (.file bytes) →
        t'.entry? l = some (.file bytes) ∨ t.Overlooks env.settingsPath l) ∧
      (Request.ofArguments args = .run .initSettings → t.isPresent env.settingsPath = false →
        report.exitCode = 0 → Created env t t') ∧
      ∀ c, Request.ofArguments args = .run c → ∃ loaded executed,
        (Settings.load env : StateM Tree (Except Settings.LoadError Settings)).run t =
          (loaded, t) ∧
        (c.execute env (Settings.effective loaded) : StateM Tree Report).run t =
          (executed, t') ∧
        report = executed.behind (Settings.warnings loaded) := by
  rcases hr : (runArguments env args : StateM Tree Report).run t with ⟨report, t'⟩
  refine ⟨report, t', rfl, ?_⟩
  cases ha : Request.ofArguments args with
  | run c =>
    rw [runArguments_command ha] at hr
    have hd := Command.run_does env t hr
    refine ⟨hd.changes, fun l bytes hf => hd.keeps hw hf, fun hc hn hcode => ?_, fun c' hc => ?_⟩
    · cases hc
      rw [hcode] at hd
      exact hd.created hε hn
    · cases hc
      rw [Command.run_eq] at hr
      cases hr
      exact ⟨_, _, Settings.run_load env t, rfl, rfl⟩
  | information =>
    rw [runArguments, ha] at hr
    cases hr
    refine ⟨.inl rfl, fun _ _ hf => .inl hf, fun hc => ?_, fun c hc => ?_⟩
    · cases hc
    · cases hc
  | misuse =>
    rw [runArguments, ha] at hr
    cases hr
    refine ⟨.inl rfl, fun _ _ hf => .inl hf, fun hc => ?_, fun c hc => ?_⟩
    · cases hc
    · cases hc

/-- The settings file is created in a new directory, under a variable that no format has as its
name. -/
theorem run_leaves_files_first_init :
    ∃ (env : Environment) (t t' : Tree) (report : Report), t.WellFormed ∧
      env.text? "TEENY_TRACE_FORMAT" = some "xml" ∧
      Request.ofArguments ["config", "init"] = .run .initSettings ∧
      t.isPresent env.settingsPath = false ∧
      (runArguments env ["config", "init"] : StateM Tree Report).run t = (report, t') ∧
      report.exitCode = 0 ∧ Created env t t' := by
  let env : Environment := (Environment.empty.set "TEENY_CONFIG" "a/c.json".toUTF8).set
    "TEENY_TRACE_FORMAT" "xml".toUTF8
  have hw : (Tree.empty "w").WellFormed := Tree.wellFormed_empty (by decide)
  have ha : Request.ofArguments ["config", "init"] = .run .initSettings := by decide
  have hv : env.text? "TEENY_TRACE_FORMAT" = some "xml" := Tree.fromUTF8?_toUTF8 "xml"
  have hn : Tree.isPresent (.empty "w") env.settingsPath = false := by decide +kernel
  obtain ⟨report, t', hr, -, -, hcreated, -⟩ :=
    run_leaves_files Json.lawful hw env ["config", "init"]
  have hcode : ((runArguments env ["config", "init"] :
      StateM Tree Report).run (.empty "w")).1.exitCode = 0 := by decide +kernel
  rw [hr] at hcode
  exact ⟨env, .empty "w", t', report, hw, hv, ha, hn, hr, hcode, hcreated ha hn hcode⟩

/-- A file can be lost. The path turns back up to it from a directory that is missing. -/
theorem run_loses_overlooked_file :
    ¬∀ (env : Environment) (args : List String) (t : Tree), t.WellFormed →
      ∀ l bytes, t.entry? l = some (.file bytes) →
        Tree.entry? ((runArguments env args : StateM Tree Report).run t).2 l =
          some (.file bytes) := by
  intro h
  let env : Environment := .set .empty "TEENY_CONFIG" "x/../c.json".toUTF8
  let t : Tree := .set (.empty "w") "/w/c.json" (.file "\x7b\x7d".toUTF8)
  have hnone : Tree.entry? (.empty "w") "/w/c.json" = none := by
    dsimp only [Tree.empty]
    exact if_neg (by decide)
  have hw : t.WellFormed := (Tree.wellFormed_empty (by decide)).set (by rfl) (by simp [hnone]) _
  let t' : Tree := ((runArguments env ["config", "init"] : StateM Tree Report).run t).2
  have hplace : t'.locate "c.json" = .ok "/w/c.json" := by decide +kernel
  have hread : t'.readBytes "c.json" = .ok Settings.standard.render.toUTF8 := by decide +kernel
  have hkept := h env ["config", "init"] t hw "/w/c.json" _ (Tree.set_self _ _ _)
  have hfind := Tree.find_eq_file.2 ⟨by decide, "/w/c.json", hplace, hkept⟩
  rw [Tree.find_file_iff.1 hfind] at hread
  exact absurd hread (by decide +kernel)

end TeenyFront
