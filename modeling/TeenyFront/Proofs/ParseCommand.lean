import TeenyFront.Proofs.Runs

/-!
# Checking a source from the command line

A run that checks a source accepts what checking the text accepts, lists the events of its trace and
prints its error. The arguments, the environment and the settings file only choose the form in which
the events are printed, and a warning is all that is left of settings that cannot be loaded.
-/

set_option autoImplicit false

namespace TeenyFront

open Files

def errorLines : Except ParseError Unit → List String
  | .ok () => []
  | .error e => [e.message]

/-- What a report says of a source that was checked with this result and these events. -/
structure Report.Tells (r : Report) (result : Except ParseError Unit) (events : List Event)
    (format : TraceFormat) (warnings : List String) : Prop where
  exitCode : r.exitCode = if result = .ok () then 0 else 1
  output : r.output = lines (events.map (Command.eventLine format) ++
    if result = .ok () ∧ format = .text then ["Parsing completed."] else [])
  errors : r.errors = lines (warnings ++ errorLines result)

theorem Report.Tells.behind {r : Report} {result : Except ParseError Unit} {events : List Event}
    {format : TraceFormat} {warnings : List String} (h : r.Tells result events format warnings)
    (ls : List String) : (r.behind ls).Tells result events format (ls ++ warnings) where
  exitCode := h.exitCode
  output := h.output
  errors := by
    show lines ls ++ r.errors = _
    rw [h.errors, ← lines_append, List.append_assoc]

theorem printTrace_tells {source : String} {result : Except ParseError Unit}
    {events : List Event} (h : traceInto source #[] = (result, events.toArray))
    (format : TraceFormat) :
    (Command.printTrace source format).Tells result events format [] := by
  have ho := printTrace_output h format
  rw [Command.printTrace, h] at ho ⊢
  cases result with
  | error e => exact ⟨rfl, ho, rfl⟩
  | ok _ => cases format <;> exact ⟨rfl, ho, rfl⟩

theorem parse_ok_iff {source : String} {result : Except ParseError Unit} {events : Array Event}
    (h : traceInto source #[] = (result, events)) :
    (∃ trace, parse source = .ok trace) ↔ result = .ok () := by
  rw [parse, h]
  cases result with
  | error e => simp
  | ok _ => simp

namespace Settings

/-- Where the trace format of loaded settings comes from: the environment, or else the settings
file, or else the standard settings. -/
inductive Chooses {ε : Type} [Json.Library ε] (env : Environment) (t : Tree) : TraceFormat → Prop
  | environment {name : String} {format : TraceFormat}
      (hv : env.text? "TEENY_TRACE_FORMAT" = some name)
      (hf : TraceFormat.ofLooseName? name = some format) : Chooses env t format
  | file {text : String} {s : Settings} (hv : env.text? "TEENY_TRACE_FORMAT" = none)
      (ht : t.HasText env.settingsPath text) (hs : parse text = .ok s) :
      Chooses env t s.traceFormat
  | standard (hv : env.text? "TEENY_TRACE_FORMAT" = none)
      (hn : t.readBytes env.settingsPath = .error .notFound) : Chooses env t .text

theorem override_ok {env : Environment} {base s : Settings} (h : override env base = .ok s) :
    (env.text? "TEENY_TRACE_FORMAT" = none ∧ s = base) ∨
      ∃ name format, env.text? "TEENY_TRACE_FORMAT" = some name ∧
        TraceFormat.ofLooseName? name = some format ∧ s.traceFormat = format := by
  rw [override] at h
  cases hv : env.text? "TEENY_TRACE_FORMAT" with
  | none =>
    rw [hv] at h
    cases h
    exact .inl ⟨rfl, rfl⟩
  | some name =>
    rw [hv] at h
    cases hf : TraceFormat.ofLooseName? name with
    | none => simp [hf] at h
    | some format =>
      simp only [hf] at h
      cases h
      exact .inr ⟨name, format, rfl, hf, rfl⟩

section

variable {ε : Type} [Json.Library ε]

theorem ofContents_ok {path : String} {t : Tree} {s : Settings}
    (h : ofContents path (t.text path) = .ok s) :
    (t.readBytes path = .error .notFound ∧ s = standard) ∨
      ∃ text, t.HasText path text ∧ parse text = .ok s := by
  cases ht : t.text path with
  | error e =>
    rw [ht] at h
    cases e with
    | notFound =>
      cases h
      exact .inl ⟨Tree.text_eq_notFound.1 ht, rfl⟩
    | _ => cases h
  | ok text =>
    rw [ht, ofContents] at h
    cases hp : parse text with
    | error d => simp [hp] at h
    | ok s' =>
      simp only [hp] at h
      cases h
      exact .inr ⟨text, Tree.text_eq_ok.1 ht, hp⟩

theorem loaded_chooses {env : Environment} {t : Tree} {s : Settings} (h : loaded env t = .ok s) :
    Chooses env t s.traceFormat := by
  rw [loaded] at h
  cases hc : ofContents env.settingsPath (t.text env.settingsPath) with
  | error e =>
    rw [hc] at h
    cases h
  | ok base =>
    rw [hc] at h
    rcases override_ok h with ⟨hv, rfl⟩ | ⟨name, format, hv, hf, rfl⟩
    · rcases ofContents_ok hc with ⟨hn, rfl⟩ | ⟨text, ht, hs⟩
      · exact .standard hv hn
      · exact .file hv ht hs
    · exact .environment hv hf

theorem loaded_absent {env : Environment} {t : Tree}
    (hv : env.text? "TEENY_TRACE_FORMAT" = none)
    (hn : t.readBytes env.settingsPath = .error .notFound) : loaded env t = .ok standard := by
  rw [loaded, Tree.text_eq_notFound.2 hn]
  show override env standard = _
  rw [override, hv]

end

end Settings

/-- A run that checks a source reports what checking its text comes to, whatever the settings and
the environment are. They choose the format of the events if the arguments do not, the environment
before the settings file. When they cannot be loaded, the run differs by the warning only from one
without a settings file and without the variable. -/
theorem parse_command_follows_library {ε : Type} [Json.Library ε] (source : String) :
    ∃ (result : Except ParseError Unit) (events : List Event),
      traceInto source #[] = (result, events.toArray) ∧
      ((∃ trace, parse source = .ok trace) ↔ result = .ok ()) ∧
      ∀ (env : Environment) (t : Tree) (args : List String) (path : String)
        (format : Option TraceFormat),
        Request.ofArguments args = .run (.parse path format) → t.HasText path source →
        ∃ loaded report,
          (Settings.load env : StateM Tree (Except Settings.LoadError Settings)).run t =
            (loaded, t) ∧
          (runArguments env args : StateM Tree Report).run t = (report, t) ∧
          report.Tells result events (format.getD (Settings.effective loaded).traceFormat)
            (Settings.warnings loaded) ∧
          (∀ s, loaded = .ok s → Settings.Chooses env t s.traceFormat) ∧
          ∀ e, loaded = .error e → ∀ (env' : Environment) (t' : Tree),
            env'.text? "TEENY_TRACE_FORMAT" = none →
            t'.readBytes env'.settingsPath = .error .notFound → t'.HasText path source →
            ∃ plain, (runArguments env' args : StateM Tree Report).run t' = (plain, t') ∧
              report = plain.behind (Settings.warnings loaded) := by
  -- Result and events are fixed here, in front of everything that a run may vary.
  rcases h : traceInto source (#[] : Array Event) with ⟨result, events⟩
  have hp := parse_ok_iff h
  refine ⟨result, events.toList, rfl, hp, fun env t args path format ha ht => ?_⟩
  refine ⟨_, _, Settings.run_load env t, run_parse ha ht, ?_, ?_, ?_⟩
  · have htells := printTrace_tells h
      (format.getD (Settings.effective (Settings.loaded env t)).traceFormat)
    have hb := htells.behind (Settings.warnings (Settings.loaded env t))
    rwa [List.append_nil] at hb
  · intro s hs
    exact Settings.loaded_chooses hs
  · intro e he env' t' hv hn ht'
    have hplain : (runArguments env' args : StateM Tree Report).run t' = _ := run_parse ha ht'
    rw [Settings.loaded_absent hv hn, Settings.warnings, Report.behind_nil] at hplain
    rw [he]
    exact ⟨_, hplain, rfl⟩

/-- The format that the environment asks for has no such name, so the settings are not loaded. -/
theorem parse_command_unknown_format :
    ∃ (env : Environment) (t : Tree) (report plain : Report),
      (runArguments env ["parse", "--format", "json", "a"] : StateM Tree Report).run t =
        (report, t) ∧
      report.Tells (.error (.syntactic ⟨.noStatement, ⟨.then, "THEN", ⟨1, 1⟩⟩⟩))
        [⟨.program, none⟩] .json
        ["Warning: using default configuration. " ++
          "ConfigError: unknown TEENY_TRACE_FORMAT \"xml\""] ∧
      (runArguments .empty ["parse", "--format", "json", "a"] : StateM Tree Report).run t =
        (plain, t) ∧
      report.output = plain.output := by
  let t : Tree := (Tree.empty "w").set "/w/a" (.file "THEN".toUTF8)
  let env : Environment := Environment.empty.set "TEENY_TRACE_FORMAT" "xml".toUTF8
  have ht : t.HasText "a" "THEN" := Tree.hasText_of_find rfl
  have hl : Settings.loaded env t = .error (.unknownFormat "xml") := by decide +kernel
  have hv : traceInto "THEN" (#[] : Array Event) =
      (.error (.syntactic ⟨.noStatement, ⟨.then, "THEN", ⟨1, 1⟩⟩⟩), #[⟨.program, none⟩]) := by
    decide +kernel
  have hw : Settings.warnings (.error (.unknownFormat "xml")) =
      ["Warning: using default configuration. " ++
        "ConfigError: unknown TEENY_TRACE_FORMAT \"xml\""] := by decide +kernel
  obtain ⟨result, events, hr, -, h⟩ := parse_command_follows_library "THEN"
  rw [hv] at hr
  obtain ⟨rfl, he⟩ := Prod.mk.inj hr
  obtain rfl : [⟨.program, none⟩] = events := List.toArray_inj he
  obtain ⟨loaded, report, hload, hrun, htells, -, hplain⟩ :=
    h env t ["parse", "--format", "json", "a"] "a" (some .json) rfl ht
  rw [Settings.run_load, hl] at hload
  cases hload
  rw [hw] at htells
  obtain ⟨plain, hp, rfl⟩ := hplain _ rfl .empty t rfl rfl ht
  exact ⟨env, t, _, plain, hrun, htells, hp, rfl⟩

end TeenyFront
