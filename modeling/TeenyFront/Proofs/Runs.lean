import TeenyFront.Command.Run
import TeenyFront.Files.Tree
import TeenyFront.Proofs.TraceLines

/-!
# Runs on a file tree

A run loads its settings and then does what its command says. Loading leaves the tree as it is, and
so does reading a source. Settings that cannot be loaded come to a warning in front of the errors of
the run under the standard ones.
-/

set_option autoImplicit false

namespace TeenyFront

open Files

theorem run_bind_still {α β : Type} {x : StateM Tree α} {t : Tree} {a : α}
    (h : x.run t = (a, t)) (next : α → StateM Tree β) :
    (x >>= next).run t = (next a).run t := by
  rw [StateT.run_bind, h]
  rfl

namespace Files

namespace Tree

def HasText (t : Tree) (path text : String) : Prop :=
  ∃ bytes, t.find path = .ok (.file bytes) ∧ String.fromUTF8? bytes = some text

def text (t : Tree) (path : String) : Except FileError String :=
  match t.readBytes path with
  | .error e => .error e
  | .ok bytes =>
    match String.fromUTF8? bytes with
    | none => .error .invalidText
    | some text => .ok text

theorem find_file_iff {t : Tree} {path : String} {bytes : ByteArray} :
    t.find path = .ok (.file bytes) ↔ t.readBytes path = .ok bytes := by
  rw [readBytes]
  cases t.find path with
  | error e => simp
  | ok entry => cases entry <;> simp

theorem text_eq_ok {t : Tree} {path source : String} :
    t.text path = .ok source ↔ t.HasText path source := by
  simp only [HasText, find_file_iff, text]
  cases t.readBytes path with
  | error e => simp
  | ok bytes => cases hu : String.fromUTF8? bytes <;> simp [hu]

theorem text_eq_notFound {t : Tree} {path : String} :
    t.text path = .error .notFound ↔ t.readBytes path = .error .notFound := by
  rw [text]
  cases t.readBytes path with
  | error e => simp
  | ok bytes => cases hu : String.fromUTF8? bytes <;> simp [hu]

theorem fromUTF8?_toUTF8 (source : String) : String.fromUTF8? source.toUTF8 = some source :=
  dif_pos source.isValidUTF8

theorem hasText_of_find {t : Tree} {path source : String}
    (h : t.find path = .ok (.file source.toUTF8)) : t.HasText path source :=
  ⟨source.toUTF8, h, fromUTF8?_toUTF8 source⟩

theorem HasText.isFile {t : Tree} {path source : String} (h : t.HasText path source) :
    t.isFile path = true := by
  obtain ⟨bytes, hf, -⟩ := h
  rw [Tree.isFile, hf]

end Tree

def decoded : Except FileError ByteArray → Except FileError String
  | .error e => .error e
  | .ok bytes =>
    match String.fromUTF8? bytes with
    | none => .error .invalidText
    | some text => .ok text

theorem run_readText_of {σ : Type} [Store (StateM σ)] {path : String} {s s' : σ}
    {contents : Except FileError ByteArray}
    (h : (Store.readBytes path : StateM σ (Except FileError ByteArray)).run s = (contents, s')) :
    (readText path : StateM σ (Except FileError String)).run s = (decoded contents, s') := by
  rw [readText, StateT.run_bind, h]
  cases contents with
  | error e => rfl
  | ok bytes =>
    show StateT.run (match String.fromUTF8? bytes with
      | none => _
      | some text => _) s' = _
    cases hu : String.fromUTF8? bytes with
    | none =>
      simp only [decoded, hu]
      rfl
    | some text =>
      simp only [decoded, hu]
      rfl

theorem run_readText (t : Tree) (path : String) :
    (readText path : StateM Tree (Except FileError String)).run t = (t.text path, t) :=
  run_readText_of (s := t) rfl

end Files

section

variable {ε : Type} [Json.Library ε]

namespace Settings

/-- What loading the settings in a tree comes to. -/
def loaded (env : Environment) (t : Tree) : Except LoadError Settings :=
  (ofContents env.settingsPath (t.text env.settingsPath)).bind (override env)

theorem run_load (env : Environment) (t : Tree) :
    (load env : StateM Tree (Except LoadError Settings)).run t = (loaded env t, t) := by
  rw [load, StateT.run_bind, run_readText]
  rfl

def effective : Except LoadError Settings → Settings
  | .ok s => s
  | .error _ => standard

def warnings : Except LoadError Settings → List String
  | .ok _ => []
  | .error e => ["Warning: using default configuration. " ++ e.failure.message]

end Settings

namespace Command

variable {t : Tree} {path source : String} (h : t.HasText path source)

include h

theorem run_readSource :
    (readSource path : StateM Tree (Except Failure String)).run t = (.ok source, t) := by
  have hf : (Store.isFile path : StateM Tree Bool).run t = (true, t) := by
    show (t.isFile path, t) = _
    rw [h.isFile]
  have ht := run_readText t path
  rw [Tree.text_eq_ok.2 h] at ht
  rw [readSource, run_bind_still hf, if_pos rfl, run_bind_still ht]
  rfl

theorem run_onSource (report : String → Report) :
    (onSource path report : StateM Tree Report).run t = (report source, t) := by
  rw [onSource, run_bind_still (run_readSource h)]
  rfl

end Command

def Report.behind (ls : List String) (r : Report) : Report :=
  ⟨r.exitCode, r.output, lines ls ++ r.errors⟩

theorem Report.behind_nil (r : Report) : r.behind [] = r := by
  obtain ⟨exitCode, output, errors⟩ := r
  simp [behind, lines]

/-- A run executes its command under the settings that it goes by, behind the warning. -/
theorem Command.run_eq (env : Environment) (t : Tree) (c : Command) :
    (c.run env : StateM Tree Report).run t =
      let executed := (c.execute env (Settings.effective (Settings.loaded env t)) :
        StateM Tree Report).run t
      (executed.1.behind (Settings.warnings (Settings.loaded env t)), executed.2) := by
  rw [Command.run, run_bind_still (Settings.run_load env t)]
  cases Settings.loaded env t with
  | ok s =>
    dsimp only [Settings.warnings]
    rw [Report.behind_nil]
    rfl
  | error e => rfl

theorem Command.run_still {env : Environment} {t : Tree} {c : Command} {report : Settings → Report}
    (h : ∀ s, (c.execute env s : StateM Tree Report).run t = (report s, t)) :
    (c.run env : StateM Tree Report).run t =
      ((report (Settings.effective (Settings.loaded env t))).behind
        (Settings.warnings (Settings.loaded env t)), t) := by
  rw [Command.run_eq, h]

/-! The two commands that read a source report on its text, behind a warning if the settings cannot
be loaded. -/

section

variable {env : Environment} {t : Tree} {args : List String} {path source : String}

theorem run_lex {json : Bool} (ha : Request.ofArguments args = .run (.lex path json))
    (ht : t.HasText path source) :
    (runArguments env args : StateM Tree Report).run t =
      ((Command.listTokens source json).behind (Settings.warnings (Settings.loaded env t)), t) := by
  rw [runArguments, ha]
  have hs (s : Settings) : ((Command.lex path json).execute env s : StateM Tree Report).run t =
      (Command.listTokens source json, t) := Command.run_onSource ht _
  exact Command.run_still hs

theorem run_parse {format : Option TraceFormat}
    (ha : Request.ofArguments args = .run (.parse path format)) (ht : t.HasText path source) :
    (runArguments env args : StateM Tree Report).run t =
      ((Command.printTrace source
          (format.getD (Settings.effective (Settings.loaded env t)).traceFormat)).behind
        (Settings.warnings (Settings.loaded env t)), t) := by
  rw [runArguments, ha]
  have hs (s : Settings) :
      ((Command.parse path format).execute env s : StateM Tree Report).run t =
        (Command.printTrace source (format.getD s.traceFormat), t) := Command.run_onSource ht _
  exact Command.run_still hs

end

end

end TeenyFront
