import TeenyFront.Proofs.JsonRecord
import TeenyFront.Proofs.Pipeline
import TeenyFront.Proofs.Runs

/-!
# Listings are read back

A listing in JSON has a line for each token or event. No line holds a control character, so the
lines of a listing are found again at its line feeds, and each of them tells its token or event. A
listing that ends in an error tells those in front of the error.
-/

set_option autoImplicit false

namespace TeenyFront

open Files

/-! Kinds and rules are told by their names. -/

def Kind.all : List Kind :=
  [.eof, .newline, .number, .identifier, .string] ++ Kind.keywords ++
    [.assign, .plus, .minus, .asterisk, .slash, .equal, .notEqual, .less, .lessEqual, .greater,
      .greaterEqual]

def Kind.ofName? (name : String) : Option Kind := Kind.all.find? fun k => k.name == name

def Rule.all : List Rule :=
  [.program, .printStatement, .ifStatement, .whileStatement, .labelStatement, .gotoStatement,
    .letStatement, .inputStatement, .newline, .comparison, .expression, .term, .unary, .primary]

def Rule.ofName? (name : String) : Option Rule := Rule.all.find? fun r => r.name == name

theorem Kind.ofName?_name (k : Kind) : Kind.ofName? k.name = some k := by
  cases k <;> decide

theorem Rule.ofName?_name (r : Rule) : Rule.ofName? r.name = some r := by
  cases r <;> decide

namespace Json.Record

def text? (r : Record) (name : String) : Option String :=
  match r.lookup name with
  | some (.text s) => some s
  | _ => none

def number? (r : Record) (name : String) : Option Nat :=
  match r.lookup name with
  | some (.number n) => some n
  | _ => none

end Json.Record

def Token.ofRecord? (r : Json.Record) : Option Token := do
  let kind ← (r.text? "kind").bind Kind.ofName?
  let text ← r.text? "text"
  let line ← r.number? "line"
  let column ← r.number? "column"
  return ⟨kind, text, ⟨line, column⟩⟩

/-- An event has no text if its record has none. -/
def Event.ofRecord? (r : Json.Record) : Option Event := do
  let rule ← (r.text? "rule").bind Rule.ofName?
  match r.lookup "text" with
  | none => return ⟨rule, none⟩
  | some (.text s) => return ⟨rule, some s⟩
  | some (.number _) => none

theorem Token.ofRecord?_toRecord (t : Token) : Token.ofRecord? t.toRecord = some t := by
  have hk : t.toRecord.text? "kind" = some t.kind.name := rfl
  have ht : t.toRecord.text? "text" = some t.text := rfl
  have hl : t.toRecord.number? "line" = some t.position.line := rfl
  have hc : t.toRecord.number? "column" = some t.position.column := rfl
  rw [Token.ofRecord?, hk, ht, hl, hc, Option.bind_some, Kind.ofName?_name]
  rfl

theorem Event.ofRecord?_toRecord (e : Event) : Event.ofRecord? e.toRecord = some e := by
  obtain ⟨rule, text?⟩ := e
  have hr : (Event.toRecord ⟨rule, text?⟩).text? "rule" = some rule.name := rfl
  rw [Event.ofRecord?, hr, Option.bind_some, Rule.ofName?_name]
  cases text? with
  | none => rfl
  | some s => rfl

def decodeLine {α : Type} (ofRecord? : Json.Record → Option α) (line : String) : Option α :=
  (Json.Record.parse line).toOption.bind ofRecord?

def splitLines (s : String) : List String :=
  (s.toList.splitOn '\n').dropLast.map String.ofList

def decodeLines {α : Type} (ofRecord? : Json.Record → Option α) (output : String) :
    Option (List α) := (splitLines output).mapM (decodeLine ofRecord?)

theorem splitOn_lines {ls : List (List Char)} (h : ∀ l ∈ ls, '\n' ∉ l) :
    (ls.flatMap fun l => l ++ ['\n']).splitOn '\n' = ls ++ [[]] := by
  induction ls with
  | nil => rfl
  | cons l ls ih =>
    have hl := h l List.mem_cons_self
    have hls := ih fun l' hl' => h l' (List.mem_cons_of_mem _ hl')
    rw [List.flatMap_cons, List.append_assoc, List.singleton_append,
      List.splitOn_append_cons_self_of_not_mem hl, hls, List.cons_append]

theorem splitLines_lines {ls : List String} (h : ∀ l ∈ ls, '\n' ∉ l.toList) :
    splitLines (Report.lines ls) = ls := by
  have hs : ∀ l ∈ ls.map String.toList, '\n' ∉ l := by
    intro l hl
    obtain ⟨s, hs, rfl⟩ := List.mem_map.1 hl
    exact h s hs
  have ho := splitOn_lines hs
  rw [List.flatMap_map] at ho
  rw [splitLines, Report.toList_lines, ho, List.dropLast_concat, List.map_map]
  simp

theorem mapM_map_some {α β : Type} {f : α → β} {g : β → Option α} (h : ∀ a, g (f a) = some a)
    (as : List α) : (as.map f).mapM g = some as := by
  induction as with
  | nil => rfl
  | cons a as ih => simp [h, ih]

section

variable {α : Type} {toRecord : α → Json.Record} {ofRecord? : Json.Record → Option α}
  (h : ∀ a, ofRecord? (toRecord a) = some a)

include h

theorem decodeLine_compact (a : α) : decodeLine ofRecord? (toRecord a).compact = some a := by
  rw [decodeLine, Json.parse_compact]
  exact h a

theorem decodeLines_compact (as : List α) :
    decodeLines ofRecord? (Report.lines (as.map fun a => (toRecord a).compact)) = some as := by
  have hn : ∀ l ∈ as.map fun a => (toRecord a).compact, '\n' ∉ l.toList := by
    intro l hl hn
    obtain ⟨a, -, rfl⟩ := List.mem_map.1 hl
    exact absurd (Json.printable_compact (toRecord a) '\n' hn) (by decide)
  rw [decodeLines, splitLines_lines hn]
  exact mapM_map_some (decodeLine_compact h) as

end

/-! Both listings, also of a source with an error. -/

theorem Cursor.lex_filter (c : Cursor) : c.lex.tokens.filter (fun t => t.kind ≠ .eof) =
    c.lex.tokens.takeWhile fun t => t.kind ≠ .eof := by
  induction c using lex_induction with
  | error c e d hr =>
    rw [lex_error hr]
    rfl
  | last c t d hr ht =>
    rw [lex_end hr ht]
    simp [ht]
  | token c t d hr ht ih =>
    rw [lex_token hr ht]
    simpa [ht] using ih

theorem listTokens_json (source : String) :
    (Command.listTokens source true).output = Report.lines
      (((lexing source).tokens.takeWhile fun t => t.kind ≠ .eof).map fun t =>
        t.toRecord.compact) := by
  rw [Command.listTokens, Cursor.lex_filter]
  cases (Cursor.ofSource source).lex.error? with
  | none => rfl
  | some e => rfl

theorem printTrace_json (source : String) :
    (Command.printTrace source .json).output = Report.lines
      ((traceInto source (#[] : Array Event)).2.toList.map fun e => e.toRecord.compact) := by
  rcases h : traceInto source (#[] : Array Event) with ⟨result, ⟨events⟩⟩
  rw [printTrace_output h]
  simp only [reduceCtorEq, and_false, if_false, List.append_nil]
  rfl

/-- A line in JSON holds no control character and gives its token or event back, the text of an
event only if there is one. The lines of a listing give back what is listed: the tokens in front of
the end of input or of the first error, or the events recorded up to the end or to an error. -/
theorem json_lines_decode {ε : Type} [Json.Library ε] :
    (∀ t : Token, Json.Printable (Command.tokenLine true t).toList ∧
      Json.Record.parse (Command.tokenLine true t) =
        .ok [("text", .text t.text), ("kind", .text t.kind.name),
          ("line", .number t.position.line), ("column", .number t.position.column)] ∧
      decodeLine Token.ofRecord? (Command.tokenLine true t) = some t) ∧
    (∀ e : Event, Json.Printable (Command.eventLine .json e).toList ∧
      Json.Record.parse (Command.eventLine .json e) =
        .ok (("rule", .text e.rule.name) ::
          (e.text?.map fun text => ("text", .text text)).toList) ∧
      decodeLine Event.ofRecord? (Command.eventLine .json e) = some e) ∧
    ∀ (env : Environment) (t : Tree) (args : List String) (path source : String),
      t.HasText path source →
      (Request.ofArguments args = .run (.lex path true) →
        ∃ report, (runArguments env args : StateM Tree Report).run t = (report, t) ∧
          decodeLines Token.ofRecord? report.output =
            some ((lexing source).tokens.takeWhile fun t => t.kind ≠ .eof)) ∧
      (Request.ofArguments args = .run (.parse path (some .json)) →
        ∃ report, (runArguments env args : StateM Tree Report).run t = (report, t) ∧
          decodeLines Event.ofRecord? report.output =
            some (traceInto source (#[] : Array Event)).2.toList) := by
  constructor
  · intro t
    exact ⟨Json.printable_compact _, Json.parse_compact _,
      decodeLine_compact Token.ofRecord?_toRecord t⟩
  constructor
  · intro e
    exact ⟨Json.printable_compact _, Json.parse_compact _,
      decodeLine_compact Event.ofRecord?_toRecord e⟩
  · intro env t args path source ht
    constructor
    · intro ha
      refine ⟨_, run_lex ha ht, ?_⟩
      show decodeLines Token.ofRecord? (Command.listTokens source true).output = _
      rw [listTokens_json]
      exact decodeLines_compact Token.ofRecord?_toRecord _
    · intro ha
      refine ⟨_, run_parse ha ht, ?_⟩
      show decodeLines Event.ofRecord? (Command.printTrace source .json).output = _
      rw [printTrace_json]
      exact decodeLines_compact Event.ofRecord?_toRecord _

theorem json_lines_decode_open_string :
    ∃ (t : Tree) (report : Report), t.HasText "a" "PRINT \"\\" ∧
      (runArguments .empty ["lex", "a", "--json"] : StateM Tree Report).run t = (report, t) ∧
      decodeLines Token.ofRecord? report.output = some [⟨.print, "PRINT", ⟨1, 1⟩⟩] := by
  let t : Tree := (Tree.empty "w").set "/w/a" (.file "PRINT \"\\".toUTF8)
  have ht : t.HasText "a" "PRINT \"\\" := Tree.hasText_of_find rfl
  obtain ⟨report, hr, hd⟩ :=
    (json_lines_decode.2.2 .empty t ["lex", "a", "--json"] "a" "PRINT \"\\" ht).1 rfl
  have hl : ((lexing "PRINT \"\\").tokens.takeWhile fun t => t.kind ≠ .eof) =
      [⟨.print, "PRINT", ⟨1, 1⟩⟩] := by decide +kernel
  rw [hl] at hd
  exact ⟨t, report, ht, hr, hd⟩

end TeenyFront
