import TeenyFront.Proofs.JsonLibrary
import TeenyFront.Settings.Reader

/-!
# Settings in any order

An object of settings may give its fields in any order, between members of any other names. Each
field that is given once is taken and the others are passed over, so the settings depend on what is
given and neither on its order nor on the rest.
-/

set_option autoImplicit false

namespace TeenyFront.Settings

open Json

/-- A trace format is given by its name, or by an object with its name for the only member and null
for the value. -/
inductive GivesFormat : Value → TraceFormat → Prop
  | name (f : TraceFormat) : GivesFormat (.text f.name) f
  | tag (f : TraceFormat) : GivesFormat (.object [(f.name, .null)]) f

def GivesFilter (v : Value) (filter : String) : Prop := v = .text filter

def valuesOf (name : String) (ms : List (String × Value)) : List Value :=
  (ms.filter fun m => m.1 = name).map Prod.snd

inductive Given {α : Type} (Gives : Value → α → Prop) : List Value → Option α → Prop
  | absent : Given Gives [] none
  | once {v : Value} {a : α} (h : Gives v a) : Given Gives [v] (some a)

/-- The fields that the members of an object give. -/
structure Fields (ms : List (String × Value)) (found : Found) : Prop where
  format : Given GivesFormat (valuesOf "trace_format" ms) found.traceFormat
  filter : Given GivesFilter (valuesOf "log_filter" ms) found.logFilter

def isField (m : String × Value) : Bool := m.1 = "trace_format" || m.1 = "log_filter"

theorem valuesOf_cons_self (name : String) (v : Value) (ms : List (String × Value)) :
    valuesOf name ((name, v) :: ms) = v :: valuesOf name ms := by
  rw [valuesOf, List.filter_cons_of_pos (by simp), List.map_cons]
  rfl

theorem valuesOf_cons_of_ne {name other : String} (h : other ≠ name) (v : Value)
    (ms : List (String × Value)) : valuesOf name ((other, v) :: ms) = valuesOf name ms := by
  rw [valuesOf, List.filter_cons_of_neg (by simpa using h)]
  rfl

theorem Given.cons {α : Type} {Gives : Value → α → Prop} {v : Value} {vs : List Value}
    {a : Option α} (h : Given Gives (v :: vs) a) :
    ∃ b, Gives v b ∧ a = some b ∧ Given Gives vs none := by
  cases h with
  | once h => exact ⟨_, h, rfl, .absent⟩

/-! Only the fields among the members count, and their order does not. -/

theorem valuesOf_perm {name : String} {ms ns : List (String × Value)}
    (hname : ∀ v, isField (name, v) = true)
    (hp : (ns.filter isField).Perm (ms.filter isField)) :
    (valuesOf name ns).Perm (valuesOf name ms) := by
  have hfilter (ms : List (String × Value)) :
      valuesOf name ms = valuesOf name (ms.filter isField) := by
    rw [valuesOf, valuesOf, List.filter_filter]
    congr 1
    apply List.filter_congr
    intro m _
    by_cases hm : m.1 = name
    · obtain ⟨_, v⟩ := m
      cases hm
      simp [hname v]
    · simp [hm]
  rw [hfilter ns, hfilter ms]
  exact (hp.filter _).map _

theorem Given.perm {α : Type} {Gives : Value → α → Prop} {vs ws : List Value} {a : Option α}
    (h : Given Gives vs a) (hp : ws.Perm vs) : Given Gives ws a := by
  cases h with
  | absent =>
    cases hp.eq_nil
    exact .absent
  | once h =>
    cases List.perm_singleton.1 hp
    exact .once h

theorem Fields.perm {ms ns : List (String × Value)} {found : Found} (h : Fields ms found)
    (hp : (ns.filter isField).Perm (ms.filter isField)) : Fields ns found :=
  ⟨h.format.perm (valuesOf_perm (fun _ => rfl) hp), h.filter.perm (valuesOf_perm (fun _ => rfl) hp)⟩

/-! One member after the other -/

theorem ofName?_name (f : TraceFormat) : TraceFormat.ofName? f.name = some f := by
  cases f <;> decide

section

variable {ε : Type} {o : Offer ε} {v : Value} (ho : o.Gives v) (found : Found) (refuse : String → ε)

include ho

theorem formatOf_gives {f : TraceFormat} (hv : GivesFormat v f) : formatOf o = .ok f := by
  have hname : ∃ refuse, o.choice = .ok ⟨f.name, refuse, .ok ()⟩ := by
    cases hv with
    | name => exact ho.choice f.name (.inl rfl)
    | tag => exact ho.choice f.name (.inr rfl)
  obtain ⟨_, hc⟩ := hname
  rw [formatOf, hc, ok_bind]
  dsimp only
  rw [ofName?_name]
  rfl

theorem readMember_format (hn : found.traceFormat = none) {f : TraceFormat}
    (hv : GivesFormat v f) :
    readMember found "trace_format" refuse o = .ok ⟨some f, found.logFilter⟩ := by
  have hfresh : ¬found.traceFormat.isSome = true := by simp [hn]
  rw [readMember, if_pos rfl, if_neg hfresh, formatOf_gives ho hv]
  rfl

theorem readMember_filter (hn : found.logFilter = none) {s : String} (hv : GivesFilter v s) :
    readMember found "log_filter" refuse o = .ok ⟨found.traceFormat, some s⟩ := by
  have hfresh : ¬found.logFilter.isSome = true := by simp [hn]
  rw [readMember, if_neg (by decide), if_pos rfl, if_neg hfresh, ho.text s hv]
  rfl

theorem readMember_other {name : String} (hf : name ≠ "trace_format") (hl : name ≠ "log_filter") :
    readMember found name refuse o = .ok found := by
  rw [readMember, if_neg hf, if_neg hl, ho.skipped]
  rfl

end

theorem ofMembers_cons {ε : Type} {found found' : Found} {name : String} {refuse : String → ε}
    {o : Offer ε} (h : readMember found name refuse o = .ok found') (rest : Members ε) :
    ofMembers found (.member name refuse o rest) = ofMembers found' rest := by
  rw [ofMembers, h]

/-- Fields that are given once are found, wherever they stand among the members. -/
theorem ofMembers_gives {ε : Type} {members : Members ε} {ms : List (String × Value)}
    (h : members.Gives ms) {found : Found} {format : Option TraceFormat} {filter : Option String}
    (hf : Given GivesFormat (valuesOf "trace_format" ms) format)
    (hl : Given GivesFilter (valuesOf "log_filter" ms) filter)
    (hformat : found.traceFormat = none ∨ format = none)
    (hfilter : found.logFilter = none ∨ filter = none) :
    ofMembers found members =
      .ok (Found.settings ⟨found.traceFormat.or format, found.logFilter.or filter⟩) := by
  -- A field in front leaves none of its name behind it, so what was found is kept from there on.
  induction h generalizing found format filter with
  | done =>
    cases hf
    cases hl
    rw [Option.or_none, Option.or_none]
    rfl
  | @member name refuse o v rest ms ho _ ih =>
    by_cases htf : name = "trace_format"
    · subst htf
      rw [valuesOf_cons_self] at hf
      rw [valuesOf_cons_of_ne (by decide)] at hl
      obtain ⟨f, hv, rfl, hrest⟩ := hf.cons
      have hnone : found.traceFormat = none := hformat.resolve_right (Option.some_ne_none _)
      have hbehind := @ih ⟨some f, found.logFilter⟩ none filter hrest hl (.inr rfl) hfilter
      rw [ofMembers_cons (readMember_format ho found refuse hnone hv), hbehind, hnone]
      rfl
    · by_cases hlf : name = "log_filter"
      · subst hlf
        rw [valuesOf_cons_of_ne (by decide)] at hf
        rw [valuesOf_cons_self] at hl
        obtain ⟨s, hv, rfl, hrest⟩ := hl.cons
        have hnone : found.logFilter = none := hfilter.resolve_right (Option.some_ne_none _)
        have hbehind := @ih ⟨found.traceFormat, some s⟩ format none hf hrest hformat (.inr rfl)
        rw [ofMembers_cons (readMember_filter ho found refuse hnone hv), hbehind, hnone]
        rfl
      · rw [valuesOf_cons_of_ne htf] at hf
        rw [valuesOf_cons_of_ne hlf] at hl
        rw [ofMembers_cons (readMember_other ho found refuse htf hlf), ih hf hl hformat hfilter]

section

variable {ε : Type} [Library ε] (hε : ReadsObjects ε)

include hε

theorem parse_fields {text : String} {ms : List (String × Value)} {found : Found}
    (h : Written (.padded (.object ms)) text.toList) (hf : Fields ms found) :
    parse (ε := ε) text = .ok ⟨found.traceFormat.getD .text, found.logFilter.getD "warn"⟩ := by
  obtain ⟨members, hread, hgives⟩ := hε text ms h
  rw [parse, hread, ofDocument, ofMembers_gives hgives hf.format hf.filter (.inl rfl) (.inl rfl)]
  rfl

/-- An object gives its fields and the defaults of those that are absent, whatever library reads it
by the rules of JSON. No other order and no other unknown members change that. -/
theorem parse_object {text : String} {ms : List (String × Value)} {found : Found}
    (h : Written (.padded (.object ms)) text.toList) (hf : Fields ms found) :
    parse (ε := ε) text = .ok ⟨found.traceFormat.getD .text, found.logFilter.getD "warn"⟩ ∧
      ∀ (other : String) (ns : List (String × Value)),
        Written (.padded (.object ns)) other.toList →
          (ns.filter isField).Perm (ms.filter isField) → parse (ε := ε) other = parse text := by
  refine ⟨parse_fields hε h hf, ?_⟩
  intro other ns ho hp
  rw [parse_fields hε h hf, parse_fields hε ho (hf.perm hp)]

end

/-- An unknown member that nests and has an emoji for a name, and a field whose name begins with an
escape. -/
theorem parse_object_nested :
    Written (.padded (.object
        [("x", .list [.numeral "-1.5E+3".toList, .object [("😀", .list [])]]),
          ("trace_format", .object [("json", .null)])]))
      ("\x7b\"x\":[-1.5E+3, \x7b\"\\ud83d\\uDE00\":[]\x7d]," ++
        "\"\\u0074race_format\":\x7b\"json\":null\x7d\x7d\n").toList ∧
      Fields
        [("x", .list [.numeral "-1.5E+3".toList, .object [("😀", .list [])]]),
          ("trace_format", .object [("json", .null)])] ⟨some .json, none⟩ ∧
      parse ("\x7b\"x\":[-1.5E+3, \x7b\"\\ud83d\\uDE00\":[]\x7d]," ++
        "\"\\u0074race_format\":\x7b\"json\":null\x7d\x7d\n") = .ok ⟨.json, "warn"⟩ := by
  have hunit : CodeUnit 't'.toNat ['0', '0', '7', '4'] :=
    @CodeUnit.digits 0 0 7 4 _ _ _ _ ⟨by decide, .inl rfl⟩ ⟨by decide, .inl rfl⟩
      ⟨by decide, .inl rfl⟩ ⟨by decide, .inl rfl⟩
  have hleading : CodeUnit (0xD800 + ('😀'.toNat - 0x10000) / 0x400) ['d', '8', '3', 'd'] :=
    @CodeUnit.digits 0xd 8 3 0xd _ _ _ _ ⟨by decide, .inl rfl⟩ ⟨by decide, .inl rfl⟩
      ⟨by decide, .inl rfl⟩ ⟨by decide, .inl rfl⟩
  have htrailing : CodeUnit (0xDC00 + ('😀'.toNat - 0x10000) % 0x400) ['D', 'E', '0', '0'] :=
    @CodeUnit.digits 0xd 0xe 0 0 _ _ _ _ ⟨by decide, .inr rfl⟩ ⟨by decide, .inr rfl⟩
      ⟨by decide, .inl rfl⟩ ⟨by decide, .inl rfl⟩
  have hname : Quoted "trace_format".toList _ :=
    .quotes (.cons (.unit hunit) (spelled_escape "race_format".toList))
  have hemoji : Quoted "😀".toList _ :=
    .quotes (.cons (.pair (by decide) hleading htrailing) .nil)
  have hnumeral : Numeral.Unsigned (['1'] ++ (['.', '5'] ++ ['E', '+', '3'])) :=
    .parts (by decide) (by decide) (.digits (by decide))
      (@Numeral.Exponent.digits _ ['+'] ['3'] (.inr rfl) (by decide) (by decide))
  have h0 : Blank [] := by decide
  have hn : Blank ['\n'] := by decide
  have hx := Written.member h0 (quoted_literal "x".toList) h0 (.padded h0 (.list (.elements
    (.padded h0 (.negative hnumeral) h0) (.element (.padded blank_space (.object (.last
      (.member h0 hemoji h0 (.padded h0 (.noElements h0) h0)))) h0)))) h0)
  have hformat := Written.member h0 hname h0 (.padded h0 (.object (.last
    (.member h0 (quoted_literal "json".toList) h0 (.padded h0 .null h0)))) h0)
  have h := Written.padded h0 (.object (.members hx (.last hformat))) hn
  refine ⟨h, ?fields, And.left (parse_object readsObjects h ?fields)⟩
  exact ⟨.once (.tag .json), .absent⟩

end TeenyFront.Settings
