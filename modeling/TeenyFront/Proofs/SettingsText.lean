import TeenyFront.Proofs.SettingsObject

/-!
# Settings are read back

Settings are written as a record with a text for each field, under the names by which the fields and
the formats are known when they are read. So a text of settings gives back the settings, also with
blanks around it, if the library keeps to the rules of JSON.
-/

set_option autoImplicit false

namespace TeenyFront.Settings

open Json

theorem fields_toRecord (s : Settings) :
    Fields s.toRecord.members ⟨some s.traceFormat, some s.logFilter⟩ where
  format := .once (.name s.traceFormat)
  filter := .once rfl

section

variable {ε : Type} [Library ε] (hε : Library.Lawful ε) (s : Settings)

include hε

/-- Settings are read back from their text, whatever blanks stand around it. -/
theorem parse_rendered {front back : String} (hf : Blank front.toList) (hb : Blank back.toList) :
    parse (ε := ε) (front ++ s.render ++ back) = .ok s := by
  have h := Written.padded hf (hε.writes s.toRecord) hb
  rw [← List.append_assoc, ← String.toList_append, ← String.toList_append] at h
  exact parse_fields hε.reads h (fields_toRecord s)

theorem parse_render : parse (ε := ε) s.render = .ok s := by
  have h := Written.padded (by decide : Blank []) (hε.writes s.toRecord) (by decide : Blank [])
  rw [List.nil_append, List.append_nil] at h
  exact parse_fields hε.reads h (fields_toRecord s)

end

/-- A log filter of a quote, a backslash, a line feed and a control character without a short
escape. -/
theorem parse_rendered_escapes :
    Blank "\r\n\t ".toList ∧ Blank "\n".toList ∧
      (Settings.mk .json "\"\\\n\x01").render =
        "\x7b\n  \"trace_format\": \"json\",\n  \"log_filter\": \"\\\"\\\\\\n\\u0001\"\n\x7d" ∧
      parse ("\r\n\t " ++ (Settings.mk .json "\"\\\n\x01").render ++ "\n") =
        .ok ⟨.json, "\"\\\n\x01"⟩ := by
  have hf : Blank "\r\n\t ".toList := by decide
  have hb : Blank "\n".toList := by decide
  exact ⟨hf, hb, by decide +kernel, parse_rendered lawful _ hf hb⟩

end TeenyFront.Settings
