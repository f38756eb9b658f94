import FabricConfig.Diagnostic.Render
import FabricConfig.Proofs.Json.Codec
/-!
# Diagnostics read back from JSON

Lists without lines are left out when a diagnostic is written, and looked for when it is read.

* `asRecord?_toJson`: the fields that a diagnostic is written with.
* `required?_linesField`: what is read for a list of lines.
* `parse?_toJsonLine`: which diagnostics are read back.
-/

namespace FabricConfig

open Json

theorem Severity.isCodec : IsCodec Severity.toJson Severity.ofJson? :=
  ⟨fun _ => .text _, fun severity => by cases severity <;> rfl⟩

theorem Category.isCodec : IsCodec Category.toJson Category.ofJson? :=
  ⟨fun _ => .text _, fun category => by cases category <;> rfl⟩

theorem Code.isCodec : IsCodec Code.toJson Code.ofJson? := by
  refine ⟨fun code => .object ?_, fun code => ?_⟩
  · simp only [List.forall_mem_cons]
    exact ⟨Category.isCodec.plain code.category, .integer _, nofun⟩
  · refine (bind_of_eq_some rfl).trans ?_
    refine (Record.required?_bind rfl (Category.isCodec.inverts code.category)).trans ?_
    exact Record.required?_bind rfl (asUInt16?_toNat code.number)

namespace Diagnostic

variable {diagnostic : Diagnostic}

theorem isPlain_linesField (name : String) (lines : List String) :
    ∀ field ∈ linesField name lines, field.2.IsPlain := by
  unfold linesField
  split
  · exact nofun
  · exact List.forall_mem_singleton.mpr (isCodec_text.list.plain lines)

theorem isPlain_toJson (diagnostic : Diagnostic) : diagnostic.toJson.IsPlain := by
  refine .object ?_
  simp only [List.forall_mem_append, List.forall_mem_cons, List.forall_mem_map]
  exact ⟨⟨⟨⟨Severity.isCodec.plain _, Code.isCodec.plain _, .text _, nofun⟩,
    fun _ _ => .text _⟩, isPlain_linesField _ _⟩, isPlain_linesField _ _⟩

/-- The fields that a diagnostic is written with: those of its lists only if they are not empty. -/
theorem asRecord?_toJson (diagnostic : Diagnostic) : ∃ given : Record,
    diagnostic.toJson.asRecord? ["severity", "code", "message", "subject", "notes", "help"] =
        some given ∧
      given.lookup "severity" = some diagnostic.severity.toJson ∧
      given.lookup "code" = some diagnostic.code.toJson ∧
      given.lookup "message" = some (.text diagnostic.message) ∧
      given.lookup "subject" = diagnostic.subject.map .text ∧
      given.lookup "notes" = (linesField "notes" diagnostic.notes).lookup "notes" ∧
      given.lookup "help" = (linesField "help" diagnostic.help).lookup "help" := by
  obtain ⟨severity, code, message, subject, notes, help⟩ := diagnostic
  cases subject <;> cases notes <;> cases help <;> exact ⟨_, rfl, rfl, rfl, rfl, rfl, rfl, rfl⟩

theorem optional?_subject {given : Record} {subject : Option String}
    (written : given.lookup "subject" = subject.map .text) :
    given.optional? "subject" (asOption? asText?) none = some subject := by
  rw [Record.optional?, written]
  cases subject <;> rfl

theorem lookup_linesField (name : String) (lines : List String) :
    (linesField name lines).lookup name =
      if lines = [] then none else some (.array (lines.map .text)) := by
  cases lines with
  | nil => rfl
  | cons line lines =>
    rw [linesField, List.isEmpty_cons, if_neg Bool.false_ne_true, List.lookup_cons_self,
      if_neg (List.cons_ne_nil line lines)]

/-- A list of lines is read back only if a field was written for it. -/
theorem required?_linesField {given : Record} {name : String} {lines : List String}
    (written : given.lookup name = (linesField name lines).lookup name) :
    given.required? name (asList? asText?) = if lines = [] then none else some lines := by
  rw [Record.required?, written, lookup_linesField]
  split
  · rfl
  · exact isCodec_text.list.inverts lines

/-- A diagnostic is decoded from what it is encoded as if it has both notes and help. -/
theorem ofJson?_toJson (diagnostic : Diagnostic) :
    ofJson? diagnostic.toJson =
      if diagnostic.notes = [] ∨ diagnostic.help = [] then none else some diagnostic := by
  obtain ⟨given, record, severity, code, message, subject, notes, help⟩ :=
    asRecord?_toJson diagnostic
  refine (bind_of_eq_some record).trans ?_
  refine (Record.required?_bind severity (Severity.isCodec.inverts _)).trans ?_
  refine (Record.required?_bind code (Code.isCodec.inverts _)).trans ?_
  refine (Record.required?_bind message (isCodec_text.inverts _)).trans ?_
  refine (bind_of_eq_some (optional?_subject subject)).trans ?_
  by_cases noNotes : diagnostic.notes = []
  · rw [if_pos (Or.inl noNotes)]
    exact bind_of_eq_none ((required?_linesField notes).trans (if_pos noNotes))
  refine (bind_of_eq_some ((required?_linesField notes).trans (if_neg noNotes))).trans ?_
  by_cases noHelp : diagnostic.help = []
  · rw [if_pos (Or.inr noHelp)]
    exact bind_of_eq_none ((required?_linesField help).trans (if_pos noHelp))
  · rw [if_neg (not_or_intro noNotes noHelp)]
    exact bind_of_eq_some ((required?_linesField help).trans (if_neg noHelp))

/-- **The line of a diagnostic is read as that diagnostic exactly if there are lines of notes and
lines of help.** The field of an empty list is left out, and without it nothing is read. -/
theorem parse?_toJsonLine (diagnostic : Diagnostic) :
    (parse? diagnostic.toJsonLine).bind ofJson? =
      if diagnostic.notes = [] ∨ diagnostic.help = [] then none else some diagnostic := by
  rw [toJsonLine, parse?_render_of_isPlain (isPlain_toJson diagnostic)]
  exact ofJson?_toJson diagnostic

/-- A summary has neither notes nor help. -/
theorem parse?_toJsonLine_summary_ne :
    let summary : Diagnostic :=
      { severity := .note, code := ⟨.bitstream, 504⟩, message := "configured 0 tiles" }
    (parse? summary.toJsonLine).bind ofJson? ≠ some summary := by
  intro summary read
  rw [toJsonLine, parse?_render_of_isPlain (isPlain_toJson summary), Option.bind_some,
    ofJson?_toJson, if_pos (Or.inl rfl)] at read
  cases read

end Diagnostic

end FabricConfig
