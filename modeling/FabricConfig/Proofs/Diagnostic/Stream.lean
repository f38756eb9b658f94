import FabricConfig.CommandLine.Run
import FabricConfig.Proofs.Diagnostic.Json
import FabricConfig.Proofs.Text.Lines
import Mathlib.Data.List.Basic
/-!
# Diagnostics in a stream

A diagnostic for programs is written on one line, whatever its texts hold: what a string escapes is
all that could end a line. Two diagnostics with one line are the same, since the values of their
fields are read from the line, and where a field is left out its list is empty. So a program that
cuts what it is told at the line feeds has every diagnostic by itself, and all of them in order.

* `Json.IsPlain.solid`: a value is written without control characters.
* `Diagnostic.toJson_injective`: no field is taken for another, or for one that is left out.
* `CommandLine.jsonReport_splitOn_and_injective`: lines, and streams of lines.
-/

namespace FabricConfig

namespace Json

/-! ### Control characters -/

/-- A character that is no control character: none below the blank. -/
def IsSolid (c : Char) : Prop := 0x20 ≤ c.toNat

instance : DecidablePred IsSolid := fun _ => inferInstanceAs (Decidable (_ ≤ _))

/-- What a look at each character of a fixed text shows. -/
theorem solid_of_all {text : List Char} (looked : (text.all fun c => decide (IsSolid c)) = true) :
    ∀ c ∈ text, IsSolid c :=
  fun c member => of_decide_eq_true (List.all_eq_true.mp looked c member)

/-- The number of a control character is written with other characters. -/
theorem solid_number {n : Nat} (control : n < 0x20) :
    ∀ d ∈ '\\' :: 'u' :: Text.padLeft 4 (Text.hexadecimal n), IsSolid d := by
  have each : ∀ n < 0x20, (('\\' :: 'u' :: Text.padLeft 4 (Text.hexadecimal n)).all
      fun d => decide (IsSolid d)) = true := by decide
  exact solid_of_all (each n control)

theorem solid_escape {c : Char} : ∀ d ∈ escape c, IsSolid d := by
  unfold escape
  iterate 7
    split
    · exact solid_of_all rfl
  split
  · rename_i control
    exact solid_number control
  · rename_i visible
    exact List.forall_mem_singleton.mpr (Nat.le_of_not_lt visible)

theorem solid_quote (text : String) : ∀ c ∈ quote text, IsSolid c := by
  simp only [quote, List.cons_append, List.forall_mem_cons, List.forall_mem_append,
    List.forall_mem_flatMap]
  exact ⟨by decide, fun _ _ => solid_escape, by decide, List.forall_mem_nil _⟩

theorem solid_signedDecimal (value : Int) : ∀ c ∈ Text.signedDecimal value, IsSolid c := by
  have digits (n : Nat) : ∀ c ∈ Text.decimal n, IsSolid c := by
    intro c member
    have bounds := Text.toNat_between_of_isDigit (Text.isDigit_of_mem_decimal member)
    unfold IsSolid
    omega
  cases value with
  | ofNat n => exact digits n
  | negSucc n => exact List.forall_mem_cons.mpr ⟨by decide, digits (n + 1)⟩

theorem solid_printItems {items : List Json} (each : ∀ item ∈ items, ∀ c ∈ item.print, IsSolid c) :
    ∀ c ∈ printItems items, IsSolid c := by
  induction items with
  | nil => exact solid_of_all rfl
  | cons item items ih =>
    obtain ⟨first, rest⟩ := List.forall_mem_cons.mp each
    simp only [printItems, List.cons_append, List.forall_mem_cons, List.forall_mem_append]
    exact ⟨by decide, first, ih rest⟩

theorem solid_printFields {fields : List (String × Json)}
    (each : ∀ field ∈ fields, ∀ c ∈ field.2.print, IsSolid c) :
    ∀ c ∈ printFields fields, IsSolid c := by
  induction fields with
  | nil => exact solid_of_all rfl
  | cons field fields ih =>
    obtain ⟨key, value⟩ := field
    obtain ⟨first, rest⟩ := List.forall_mem_cons.mp each
    simp only [printFields, List.cons_append, List.append_assoc, List.forall_mem_cons,
      List.forall_mem_append]
    exact ⟨by decide, solid_quote key, by decide, first, ih rest⟩

/-- **A value is written without control characters**, whatever its texts hold. -/
theorem IsPlain.solid {value : Json} (plain : value.IsPlain) : ∀ c ∈ value.print, IsSolid c := by
  induction plain with
  | null => exact solid_of_all rfl
  | bool value => cases value <;> exact solid_of_all rfl
  | integer value => exact solid_signedDecimal value
  | text value => exact solid_quote value
  | @array items _ each =>
    cases items with
    | nil => exact solid_of_all rfl
    | cons item items =>
      obtain ⟨first, rest⟩ := List.forall_mem_cons.mp each
      simp only [print, List.cons_append, List.forall_mem_cons, List.forall_mem_append]
      exact ⟨by decide, first, solid_printItems rest⟩
  | @object fields _ each =>
    cases fields with
    | nil => exact solid_of_all rfl
    | cons field fields =>
      obtain ⟨key, value⟩ := field
      obtain ⟨first, rest⟩ := List.forall_mem_cons.mp each
      simp only [print, List.cons_append, List.append_assoc, List.forall_mem_cons,
        List.forall_mem_append]
      exact ⟨by decide, solid_quote key, by decide, first, solid_printFields rest⟩

end Json

namespace Diagnostic

open Json

/-- A list that is left out is told apart from one that is not, and lists that are not by their
lines. -/
theorem linesField_injective {name : String} {first second : List String}
    (same : (linesField name first).lookup name = (linesField name second).lookup name) :
    first = second := by
  rw [lookup_linesField, lookup_linesField] at same
  split at same <;> split at same
  · rename_i empty none
    rw [empty, none]
  · cases same
  · cases same
  · exact isCodec_text.list.injective (Option.some.inj same)

/-- **Diagnostics are told apart by what is written for them**: each field by itself, whether it is
there or left out. -/
theorem toJson_injective : Function.Injective toJson := by
  intro first second same
  obtain ⟨given, record, severity, code, message, subject, notes, help⟩ := asRecord?_toJson first
  obtain ⟨other, sameRecord, severity', code', message', subject', notes', help'⟩ :=
    asRecord?_toJson second
  rw [same, sameRecord] at record
  cases record
  have sameSeverity := Severity.isCodec.injective (Option.some.inj (severity.symm.trans severity'))
  have sameCode := Code.isCodec.injective (Option.some.inj (code.symm.trans code'))
  have sameMessage := isCodec_text.injective (Option.some.inj (message.symm.trans message'))
  have sameSubject := Option.map_injective isCodec_text.injective (subject.symm.trans subject')
  have sameNotes := linesField_injective (notes.symm.trans notes')
  have sameHelp := linesField_injective (help.symm.trans help')
  cases first
  cases second
  rw [Diagnostic.mk.injEq]
  exact ⟨sameSeverity, sameCode, sameMessage, sameSubject, sameNotes, sameHelp⟩

theorem toJsonLine_injective : Function.Injective toJsonLine := fun first second same =>
  toJson_injective (render_injOn_isPlain (isPlain_toJson first) (isPlain_toJson second) same)

theorem solid_toJsonLine (diagnostic : Diagnostic) :
    ∀ c ∈ diagnostic.toJsonLine.toList, IsSolid c := by
  rw [toJsonLine, render, String.toList_ofList]
  exact (isPlain_toJson diagnostic).solid

/-- A diagnostic for programs stands on one line. -/
theorem isLine_toJsonLine (diagnostic : Diagnostic) : Text.IsLine diagnostic.toJsonLine.toList := by
  have solid := solid_toJsonLine diagnostic
  refine ⟨fun feed => ?_, fun final => ?_⟩
  · exact absurd (solid _ feed) (by decide)
  · exact absurd (solid _ (List.mem_of_getLast? final)) (by decide)

end Diagnostic

/-! ### Streams -/

namespace CommandLine

variable {log : Log}

theorem toList_jsonReport (log : Log) :
    (jsonReport log).toList = Text.unlines (log.map (·.toJsonLine.toList)) := by
  rw [jsonReport, String.toList_join, Text.unlines, List.flatMap_map, List.flatMap_map]
  simp only [String.toList_append]
  rfl

theorem isLine_of_mem_map {line : List Char} (member : line ∈ log.map (·.toJsonLine.toList)) :
    Text.IsLine line := by
  obtain ⟨diagnostic, _, rfl⟩ := List.mem_map.mp member
  exact diagnostic.isLine_toJsonLine

theorem splitOn_jsonReport (log : Log) :
    (jsonReport log).toList.splitOn '\n' = log.map (·.toJsonLine.toList) ++ [[]] := by
  rw [toList_jsonReport]
  exact Text.splitOn_unlines fun _ => isLine_of_mem_map

theorem lines_jsonReport (log : Log) :
    Text.lines (jsonReport log).toList = log.map (·.toJsonLine.toList) := by
  rw [toList_jsonReport]
  exact Text.lines_unlines fun _ => isLine_of_mem_map

theorem jsonReport_injective : Function.Injective jsonReport := by
  intro first second same
  have lines := lines_jsonReport first
  rw [same, lines_jsonReport] at lines
  have oneByOne : Function.Injective fun diagnostic : Diagnostic => diagnostic.toJsonLine.toList :=
    fun _ _ same => Diagnostic.toJsonLine_injective (String.toList_injective same)
  exact (List.map_injective_iff.mpr oneByOne lines).symm

/-- **A stream of diagnostics loses nothing.** The line of a diagnostic holds no control character,
and no other diagnostic has it. So a stream that is cut at its line feeds gives the lines of its
diagnostics in order, and nothing after the last line feed, and no other diagnostics make it. -/
theorem jsonReport_splitOn_and_injective :
    (∀ diagnostic : Diagnostic, ∀ c ∈ diagnostic.toJsonLine.toList, 0x20 ≤ c.toNat) ∧
    Function.Injective Diagnostic.toJsonLine ∧
    (∀ log, (jsonReport log).toList.splitOn '\n' = log.map (·.toJsonLine.toList) ++ [[]] ∧
      Text.lines (jsonReport log).toList = log.map (·.toJsonLine.toList)) ∧
    Function.Injective jsonReport :=
  ⟨Diagnostic.solid_toJsonLine, Diagnostic.toJsonLine_injective,
    fun log => ⟨splitOn_jsonReport log, lines_jsonReport log⟩, jsonReport_injective⟩

end CommandLine

end FabricConfig
