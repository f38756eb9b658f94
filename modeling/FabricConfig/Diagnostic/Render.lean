import FabricConfig.Diagnostic.Basic
import FabricConfig.Json.Decode
import FabricConfig.Json.Printer
/-!
# Rendering diagnostics

A diagnostic is rendered for people, as a heading and lines for its subject, notes and help, or
for programs, as one line of JSON that leaves out what is empty.
-/

namespace FabricConfig

/-! ### Text -/

/-- The terminal's number for the colour of a severity. -/
def Severity.colour : Severity → String
  | .error => "31"
  | .warning => "33"
  | .note => "36"

namespace Diagnostic

/-- The severity and the code of a diagnostic. -/
def label (diagnostic : Diagnostic) : String :=
  diagnostic.severity.name ++ "[" ++ diagnostic.code.text ++ "]"

/-- The label of a diagnostic, in bold and in its colour if `coloured`. -/
def heading (diagnostic : Diagnostic) (coloured : Bool) : String :=
  if coloured then
    "\x1b[1;" ++ diagnostic.severity.colour ++ "m" ++ diagnostic.label ++ "\x1b[0m"
  else diagnostic.label

/-- A diagnostic for people. -/
def toText (diagnostic : Diagnostic) (coloured : Bool) : String :=
  diagnostic.heading coloured ++ ": " ++ diagnostic.message ++ "\n" ++
    String.join (diagnostic.subject.toList.map fun subject => "  --> " ++ subject ++ "\n") ++
    String.join (diagnostic.notes.map fun note => "   = note: " ++ note ++ "\n") ++
    String.join (diagnostic.help.map fun help => "   = help: " ++ help ++ "\n")

end Diagnostic

/-! ### JSON -/

namespace Severity

/-- A severity as JSON. -/
def toJson (severity : Severity) : Json := .text severity.name

/-- Reads a severity from JSON. -/
def ofJson? (json : Json) : Option Severity :=
  json.asName?.bind fun name => all.find? (·.name = name)

end Severity

namespace Category

/-- A category as JSON. -/
def toJson (category : Category) : Json := .text category.name

/-- Reads a category from JSON. -/
def ofJson? (json : Json) : Option Category :=
  json.asName?.bind fun name => all.find? (·.name = name)

end Category

namespace Code

/-- A code as JSON. -/
def toJson (code : Code) : Json :=
  .object [("category", code.category.toJson), ("number", .integer code.number.toNat)]

/-- Reads a code from JSON. -/
def ofJson? (json : Json) : Option Code := do
  let given ← json.asRecord? ["category", "number"]
  let category ← given.required? "category" Category.ofJson?
  let number ← given.required? "number" Json.asUInt16?
  return ⟨category, number⟩

end Code

namespace Diagnostic

/-- A list of lines as a field of a diagnostic, left out if it is empty. -/
def linesField (name : String) (lines : List String) : List (String × Json) :=
  if lines.isEmpty then [] else [(name, .array (lines.map .text))]

/-- A diagnostic as JSON. -/
def toJson (diagnostic : Diagnostic) : Json :=
  .object
    ([("severity", diagnostic.severity.toJson), ("code", diagnostic.code.toJson),
        ("message", .text diagnostic.message)] ++
      diagnostic.subject.toList.map (fun subject => ("subject", .text subject)) ++
      linesField "notes" diagnostic.notes ++ linesField "help" diagnostic.help)

/-- A diagnostic for programs: one line of JSON. -/
def toJsonLine (diagnostic : Diagnostic) : String := diagnostic.toJson.render

/-- Reads a diagnostic from JSON. Only the subject may be left out. -/
def ofJson? (json : Json) : Option Diagnostic := do
  let given ← json.asRecord? ["severity", "code", "message", "subject", "notes", "help"]
  let severity ← given.required? "severity" Severity.ofJson?
  let code ← given.required? "code" Code.ofJson?
  let message ← given.required? "message" Json.asText?
  let subject ← given.optional? "subject" (Json.asOption? Json.asText?) none
  let notes ← given.required? "notes" (Json.asList? Json.asText?)
  let help ← given.required? "help" (Json.asList? Json.asText?)
  return ⟨severity, code, message, subject, notes, help⟩

end Diagnostic

end FabricConfig
