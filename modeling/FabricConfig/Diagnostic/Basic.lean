import FabricConfig.Text.Numeral
/-!
# Diagnostics

A diagnostic tells of one finding: how severe it is, a code, a message, perhaps the object that it
is about, and lines of notes and of help. A log keeps diagnostics in the order in which they come.
-/

namespace FabricConfig

/-- How severe a finding is. -/
inductive Severity where
  | note
  | warning
  | error
deriving DecidableEq, Repr

namespace Severity

/-- All severities, the least first. -/
def all : List Severity := [note, warning, error]

/-- The name of a severity. -/
def name : Severity → String
  | note => "note"
  | warning => "warning"
  | error => "error"

/-- The rank of a severity; the more severe, the higher. -/
def rank : Severity → Nat
  | note => 0
  | warning => 1
  | error => 2

end Severity

/-- The part of the work that a finding comes from. -/
inductive Category where
  | config
  | device
  | design
  | bitstream
deriving DecidableEq, Repr

namespace Category

/-- All categories. -/
def all : List Category := [config, device, design, bitstream]

/-- The name of a category. -/
def name : Category → String
  | config => "Config"
  | device => "Device"
  | design => "Design"
  | bitstream => "Bitstream"

/-- The letter that starts the codes of a category. -/
def letter : Category → Char
  | config => 'C'
  | device => 'D'
  | design => 'N'
  | bitstream => 'B'

end Category

/-- The code of a kind of finding. -/
structure Code where
  category : Category
  number : UInt16
deriving DecidableEq, Repr

/-- A code as its category's letter and at least three digits. -/
def Code.text (code : Code) : String :=
  String.ofList (code.category.letter :: Text.padLeft 3 (Text.decimal code.number.toNat))

/-- A finding. -/
structure Diagnostic where
  severity : Severity
  code : Code
  message : String
  /-- The object that the finding is about. -/
  subject : Option String := none
  notes : List String := []
  help : List String := []
deriving DecidableEq, Repr

/-- Diagnostics in the order in which they came. -/
abbrev Log := List Diagnostic

namespace Log

/-- How many diagnostics have a severity. -/
def count (log : Log) (severity : Severity) : Nat := log.countP (·.severity = severity)

/-- Whether there is a diagnostic of an error. -/
def hasErrors (log : Log) : Bool := 0 < log.count .error

/-- The diagnostics that are at least as severe as `least`. -/
def atLeast (log : Log) (least : Severity) : Log :=
  log.filter fun diagnostic => least.rank ≤ diagnostic.severity.rank

end Log

end FabricConfig
