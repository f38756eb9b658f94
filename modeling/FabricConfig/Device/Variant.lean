import FabricConfig.Json.Decode
import FabricConfig.Text.Blank
/-!
# Device variants

The members of the MachXO2 family. A name is recognised with or without the family's prefix, in
either case, and with hyphens and underscores anywhere.
-/

namespace FabricConfig

/-- A member of the MachXO2 family. -/
inductive Variant where
  | hc256
  | hc640
  | hc1200
  | hc2000
  | hc4000
  | hc7000
deriving DecidableEq, Repr, Inhabited

/-- A text that names no variant. -/
structure UnknownVariant where
  text : String
deriving DecidableEq, Repr

/-- What is said about such a text. -/
def UnknownVariant.message (unknown : UnknownVariant) : String :=
  s!"unknown device variant '{unknown.text}'"

namespace Variant

/-- All variants, the smallest first. -/
def all : List Variant := [hc256, hc640, hc1200, hc2000, hc4000, hc7000]

/-- The name of a variant without the family's prefix. -/
def shortName : Variant → String
  | hc256 => "256HC"
  | hc640 => "640HC"
  | hc1200 => "1200HC"
  | hc2000 => "2000HC"
  | hc4000 => "4000HC"
  | hc7000 => "7000HC"

/-- The name of a variant. -/
def name (variant : Variant) : String := "LCMXO2-" ++ variant.shortName

instance : ToString Variant := ⟨name⟩

/-- The package assumed when none is named. -/
def defaultPackage : Variant → String
  | hc256 => "SG32"
  | hc640 | hc1200 => "TG100"
  | hc2000 | hc4000 | hc7000 => "TG144"

/-- The name of the part with a speed grade and a package. -/
def partName (variant : Variant) (speed package : String) : String :=
  variant.name ++ "-" ++ speed ++ package ++ "C"

/-- A text without hyphens and underscores, its ASCII letters in upper case. -/
def normalize (text : String) : List Char :=
  (text.toList.filter fun c => c != '-' && c != '_').map Char.toUpper

/-- The variant that a text names. -/
def parse (text : String) : Except UnknownVariant Variant :=
  let normal := normalize text
  let short := (Text.dropLead? ['L', 'C', 'M', 'X', 'O', '2'] normal).getD normal
  match all.find? fun variant => variant.shortName.toList = short with
  | some variant => .ok variant
  | none => .error ⟨text⟩

/-- What is told of a text that names no variant is the text. -/
theorem eq_of_parse_eq_error {text : String} {unknown : UnknownVariant}
    (refused : parse text = .error unknown) : unknown = ⟨text⟩ := by
  simp only [parse] at refused
  split at refused
  · cases refused
  · exact (Except.error.inj refused).symm

/-- A variant as JSON. -/
def toJson (variant : Variant) : Json := .text variant.name

/-- Reads a variant from JSON; only its exact name is accepted. -/
def ofJson? (json : Json) : Option Variant :=
  json.asName?.bind fun name => all.find? (·.name = name)

end Variant

end FabricConfig
