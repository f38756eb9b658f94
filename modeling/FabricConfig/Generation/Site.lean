import FabricConfig.Generation.Plan
/-!
# Sites

The four sites of one kind that share a tile are told apart by a letter after the start of their
names.
-/

namespace FabricConfig

/-- How many sites of one kind share a tile. -/
def sitesPerTile : Int := 4

/-- The index of a site: the distance from `A` of the first letter after `lead`. -/
def siteIndex (site lead : String) : Except GenerationError Nat :=
  match Text.dropLead? lead.toList site.toList with
  | none | some [] => .error (.invalidSite site lead)
  | some (letter :: _) =>
    let index : Int := letter.toNat - 'A'.toNat
    if 0 ≤ index ∧ index < sitesPerTile then .ok index.toNat
    else .error (.siteOutOfRange site index)

end FabricConfig
