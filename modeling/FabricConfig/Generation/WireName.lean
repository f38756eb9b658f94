import FabricConfig.Device.Database
/-!
# Wire names

An arc names its wires as seen from the PIP's location: a wire of the location itself, or a global
one, by its own name, and any other with its distance in front, as `N2E1_` for two rows to the
north and one column to the east.
-/

namespace FabricConfig

/-- What the names of global wires start with. -/
def globalLeads : List String := ["G_", "L_", "R_", "U_", "D_", "BRANCH_"]

/-- Whether a wire is named alike everywhere. -/
def isGlobalName (name : String) : Bool :=
  globalLeads.any fun lead => lead.toList.isPrefixOf name.toList

/-- The distance from one coordinate to another: a letter for its direction, and its length. -/
def distanceText (forward backward : Char) (origin target : UInt32) : List Char :=
  if origin < target then forward :: Text.decimal (target - origin).toNat
  else if target < origin then backward :: Text.decimal (origin - target).toNat
  else []

/-- The name of the wire `base` at `target`, as seen from `origin`. -/
def relativeName (origin target : Location) (base : String) : String :=
  if isGlobalName base || target = origin then base
  else
    String.ofList (distanceText 'N' 'S' origin.row target.row ++
      distanceText 'E' 'W' origin.col target.col ++ '_' :: base.toList)

/-- The name of a wire of the device, as seen from `origin`. -/
def Database.relativeWireName (db : Database) (origin : Location) (wire : WireId) :
    Except Fault String := do
  return relativeName origin wire.location (← db.wireName wire)

end FabricConfig
