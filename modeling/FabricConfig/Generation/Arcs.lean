import FabricConfig.Design.Basic
import FabricConfig.Generation.Plan
import FabricConfig.Generation.WireName
/-!
# Arcs

Every configurable PIP that a net binds becomes an arc in the tile that holds it.
-/

namespace FabricConfig

/-- Whether a PIP of the device needs an arc: some net binds it, and it is no fixed connection. -/
def needsArc (db : Database) (design : Design) (pip : PipId) : Bool :=
  (design.boundNet? pip).isSome &&
    match db.pip pip with
    | .ok entry => entry.pipClass == .configurable
    | .error _ => false

/-- The PIPs that need an arc, in the order of the device. -/
def pipsWithArcs (db : Database) (design : Design) : List PipId :=
  db.pips.filter (needsArc db design)

/-- Plans the arc of a PIP. -/
def planArc (db : Database) (pip : PipId) : Plan Unit := do
  let tile ← Plan.ofTile (← Plan.ofLookup (db.pipTile pip))
  let source ← Plan.ofLookup (db.pipSource pip >>= db.relativeWireName pip.location)
  let sink ← Plan.ofLookup (db.pipSink pip >>= db.relativeWireName pip.location)
  Plan.edit (.set tile (.arc sink source))

/-- Plans all arcs of a design; the outcome is their number. -/
def planArcs (db : Database) (design : Design) : Plan Nat :=
  (Plan.all ((pipsWithArcs db design).map (planArc db))).map List.length

end FabricConfig
