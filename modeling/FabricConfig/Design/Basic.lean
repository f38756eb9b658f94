import FabricConfig.Design.NameTable
import FabricConfig.Design.Property
import FabricConfig.Device.Database
/-!
# Designs

A placed and routed design: cells, each with a kind, parameters, attributes and perhaps a BEL, and
nets, each with the PIPs bound to it in the order of binding. Cells and nets are numbered in the
order in which they are added, in 32 bits: past the last number they are numbered from zero again.

Operations that may meet a fault return the design as it stands then beside the outcome.
-/

namespace FabricConfig

/-- The number of a cell in its design: how many cells were added before it, in 32 bits. -/
abbrev CellId := UInt32

/-- The number of a net in its design: how many nets were added before it, in 32 bits. -/
abbrev NetId := UInt32

/-- The number of a name in a design's name table. -/
abbrev NameId := Nat

/-- Properties by the numbers of their keys. -/
abbrev Properties := Std.ExtTreeMap NameId Property

/-- A primitive, placed or not. -/
structure Cell where
  id : CellId
  name : NameId
  kind : NameId
  bel : Option BelId := none
  parameters : Properties := ∅
  attributes : Properties := ∅

/-- A net with the PIPs bound to it. -/
structure Net where
  id : NetId
  name : NameId
  pips : Array PipId := #[]

/-- A placed and routed design. -/
structure Design where
  names : NameTable := .empty
  cells : Array Cell := #[]
  nets : Array Net := #[]
  /-- The last cell added under each name. -/
  cellsByName : Std.ExtTreeMap NameId CellId := ∅
  /-- The net that each bound PIP is bound to. -/
  bindings : Std.ExtTreeMap PipId NetId := ∅

namespace Design

/-! ### Names -/

/-- The name with a number. -/
def name (design : Design) (id : NameId) : Except Fault String :=
  match design.names.name? id with
  | some name => .ok name
  | none => .error .missingEntry

/-- The number of a name, which is new if the design had no such name. -/
def number (design : Design) (name : String) : NameId × Design :=
  let (id, names) := design.names.number name
  (id, { design with names })

/-- The value of a key among the properties of a cell. -/
def property? (design : Design) (properties : Properties) (key : String) : Option Property :=
  (design.names.number? key).bind fun id => properties[id]?

/-! ### Cells -/

/-- A cell by its number. -/
def cell (design : Design) (id : CellId) : Except Fault Cell :=
  match design.cells[id.toNat]? with
  | some cell => .ok cell
  | none => .error .missingEntry

/-- The last cell added under a name. -/
def cellNamed? (design : Design) (name : String) : Option CellId :=
  (design.names.number? name).bind fun id => design.cellsByName[id]?

/-- Adds a cell, which is not placed and has no properties. -/
def addCell (design : Design) (name kind : String) : CellId × Design :=
  let id := UInt32.ofNat design.cells.size
  let (nameId, design) := design.number name
  let (kindId, design) := design.number kind
  (id, { design with
    cells := design.cells.push { id, name := nameId, kind := kindId }
    cellsByName := design.cellsByName.insert nameId id })

/-- Changes a cell. -/
def modifyCell (design : Design) (id : CellId) (change : Cell → Cell) :
    Design × Except Fault Unit :=
  if id.toNat < design.cells.size then
    ({ design with cells := design.cells.modify id.toNat change }, .ok ())
  else (design, .error .missingEntry)

/-- Places a cell on a BEL. -/
def place (design : Design) (id : CellId) (bel : BelId) : Design × Except Fault Unit :=
  design.modifyCell id fun cell => { cell with bel := some bel }

/-- Sets a parameter of a cell. The key is numbered even if there is no such cell. -/
def setParameter (design : Design) (id : CellId) (key : String) (value : Property) :
    Design × Except Fault Unit :=
  let (keyId, design) := design.number key
  design.modifyCell id fun cell => { cell with parameters := cell.parameters.insert keyId value }

/-- Sets an attribute of a cell. The key is numbered even if there is no such cell. -/
def setAttribute (design : Design) (id : CellId) (key : String) (value : Property) :
    Design × Except Fault Unit :=
  let (keyId, design) := design.number key
  design.modifyCell id fun cell => { cell with attributes := cell.attributes.insert keyId value }

/-- How many cells are placed. -/
def placedCount (design : Design) : Nat := design.cells.countP (·.bel.isSome)

/-! ### Nets -/

/-- A net by its number. -/
def net (design : Design) (id : NetId) : Except Fault Net :=
  match design.nets[id.toNat]? with
  | some net => .ok net
  | none => .error .missingEntry

/-- Adds a net, to which no PIP is bound. -/
def addNet (design : Design) (name : String) : NetId × Design :=
  let id := UInt32.ofNat design.nets.size
  let (nameId, design) := design.number name
  (id, { design with nets := design.nets.push { id, name := nameId } })

/-- The net that a PIP is bound to. -/
def boundNet? (design : Design) (pip : PipId) : Option NetId := design.bindings[pip]?

/-- How many PIPs are bound. -/
def boundPipCount (design : Design) : Nat := design.bindings.size

/-- Takes a PIP off a net's list. -/
def removePip (design : Design) (id : NetId) (pip : PipId) : Design × Except Fault Unit :=
  if id.toNat < design.nets.size then
    ({ design with
      nets := design.nets.modify id.toNat fun net =>
        { net with pips := net.pips.filter (· != pip) } },
      .ok ())
  else (design, .error .missingEntry)

/-- Puts a PIP at the end of a net's list. -/
def appendPip (design : Design) (id : NetId) (pip : PipId) : Design × Except Fault Unit :=
  if id.toNat < design.nets.size then
    ({ design with
      nets := design.nets.modify id.toNat fun net => { net with pips := net.pips.push pip } },
      .ok ())
  else (design, .error .missingEntry)

/-- Binds a PIP to a net and gives the net that it was bound to before. The binding is recorded
first and the nets' lists follow, so a fault leaves them behind. -/
def bindPip (design : Design) (id : NetId) (pip : PipId) :
    Design × Except Fault (Option NetId) :=
  let previous := design.boundNet? pip
  let recorded := { design with bindings := design.bindings.insert pip id }
  let (removed, removal) := match previous with
    | some old => recorded.removePip old pip
    | none => (recorded, .ok ())
  match removal with
  | .error fault => (removed, .error fault)
  | .ok () =>
    let (appended, addition) := removed.appendPip id pip
    (appended, addition.map fun () => previous)

end Design

end FabricConfig
