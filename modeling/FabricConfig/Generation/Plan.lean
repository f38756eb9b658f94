import FabricConfig.Diagnostic.Basic
import FabricConfig.Document.Basic
import FabricConfig.Device.Database
import FabricConfig.FileError
/-!
# Plans

A stage of generation is planned before any document is changed: the edits it makes, the
diagnostics it gives and its outcome. A plan that fails keeps what it planned before it failed, so
the document left behind is the one with the edits made.

* `Plan.all`: plans carried out in turn, up to the first failure.
-/

namespace FabricConfig

/-- Why no configuration is generated. -/
inductive GenerationError where
  /-- The variant has no base configuration. -/
  | unsupported (variant : Variant)
  /-- A parameter cannot be read as a word. -/
  | malformedLiteral (value : String) (fault : LiteralFault)
  /-- A site's name lacks the start that its kind requires. -/
  | invalidSite (site lead : String)
  /-- The letter in a site's name is not one of `A` to `D`; `index` is its distance from `A`. -/
  | siteOutOfRange (site : String) (index : Int)
  /-- A tile is missing. -/
  | missingTile (error : TileError)
  /-- A site for input and output is not at the border of the grid. -/
  | notOnEdge (site : String) (location : Location)
  /-- The text of the configuration cannot be written. -/
  | unwritable (reason : FileError)
deriving DecidableEq, Repr

/-- The wording of an error. -/
def GenerationError.message : GenerationError → String
  | .unsupported variant =>
    s!"unsupported device type {variant}: no base configuration registered"
  | .malformedLiteral value fault => s!"error parsing value '{value}': {fault.message}"
  | .invalidSite site lead => s!"site '{site}' is not a valid site name (expected prefix '{lead}')"
  | .siteOutOfRange site index => s!"site '{site}' has out-of-range index {index}"
  | .missingTile error => s!"internal error: {error.message}"
  | .notOnEdge site location =>
    s!"internal error: I/O site {site} at {location} is not on the device edge"
  | .unwritable reason => s!"failed to write text configuration: {reason.message}"

/-- What ends a plan early. -/
inductive Failure where
  /-- The design or the request refers to something that the device does not have. -/
  | fault (fault : Fault)
  | error (error : GenerationError)
deriving DecidableEq, Repr

/-- The edits and diagnostics of a stage up to its end, and its outcome. -/
structure Plan (α : Type) where
  edits : List Edit := []
  log : Log := []
  outcome : Except Failure α

namespace Plan

/-- The plan that does nothing. -/
def pure {α : Type} (value : α) : Plan α := { outcome := .ok value }

/-- One plan, and then another that depends on its outcome, unless the first fails. -/
def bind {α β : Type} (first : Plan α) (next : α → Plan β) : Plan β :=
  match first.outcome with
  | .error failure => ⟨first.edits, first.log, .error failure⟩
  | .ok value =>
    let second := next value
    ⟨first.edits ++ second.edits, first.log ++ second.log, second.outcome⟩

instance : Monad Plan where
  pure := pure
  bind := bind

/-- A plan with its outcome changed. -/
def map {α β : Type} (change : α → β) (plan : Plan α) : Plan β :=
  ⟨plan.edits, plan.log, plan.outcome.map change⟩

/-- The plan that makes one edit. -/
def edit (edit : Edit) : Plan Unit := { edits := [edit], outcome := .ok () }

/-- The plan that gives one diagnostic. -/
def report (diagnostic : Diagnostic) : Plan Unit := { log := [diagnostic], outcome := .ok () }

/-- The plan that only fails. -/
def fail {α : Type} (failure : Failure) : Plan α := { outcome := .error failure }

/-- The plan that has the outcome of a look-up in a table. -/
def ofLookup {α : Type} : Except Fault α → Plan α
  | .ok value => pure value
  | .error fault => fail (.fault fault)

/-- The plan that has the outcome of a look-up of a tile. -/
def ofTile : Except TileError String → Plan String
  | .ok tile => pure tile
  | .error error => fail (.error (.missingTile error))

/-- The plan that has the outcome of a conversion. -/
def ofResult {α : Type} : Except GenerationError α → Plan α
  | .ok value => pure value
  | .error error => fail (.error error)

/-- Plans in turn, up to the first failure, with the list of their outcomes. -/
def all {α : Type} (plans : List (Plan α)) : Plan (List α) :=
  plans.foldr (fun plan rest => plan.bind fun value => rest.map (value :: ·)) (pure [])

end Plan

end FabricConfig
