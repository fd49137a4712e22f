import LoadLadder.Debuggable
import LoadLadder.Image
import LoadLadder.Latch

/-!
# Load units

A unit under load: its image and container, and the little that changes while it climbs, which is
its level, its cause and its latches.  The questions a caller can ask of a unit are answered here;
what also concerns the unit's domain is in `World`.
-/

namespace LoadLadder

/-- The place of a unit among all units ever created. -/
abbrev UnitKey := Nat

/-- The place of a domain among all domains ever created. -/
abbrev DomainKey := Nat

/-- Whether a unit exists, and whether the client still holds a reference to it. -/
inductive Presence
  | refused
  | held
  /-- The client let go of its reference; something else may hold one. -/
  | released
  | destroyed
  deriving DecidableEq, Repr, Inhabited

/-- A point-in-time view of a unit. -/
structure Snapshot where
  id : UnitId
  name : String
  level : Level
  /-- The wording of the cause, if the unit failed. -/
  error : Option String
  notified : List ListenerKind
  activated : Bool
  isSystem : Bool
  deriving DecidableEq, Repr

/-- A unit with its collaborators. -/
structure LoadUnit where
  id : UnitId
  home : DomainKey
  image : Image
  container : Container
  presence : Presence
  level : Level := .created
  failure : CauseCell := {}
  latches : Latches := {}
  /-- The activation check is off because the unit's own initializer runs. -/
  gateLifted : Bool := false
  /-- The unit has bound itself to the host's view of its image. -/
  hostBound : Bool := false
  /-- The decoded debuggable attribute, once it was decoded. -/
  debugging : Option DebuggingConfig := none
  binding : Option UnitId := none
  work : Work := {}
  /-- The units that the dependency initializer is to activate, in the order they were added. -/
  dependencies : List UnitKey := []
  /-- How often the dependency initializer ran to its end. -/
  completedRuns : Nat := 0
  deriving Repr, Inhabited

namespace LoadUnit

def name (unit : LoadUnit) : String :=
  unit.image.name

def isSystem (unit : LoadUnit) : Bool :=
  unit.image.bootstrap

def isLoading (unit : LoadUnit) : Bool :=
  unit.level < .active

def isLoaded (unit : LoadUnit) : Bool :=
  Level.loaded ≤ unit.level

def isActive (unit : LoadUnit) : Bool :=
  Level.active ≤ unit.level

/-- A reference that does not keep the unit still leads to it. -/
def isAlive (unit : LoadUnit) : Bool :=
  unit.presence == .held || unit.presence == .released

def isError (unit : LoadUnit) : Bool :=
  unit.failure.isSet

def raiseLevel (unit : LoadUnit) (level : Level) : LoadUnit :=
  { unit with level := max unit.level level }

/-- Raises the kept cause when it keeps the unit from reaching a level. -/
def throwIfError (unit : LoadUnit) (target : Level) : Except Fault Unit :=
  unit.failure.raiseIfBlocking unit.level target

def requireLevel (unit : LoadUnit) (target : Level) : Except Fault Unit := do
  if unit.level < target then
    unit.throwIfError target
    throw (.loadInProgress unit.name unit.level target)

/-- The unit has reached a level, or nothing keeps it from doing so. -/
def checkNoError (unit : LoadUnit) (target : Level) : Bool :=
  target ≤ unit.level || !unit.isError

/-- Code of the unit may run: the unit is active, or it has not failed and is either the bootstrap
unit or loaded with its own initializer running. -/
def checkActivated (unit : LoadUnit) : Bool :=
  if !unit.checkNoError .active then false
  else if unit.isActive then true
  else if unit.isSystem then true
  else if !unit.image.mapped || !unit.isLoaded then false
  else unit.gateLifted

/-- The configuration that the image's blob asks for; it is decoded at most once with success. -/
def debuggingConfig (unit : LoadUnit) : LoadUnit × Except Fault DebuggingConfig :=
  match unit.debugging with
  | some config => (unit, .ok config)
  | none =>
      match DebuggingConfig.ofBlob unit.image.debuggable with
      | .ok config => ({ unit with debugging := some config }, .ok config)
      | .error fault => (unit, .error fault)

/-- Makes the unit discoverable from the host's view of its image. -/
def bindHost (unit : LoadUnit) : LoadUnit :=
  if unit.image.hasBinding then
    { unit with binding := some unit.id, hostBound := true }
  else unit

def unbindHost (unit : LoadUnit) : LoadUnit :=
  if unit.hostBound then
    { unit with
      hostBound := false
      binding := if unit.image.hasBinding then none else unit.binding }
  else unit

def snapshot (unit : LoadUnit) : Snapshot where
  id := unit.id
  name := unit.name
  level := unit.level
  error := unit.failure.cause.map Cause.display
  notified := unit.latches.claimed
  activated := unit.checkActivated
  isSystem := unit.isSystem

end LoadUnit

end LoadLadder
