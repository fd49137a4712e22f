import LoadLadder.Crew.Basic
import LoadLadder.Manifest.Basic
import LoadLadder.Operation

/-!
# Load plans

The domain that a manifest describes, with one unit for each entry, ready to be driven: one unit
after the other, or every unit by a thread of its own.
-/

namespace LoadLadder

/-- A unit as it was made from its entry. -/
structure PlannedUnit where
  name : String
  refusal : Option Fault := none
  deriving Repr, Inhabited

/-- A domain and the units planned in it.  The unit of an entry is found at the entry's place. -/
structure LoadPlan where
  world : World
  units : List PlannedUnit
  deriving Repr

def LoadPlan.domain : DomainKey := 0

namespace UnitSpec

def image (spec : UnitSpec) : Image where
  name := spec.name
  valid := !spec.invalid
  bootstrap := spec.bootstrap
  debuggable := spec.debuggable

def container (spec : UnitSpec) : Container where
  name := spec.name
  precompiled := spec.precompiled
  failAt := spec.failAt
  initializer := if spec.hasInitializer then .dependencies else .absent

end UnitSpec

namespace Manifest

/-- The domain without its units.  A recorder stands in for every consumer there is. -/
def domain (manifest : Manifest) : Domain where
  config := manifest.loader
  sinks := {
    tracing := .recorder
    profiler := manifest.sinks.profiler
    debugger := if manifest.sinks.debugger then .attached true else .absent
    inspection := manifest.sinks.inspection }
  hook := { records := true }
  listeners := [.recorder]

def planUnit (plan : LoadPlan) (spec : UnitSpec) : LoadPlan :=
  let (world, created) := plan.world.createUnit LoadPlan.domain spec.image spec.container
  let refusal := match created with
    | .ok _ => none
    | .error fault => some fault
  { world, units := plan.units ++ [{ name := spec.name, refusal }] }

/-- Adds the dependencies of a unit by name; one whose image was refused is skipped. -/
def addDependencies (units : List PlannedUnit) (world : World) (entry : UnitSpec × UnitKey) :
    World :=
  entry.1.dependsOn.foldl
    (fun world dependency =>
      match units.findIdx? fun planned => planned.name == dependency with
      | some key => (world.addDependency entry.2 key).1
      | none => world)
    world

def build (manifest : Manifest) : LoadPlan :=
  let empty : LoadPlan := { world := ({} : World).addDomain manifest.domain, units := [] }
  let plan := manifest.units.foldl planUnit empty
  { plan with world := manifest.units.zipIdx.foldl (addDependencies plan.units) plan.world }

end Manifest

namespace LoadPlan

/-- What a finished drive has to answer: at the highest level, code of the unit must be allowed to
run. -/
def conclude (world : World) (key : UnitKey) (target : Level) (outcome : Except Fault Unit) :
    Except Fault Unit :=
  match outcome with
  | .error fault => .error fault
  | .ok () => if target.isTerminal then world.requireActivated domain key else .ok ()

def drive (target : Level) (world : World) (entry : PlannedUnit × UnitKey) :
    World × Except Fault Unit :=
  match entry.1.refusal with
  | some fault => (world, .error fault)
  | none =>
      let (world, outcome) := Machine.ensure world domain entry.2 target
      (world, conclude world entry.2 target outcome)

def driveAll (target : Level) :
    World → List (PlannedUnit × UnitKey) → World × List (Except Fault Unit)
  | world, [] => (world, [])
  | world, entry :: entries =>
      let (world, outcome) := drive target world entry
      let (world, outcomes) := driveAll target world entries
      (world, outcome :: outcomes)

/-- One thread for each unit; a refused unit leaves its thread nothing to do. -/
def crew (plan : LoadPlan) (target : Level) : Crew where
  world := plan.world
  threads := plan.units.zipIdx.map fun (planned, key) =>
    match planned.refusal with
    | some fault => { task := .answer (.error fault) }
    | none => { task := .ensure plan.world domain key target }

def crewOutcomes (crew : Crew) (target : Level) : List (Except Fault Unit) :=
  crew.outcomes.zipIdx.map fun (outcome, key) => conclude crew.world key target outcome

def run (plan : LoadPlan) (target : Level) (parallel : Bool) :
    LoadPlan × List (Except Fault Unit) :=
  if parallel then
    let crew := (plan.crew target).run
    ({ plan with world := crew.world }, crewOutcomes crew target)
  else
    let (world, outcomes) := driveAll target plan.world plan.units.zipIdx
    ({ plan with world }, outcomes)

/-- Unloads a unit by name, if one of that name is registered. -/
def unload (plan : LoadPlan) (name : String) : LoadPlan × Option Bool :=
  match plan.world.findUnit domain name with
  | none => (plan, none)
  | some key =>
      let (world, removed) := plan.world.unloadUnit domain key
      ({ plan with world }, some removed)

def unloadAll : LoadPlan → List String → LoadPlan × List (Option Bool)
  | plan, [] => (plan, [])
  | plan, name :: names =>
      let (plan, removed) := plan.unload name
      let (plan, others) := unloadAll plan names
      (plan, removed :: others)

end LoadPlan

end LoadLadder
