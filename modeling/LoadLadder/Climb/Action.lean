import LoadLadder.World

/-!
# The work of each level

A sub-step takes a unit to one level.  It is a short list of actions, each of which happens at one
instant; between two of them other threads may act.  Two actions hand control elsewhere, to the
static initializer and to the domain's hook, and are carried out by the climbing thread itself.
-/

namespace LoadLadder

/-- One piece of the work of a level. -/
inductive Action
  | register
  | bindHost
  | requireMapped
  | announceProfiler
  | applyEagerFixups
  | announceTracing
  | announceDebugger
  | patchVtables
  /-- Raise the level before the sub-step is over, so that tooling can find the unit. -/
  | publish
  | showInspection
  | requireLoaded
  | resolvePlan
  | runInitializer
  | expandTypes
  | registerCode
  /-- Report the completed sub-step to the domain's hook. -/
  | reportTransition
  deriving DecidableEq, Repr

def Level.actions : Level → List Action
  | .created => []
  | .begun => [.register, .bindHost, .reportTransition]
  | .beforeTypeLoad => [.requireMapped, .announceProfiler, .reportTransition]
  | .eagerFixups => [.applyEagerFixups, .reportTransition]
  | .deliverEvents => [.announceTracing, .announceProfiler, .announceDebugger, .reportTransition]
  | .vtableFixups => [.patchVtables, .reportTransition]
  | .loaded => [.publish, .showInspection, .reportTransition]
  | .active =>
      [.requireLoaded, .resolvePlan, .runInitializer, .expandTypes, .registerCode,
        .reportTransition]

namespace World

def doWork (world : World) (key : UnitKey) (level : Level) (count : Work → Work) :
    World × Option Fault :=
  (world.countWork key count, (world.unit key).container.workFault? level)

def applyEagerFixups (world : World) (key : UnitKey) : World × Option Fault :=
  world.doWork key .eagerFixups fun work => { work with eagerFixups := work.eagerFixups + 1 }

def patchVtables (world : World) (key : UnitKey) : World × Option Fault :=
  world.doWork key .vtableFixups fun work => { work with vtableFixups := work.vtableFixups + 1 }

def resolvePlan (world : World) (key : UnitKey) : World × Option Fault :=
  world.doWork key .active fun work => { work with exceptionPlans := work.exceptionPlans + 1 }

def expandTypes (world : World) (key : UnitKey) : World :=
  world.countWork key fun work => { work with expansions := work.expansions + 1 }

def registerCode (world : World) (key : UnitKey) : World :=
  world.countWork key fun work => { work with registrations := work.registrations + 1 }

def announceDebugger (world : World) (key : UnitKey) : World × Option Fault :=
  let (world, fresh) := world.claim key .debugger
  if fresh then
    match world.notifyDebuggerLoad key .assemblyLoad false with
    | (world, .ok _) => (world, none)
    | (world, .error fault) => (world, some fault)
  else (world, none)

/-- Carries out an action that stays within the loader; the others do nothing here. -/
def perform (world : World) (key : UnitKey) (action : Action) : World × Option Fault :=
  let unit := world.unit key
  match action with
  | .register => (world.registerUnit key, none)
  | .bindHost => (world.modifyUnit key LoadUnit.bindHost, none)
  | .requireMapped =>
      (world,
        if unit.image.mapped then none else some (.contract (.imageNotMapped unit.name)))
  | .announceProfiler =>
      (world.once key .profiler fun world => world.tellProfiler key .ok, none)
  | .applyEagerFixups =>
      if unit.container.hasPrecompiledFixups then world.applyEagerFixups key else (world, none)
  | .announceTracing =>
      (world.once key .tracing fun world => world.tellTracing key .ok, none)
  | .announceDebugger => world.announceDebugger key
  | .patchVtables => world.patchVtables key
  | .publish => (world.modifyUnit key fun unit => unit.raiseLevel .loaded, none)
  | .showInspection =>
      (if (world.sinksOf key).inspection then world.emit (.moduleLoaded unit.name) else world,
        none)
  | .requireLoaded =>
      (world,
        if unit.isLoaded then none else some (.contract (.activatedBeforeLoaded unit.name)))
  | .resolvePlan => world.resolvePlan key
  | .expandTypes =>
      (if (world.homeOf key).config.expandModulesOnLoad then world.expandTypes key else world,
        none)
  | .registerCode =>
      (if unit.container.hasPrecompiledFixups then world.registerCode key else world, none)
  | .runInitializer => (world, none)
  | .reportTransition => (world, none)

end World

end LoadLadder
