import LoadLadder.Climb.Machine

/-!
# Operations of a client

Everything a client can ask of a world, and what it learns.  Most operations complete at once; only
`ensure` and `incremental` start a load, which may call the client back before it answers.  A client
names units and domains by the references it still holds.
-/

namespace LoadLadder

/-- A direct call of a unit's code container. -/
inductive ContainerCall
  | tracing (code : ResultCode)
  | profiler (code : ResultCode)
  | debuggerLoad (flags : AttachFlags)
  | debuggerUnload
  | eagerFixups
  | vtableFixups
  | exceptionPlan
  | expand
  | register
  | hasPrecompiledFixups
  | hasInitializer
  deriving Repr

/-- A request of the client. -/
inductive Operation
  | create (home : DomainKey) (image : Image) (container : Container)
  /-- Adds a unit to the dependencies that another unit's initializer activates. -/
  | addDependency (unit dependency : UnitKey)
  | ensure (through : DomainKey) (unit : UnitKey) (target : Level)
  | incremental (through : DomainKey) (unit : UnitKey) (level : Level)
  | require (unit : UnitKey) (level : Level)
  | throwIfError (unit : UnitKey) (level : Level)
  | requireActivated (through : DomainKey) (unit : UnitKey)
  /-- Compares a unit with a level, strictly or tolerantly. -/
  | checkLevel (through : DomainKey) (unit : UnitKey) (level : Level) (tolerant : Bool)
  | checkNoError (unit : UnitKey) (level : Level)
  | checkActivated (unit : UnitKey)
  | unload (through : DomainKey) (unit : UnitKey)
  | owned (through : DomainKey) (unit : UnitKey)
  | setError (unit : UnitKey) (cause : Cause)
  | state (unit : UnitKey)
  | debugging (unit : UnitKey)
  | debuggerLoad (unit : UnitKey) (flags : AttachFlags) (attaching : Bool)
  | debuggerUnload (unit : UnitKey)
  | latch (unit : UnitKey) (kind : ListenerKind)
  | notified (unit : UnitKey)
  | image (unit : UnitKey)
  /-- Reads what collaborators remember about a unit, whether or not it still exists. -/
  | handles (unit : UnitKey)
  | container (unit : UnitKey) (call : ContainerCall)
  | units (domain : DomainKey)
  | count (domain : DomainKey)
  | find (domain : DomainKey) (name : String)
  | domain (domain : DomainKey)
  | subscribe (domain : DomainKey) (listener : Nat)
  | counts (name : String)
  | dropUnit (unit : UnitKey)
  | dropDomain (domain : DomainKey)
  deriving Repr

/-- A look at a unit. -/
structure UnitState where
  snapshot : Snapshot
  loading : Bool
  loaded : Bool
  active : Bool
  isError : Bool
  cause : Option Cause
  gateLifted : Bool
  deriving Repr

/-- What collaborators remember about a unit. -/
structure Handles where
  work : Work
  bound : Option UnitId
  /-- How often the dependency initializer ran to its end, if there is one. -/
  runs : Option Nat
  deriving Repr

/-- A look at a domain. -/
structure DomainView where
  config : LoaderConfig
  debugger : Bool
  profiler : Bool
  inspection : Bool
  deriving Repr

/-- What the client learns from an operation. -/
inductive Answer
  | done
  | fault (fault : Fault)
  | flag (value : Bool)
  | number (value : Nat)
  | unitId (id : Option UnitId)
  | cause (cause : Cause)
  | config (config : DebuggingConfig)
  | kinds (kinds : List ListenerKind)
  | names (names : List String)
  | state (state : UnitState)
  | image (image : Image)
  | handles (handles : Handles)
  | domain (view : DomainView)
  | counts (counts : EventCounts)
  | noUnit
  | noDomain
  deriving Repr

namespace Answer

def ofUnit : Except Fault Unit → Answer
  | .ok () => .done
  | .error raised => .fault raised

def ofBool : Except Fault Bool → Answer
  | .ok value => .flag value
  | .error raised => .fault raised

def ofWork : Option Fault → Answer
  | none => .done
  | some raised => .fault raised

end Answer

namespace World

def holdsUnit (world : World) (key : UnitKey) : Bool :=
  key < world.unitCount && (world.unit key).presence == .held

def holdsDomain (world : World) (key : DomainKey) : Bool :=
  key < world.domainCount && (world.domain key).held

def unitState (world : World) (key : UnitKey) : UnitState :=
  let unit := world.unit key
  { snapshot := unit.snapshot
    loading := unit.isLoading
    loaded := unit.isLoaded
    active := unit.isActive
    isError := unit.isError
    cause := unit.failure.cause
    gateLifted := unit.gateLifted }

def unitHandles (world : World) (key : UnitKey) : Handles :=
  let unit := world.unit key
  { work := unit.work
    bound := unit.binding
    runs := if unit.container.initializer = .dependencies then some unit.completedRuns else none }

def callContainer (world : World) (key : UnitKey) : ContainerCall → World × Answer
  | .tracing code => (world.tellTracing key code, .done)
  | .profiler code => (world.tellProfiler key code, .done)
  | .debuggerLoad flags =>
      let (world, consumed) := world.containerDebuggerLoad key flags
      (world, .flag consumed)
  | .debuggerUnload => (world.containerDebuggerUnload key, .done)
  | .eagerFixups =>
      let (world, fault?) := world.applyEagerFixups key
      (world, .ofWork fault?)
  | .vtableFixups =>
      let (world, fault?) := world.patchVtables key
      (world, .ofWork fault?)
  | .exceptionPlan =>
      let (world, fault?) := world.resolvePlan key
      (world, .ofWork fault?)
  | .expand => (world.expandTypes key, .done)
  | .register => (world.registerCode key, .done)
  | .hasPrecompiledFixups => (world, .flag (world.unit key).container.hasPrecompiledFixups)
  | .hasInitializer =>
      (world, .flag ((world.unit key).container.initializer != .absent))

/-- Adds a dependency to a unit that has a dependency initializer, if the dependency is held. -/
def addDependency (world : World) (key dependency : UnitKey) : World × Bool :=
  if (world.unit key).container.initializer = .dependencies && world.holdsUnit dependency then
    (world.modifyUnit key fun unit =>
      { unit with dependencies := unit.dependencies ++ [dependency] }, true)
  else (world, false)

def dropUnit (world : World) (key : UnitKey) : World × Bool :=
  if world.holdsUnit key then
    (world.modifyUnit key fun unit => { unit with presence := .released }, true)
  else (world, false)

def dropDomain (world : World) (key : DomainKey) : World × Bool :=
  if world.holdsDomain key then
    (world.modifyDomain key fun domain => { domain with held := false }, true)
  else (world, false)

end World

namespace Operation

def name : Operation → String
  | create .. => "create"
  | addDependency .. => "add_dep"
  | ensure .. => "ensure"
  | incremental .. => "incremental"
  | require .. => "require"
  | throwIfError .. => "throw"
  | requireActivated .. => "require_activated"
  | checkLevel .. => "check"
  | checkNoError .. => "no_error"
  | checkActivated .. => "activated"
  | unload .. => "unload"
  | owned .. => "owned"
  | setError .. => "set_error"
  | state .. => "state"
  | debugging .. => "debugging"
  | debuggerLoad .. => "debugger_load"
  | debuggerUnload .. => "debugger_unload"
  | latch .. => "latch"
  | notified .. => "notified"
  | image .. => "image"
  | handles .. => "handles"
  | container .. => "container"
  | units .. => "units"
  | count .. => "count"
  | find .. => "find"
  | domain .. => "domain"
  | subscribe .. => "subscribe"
  | counts .. => "counts"
  | dropUnit .. => "drop_unit"
  | dropDomain .. => "drop_domain"

def domain? : Operation → Option DomainKey
  | create home .. => some home
  | ensure through .. => some through
  | incremental through .. => some through
  | requireActivated through _ => some through
  | checkLevel through .. => some through
  | unload through _ => some through
  | owned through _ => some through
  | units key => some key
  | count key => some key
  | find key _ => some key
  | domain key => some key
  | subscribe key _ => some key
  | _ => none

def unit? : Operation → Option UnitKey
  | addDependency unit _ => some unit
  | ensure _ unit _ => some unit
  | incremental _ unit _ => some unit
  | require unit _ => some unit
  | throwIfError unit _ => some unit
  | requireActivated _ unit => some unit
  | checkLevel _ unit _ _ => some unit
  | checkNoError unit _ => some unit
  | checkActivated unit => some unit
  | unload _ unit => some unit
  | owned _ unit => some unit
  | setError unit _ => some unit
  | state unit => some unit
  | debugging unit => some unit
  | debuggerLoad unit _ _ => some unit
  | debuggerUnload unit => some unit
  | latch unit _ => some unit
  | notified unit => some unit
  | image unit => some unit
  | container unit _ => some unit
  | _ => none

/-- The answer to a client that does not hold what the operation needs; a missing domain is noticed
first. -/
def refusal? (world : World) (operation : Operation) : Option Answer :=
  if operation.domain?.any fun key => !world.holdsDomain key then some .noDomain
  else if operation.unit?.any fun key => !world.holdsUnit key then some .noUnit
  else none

def task? (world : World) : Operation → Option Task
  | ensure through unit target => some (.ensure world through unit target)
  | incremental through unit level => some (.incremental world through unit level)
  | _ => none

/-- Carries out an operation that completes at once.  A load is not such an operation, and is left
to `task?`. -/
def complete (world : World) (thread : ThreadId) : Operation → World × Answer
  | create home binary code =>
      match world.createUnit home binary code with
      | (world, .ok id) => (world, .unitId (some id))
      | (world, .error fault) => (world, .fault fault)
  | addDependency unit dependency =>
      let (world, added) := world.addDependency unit dependency
      (world, .flag added)
  | require unit level => (world, .ofUnit ((world.unit unit).requireLevel level))
  | throwIfError unit level => (world, .ofUnit ((world.unit unit).throwIfError level))
  | requireActivated through unit => (world, .ofUnit (world.requireActivated through unit))
  | checkLevel through unit level tolerant =>
      (world, .flag (world.checkLoadLevel thread through unit level tolerant))
  | checkNoError unit level => (world, .flag ((world.unit unit).checkNoError level))
  | checkActivated unit => (world, .flag (world.unit unit).checkActivated)
  | unload through unit =>
      let (world, removed) := world.unloadUnit through unit
      (world, .flag removed)
  | owned through unit => (world, .flag ((world.unit unit).home == through))
  | setError unit cause =>
      match world.setError unit cause with
      | (world, .ok stored) => (world, .cause stored)
      | (world, .error fault) => (world, .fault fault)
  | state unit => (world, .state (world.unitState unit))
  | debugging unit =>
      match world.debuggingConfig unit with
      | (world, .ok config) => (world, .config config)
      | (world, .error fault) => (world, .fault fault)
  | debuggerLoad unit flags attaching =>
      let (world, result) := world.notifyDebuggerLoad unit flags attaching
      (world, .ofBool result)
  | debuggerUnload unit => (world.notifyDebuggerUnload unit, .done)
  | latch unit kind =>
      let (world, fresh) := world.claim unit kind
      (world, .flag fresh)
  | notified unit => (world, .kinds (world.unit unit).latches.claimed)
  | image unit => (world, .image (world.unit unit).image)
  | handles unit =>
      (world, if unit < world.unitCount then .handles (world.unitHandles unit) else .noUnit)
  | container unit call => world.callContainer unit call
  | units key =>
      (world, .names ((world.domain key).units.map fun unit => (world.unit unit).name))
  | count key => (world, .number (world.domain key).registry.length)
  | find key wanted =>
      (world, .unitId ((world.findUnit key wanted).map fun unit => (world.unit unit).id))
  | domain key =>
      let found := world.domain key
      (world,
        .domain {
          config := found.config
          debugger := found.sinks.isDebuggerAttached
          profiler := found.sinks.profiler
          inspection := found.sinks.inspection })
  | subscribe key listener =>
      (world.modifyDomain key fun domain =>
        { domain with listeners := domain.listeners ++ [.client listener] }, .done)
  | counts wanted => (world, .counts (.of wanted world.events))
  | dropUnit unit =>
      let (world, dropped) := world.dropUnit unit
      (world, .flag dropped)
  | dropDomain key =>
      let (world, dropped) := world.dropDomain key
      (world, .flag dropped)
  | ensure .. => (world, .done)
  | incremental .. => (world, .done)

def ofReply (operation : Operation) (reply : Reply) : Answer :=
  match operation, reply with
  | _, .error fault => .fault fault
  | incremental .., .ok ran => .flag ran
  | _, .ok _ => .done

end Operation

end LoadLadder
