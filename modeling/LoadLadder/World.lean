import LoadLadder.Codes
import LoadLadder.Domain
import LoadLadder.Event
import LoadLadder.Store

/-!
# Worlds

All domains and units together with what the recorder and the log received so far, and the
operations that complete at once: telling consumers, recording a cause, unloading a unit, and giving
up references.  Loading, which may call back into the client, is in `LoadLadder.Climb`.

Names in events come from the container where the container reports, and from the unit where the
unit does.
-/

namespace LoadLadder

/-- The state that all threads share. -/
structure World where
  domains : Store Domain := {}
  domainCount : Nat := 0
  units : Store LoadUnit := {}
  unitCount : Nat := 0
  /-- What the recorder received, in order. -/
  events : List Event := []
  /-- What the log received, in order. -/
  trace : List TraceRecord := []
  deriving Repr, Inhabited

namespace World

def unit (world : World) (key : UnitKey) : LoadUnit :=
  world.units.get key

def domain (world : World) (key : DomainKey) : Domain :=
  world.domains.get key

/-- Domains are numbered from one, in the order of their creation. -/
def domainId (key : DomainKey) : DomainId :=
  ⟨key + 1⟩

def homeOf (world : World) (key : UnitKey) : Domain :=
  world.domain (world.unit key).home

def sinksOf (world : World) (key : UnitKey) : Sinks :=
  (world.homeOf key).sinks

def modifyUnit (world : World) (key : UnitKey) (change : LoadUnit → LoadUnit) : World :=
  { world with units := world.units.modify key change }

def modifyDomain (world : World) (key : DomainKey) (change : Domain → Domain) : World :=
  { world with domains := world.domains.modify key change }

def countWork (world : World) (key : UnitKey) (change : Work → Work) : World :=
  world.modifyUnit key fun unit => { unit with work := change unit.work }

def emit (world : World) (event : Event) : World :=
  { world with events := world.events ++ [event] }

@[simp]
theorem unit_modifyUnit (world : World) (key other : UnitKey) (change : LoadUnit → LoadUnit) :
    (world.modifyUnit key change).unit other =
      if key = other then change (world.unit key) else world.unit other :=
  Store.get_modify world.units key other change

@[simp]
theorem domain_modifyUnit (world : World) (key : UnitKey) (other : DomainKey)
    (change : LoadUnit → LoadUnit) :
    (world.modifyUnit key change).domain other = world.domain other :=
  rfl

@[simp]
theorem domain_modifyDomain (world : World) (key other : DomainKey) (change : Domain → Domain) :
    (world.modifyDomain key change).domain other =
      if key = other then change (world.domain key) else world.domain other :=
  Store.get_modify world.domains key other change

@[simp]
theorem unit_modifyDomain (world : World) (key : DomainKey) (other : UnitKey)
    (change : Domain → Domain) :
    (world.modifyDomain key change).unit other = world.unit other :=
  rfl

@[simp]
theorem unit_emit (world : World) (event : Event) (other : UnitKey) :
    (world.emit event).unit other = world.unit other :=
  rfl

@[simp]
theorem domain_emit (world : World) (event : Event) (other : DomainKey) :
    (world.emit event).domain other = world.domain other :=
  rfl

@[simp]
theorem events_emit (world : World) (event : Event) :
    (world.emit event).events = world.events ++ [event] :=
  rfl

@[simp]
theorem events_modifyUnit (world : World) (key : UnitKey) (change : LoadUnit → LoadUnit) :
    (world.modifyUnit key change).events = world.events :=
  rfl

@[simp]
theorem events_modifyDomain (world : World) (key : DomainKey) (change : Domain → Domain) :
    (world.modifyDomain key change).events = world.events :=
  rfl

def addDomain (world : World) (domain : Domain) : World :=
  { world with
    domains := world.domains.set world.domainCount domain
    domainCount := world.domainCount + 1 }

/-- Wraps an image and its container in a fresh unit of a domain.  An image that cannot be executed
uses up a unit number all the same, and leaves a record without a unit. -/
def createUnit (world : World) (home : DomainKey) (image : Image) (container : Container) :
    World × Except Fault UnitId :=
  let id : UnitId := ⟨(world.domain home).nextUnit⟩
  let world := world.modifyDomain home fun domain =>
    { domain with nextUnit := domain.nextUnit + 1 }
  let place (presence : Presence) : World :=
    { world with
      units := world.units.set world.unitCount { id, home, image, container, presence }
      unitCount := world.unitCount + 1 }
  match image.validate with
  | .ok () => (place .held, .ok id)
  | .error fault => (place .refused, .error fault)

/-- The container tells tracing that the load finished. -/
def tellTracing (world : World) (key : UnitKey) (code : ResultCode) : World :=
  let name := (world.unit key).container.name
  match (world.sinksOf key).tracing with
  | .recorder => world.emit (.tracingLoadFinished name code)
  | .log => { world with trace := world.trace ++ [⟨name, code⟩] }

/-- The container tells the profiler, if there is one, that the load finished. -/
def tellProfiler (world : World) (key : UnitKey) (code : ResultCode) : World :=
  if (world.sinksOf key).profiler then
    world.emit (.profilerLoadFinished (world.unit key).container.name code)
  else world

/-- Claims a latch of a unit, and answers whether it was free. -/
def claim (world : World) (key : UnitKey) (kind : ListenerKind) : World × Bool :=
  (world.modifyUnit key fun unit => { unit with latches := unit.latches.claim kind },
    !(world.unit key).latches.isSet kind)

/-- A claimed latch is set, and no other latch of any unit changes. -/
theorem isSet_claim (world : World) (key other : UnitKey) (claimed kind : ListenerKind) :
    ((world.claim key claimed).1.unit other).latches.isSet kind =
      ((world.unit other).latches.isSet kind || decide (key = other ∧ claimed = kind)) := by
  by_cases same : key = other
  · subst same
    simp [claim]
  · simp [claim, same]

/-- A latch that was claimed before is claimed in vain. -/
theorem claim_of_isSet {world : World} {key : UnitKey} {kind : ListenerKind}
    (told : (world.unit key).latches.isSet kind = true) : (world.claim key kind).1 = world := by
  have written : world.units.get key ≠ default := by
    intro unwritten
    have free : (default : LoadUnit).latches.isSet kind = false := Latches.isSet_default kind
    rw [← unwritten] at free
    exact Bool.false_ne_true (free.symm.trans told)
  let change (unit : LoadUnit) : LoadUnit := { unit with latches := unit.latches.claim kind }
  have same : change (world.units.get key) = world.units.get key :=
    congrArg ({ world.units.get key with latches := · }) (Latches.claim_of_isSet told)
  exact congrArg ({ world with units := · }) (Store.modify_eq_self written same)

/-- Runs an action if its latch was free; the latch is claimed before the action runs. -/
def once (world : World) (key : UnitKey) (kind : ListenerKind) (action : World → World) : World :=
  let (world, fresh) := world.claim key kind
  if fresh then action world else world

/-- Keeps the cause that stops a unit.  Tracing always hears of it, the profiler only if it has not
been told about the unit before. -/
def setError (world : World) (key : UnitKey) (cause : Cause) : World × Except Fault Cause :=
  match (world.unit key).failure.record cause with
  | (failure, .ok stored) =>
      let world := world.modifyUnit key fun unit => { unit with failure }
      let world := world.tellTracing key stored.code
      (world.once key .profiler fun world => world.tellProfiler key stored.code, .ok stored)
  | (_, .error fault) => (world, .error fault)

/-- Turns a fault at a level into the unit's cause, and answers the fault to surface. -/
def recordFailure (world : World) (key : UnitKey) (level : Level) (fault : Fault) :
    World × Fault :=
  match world.setError key (.capture fault (world.unit key).name level) with
  | (world, .ok stored) => (world, .load stored)
  | (world, .error violation) => (world, violation)

/-- The container delivers the module-level load, and answers whether it was consumed. -/
def containerDebuggerLoad (world : World) (key : UnitKey) (flags : AttachFlags) : World × Bool :=
  if !flags.contains .moduleLoad then (world, false)
  else
    match (world.sinksOf key).debugger with
    | .absent => (world, false)
    | .attached consumes => (world.emit (.debuggerModuleLoad (world.unit key).name), consumes)

/-- The container tells the debugger that the module goes away. -/
def containerDebuggerUnload (world : World) (key : UnitKey) : World :=
  if (world.sinksOf key).isDebuggerAttached then
    world.emit (.debuggerModuleUnload (world.unit key).name)
  else world

def debuggingConfig (world : World) (key : UnitKey) : World × Except Fault DebuggingConfig :=
  let (unit, result) := (world.unit key).debuggingConfig
  (world.modifyUnit key fun _ => unit, result)

/-- Sends the unit-level load, with the default configuration if the attribute is malformed. -/
def sendUnitLoad (world : World) (key : UnitKey) : World :=
  let (world, result) := world.debuggingConfig key
  let config := match result with
    | .ok config => config
    | .error _ => {}
  world.emit (.debuggerUnitLoad (world.unit key).name config)

/-- Tells the debugger about a unit.  Nothing is sent before the unit has been flagged for the
debugger or without a debugger; the module-level load is sent at most once. -/
def notifyDebuggerLoad (world : World) (key : UnitKey) (flags : AttachFlags) (attaching : Bool) :
    World × Except Fault Bool :=
  if attaching then (world, .error (.contract (.attachInProcess (world.unit key).name)))
  else if !(world.unit key).latches.isSet .debugger then (world, .ok false)
  else if !(world.sinksOf key).isDebuggerAttached then (world, .ok false)
  else
    let sent := flags.contains .assemblyLoad
    let world := if sent then world.sendUnitLoad key else world
    let (world, fresh) := world.claim key .debuggerModule
    if fresh then
      let (world, consumed) := world.containerDebuggerLoad key (flags.union .moduleLoad)
      (world, .ok (sent || consumed))
    else (world, .ok sent)

def notifyDebuggerUnload (world : World) (key : UnitKey) : World :=
  if (world.sinksOf key).isDebuggerAttached then
    (world.containerDebuggerUnload key).emit (.debuggerUnitUnload (world.unit key).name)
  else world

def registerUnit (world : World) (key : UnitKey) : World :=
  let unit := world.unit key
  world.modifyDomain unit.home fun domain => domain.register unit.id key

/-- Removes a unit from a domain and tells the debugger.  A domain that did not create the unit, or
in which it is not registered, does nothing. -/
def unloadUnit (world : World) (through : DomainKey) (key : UnitKey) : World × Bool :=
  let unit := world.unit key
  if unit.home ≠ through then (world, false)
  else
    match (world.domain through).registered? unit.id with
    | none => (world, false)
    | some removed =>
        let world := world.modifyDomain through fun domain => domain.unregister unit.id
        let world := world.notifyDebuggerUnload removed
        (world.modifyUnit removed LoadUnit.unbindHost, true)

/-- The first registered unit of a name, in the order of the units' numbers. -/
def findUnit (world : World) (through : DomainKey) (name : String) : Option UnitKey :=
  (world.domain through).units.find? fun key => (world.unit key).name == name

def checkDomain (world : World) (through : DomainKey) (key : UnitKey) : Except Fault Unit :=
  let unit := world.unit key
  if unit.home = through then .ok ()
  else .error (.contract (.foreignDomain unit.name (domainId unit.home) (domainId through)))

/-- A strict domain refuses to run code in a unit that is not activated. -/
def requireActivated (world : World) (through : DomainKey) (key : UnitKey) : Except Fault Unit :=
  let unit := world.unit key
  if unit.checkActivated then .ok ()
  else if (world.domain through).config.strictActivationChecks then
    .error (.contract (.notActivated unit.name unit.level))
  else .ok ()

def modifyEntries (world : World) (key : UnitKey) (change : Entries → Entries) : World :=
  world.modifyDomain (world.unit key).home fun domain =>
    { domain with entries := change domain.entries }

def requestEntry (world : World) (thread : ThreadId) (key : UnitKey) : World × Verdict :=
  let (entries, verdict) := (world.homeOf key).entries.request thread (world.unit key).id
  (world.modifyEntries key fun _ => entries, verdict)

/-- A thread that waits for the entry of a unit is woken. -/
def wakeForEntry (world : World) (thread : ThreadId) (key : UnitKey) : World × Verdict :=
  let (entries, verdict) := (world.homeOf key).entries.wake thread (world.unit key).id
  (world.modifyEntries key fun _ => entries, verdict)

def releaseEntry (world : World) (key : UnitKey) : World :=
  world.modifyEntries key fun entries => entries.release (world.unit key).id

/-- The unit has the required level, or lacks one level and the thread could not progress it without
waiting for itself. -/
def checkLoading (world : World) (thread : ThreadId) (key : UnitKey) (required : Level) : Bool :=
  let unit := world.unit key
  if required ≤ unit.level then true
  else if unit.level < required.relaxed then false
  else
    let entries := (world.homeOf key).entries
    match entries.owner? unit.id with
    | none => false
    | some owner => if owner = thread then true else entries.wouldDeadlock thread unit.id

/-- Checks a unit against a level, strictly or tolerating that the thread itself is in the way. -/
def checkLoadLevel (world : World) (thread : ThreadId) (through : DomainKey) (key : UnitKey)
    (required : Level) (tolerant : Bool) : Bool :=
  if (world.unit key).home ≠ through then false
  else if tolerant then world.checkLoading thread key required
  else required ≤ (world.unit key).level

def isRegistered (world : World) (key : UnitKey) : Bool :=
  (world.homeOf key).units.contains key

/-- Something holds a reference to a unit: the client, the registry, or one of the running
operations, which hold the units in `pinned`. -/
def isReferenced (world : World) (pinned : List UnitKey) (key : UnitKey) : Bool :=
  (world.unit key).presence == .held || world.isRegistered key || pinned.contains key

/-- A domain lives as long as the client or an operation on one of its units uses it. -/
def domainLives (world : World) (pinned : List UnitKey) (key : DomainKey) : Bool :=
  (world.domain key).held || pinned.any fun unit => (world.unit unit).home == key

/-- Empties the registries of the domains that nothing uses any more. -/
def closeDomains (world : World) (pinned : List UnitKey) : World :=
  (List.range world.domainCount).foldl
    (fun world key =>
      if world.domainLives pinned key then world
      else world.modifyDomain key fun domain => { domain with registry := [] })
    world

/-- Destroys the units that nothing holds any more; a destroyed unit unbinds itself. -/
def destroyUnits (world : World) (pinned : List UnitKey) : World :=
  (List.range world.unitCount).foldl
    (fun world key =>
      if (world.unit key).presence == .released && !world.isReferenced pinned key then
        world.modifyUnit key fun unit => { unit.unbindHost with presence := .destroyed }
      else world)
    world

def collect (world : World) (pinned : List UnitKey) : World :=
  (world.closeDomains pinned).destroyUnits pinned

end World

end LoadLadder
