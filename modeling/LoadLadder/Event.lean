import LoadLadder.Debuggable

/-!
# Recorded events

What a recorder writes down, in order, when it is plugged in as a sink, as the scheduling hook or as
a listener, and the counts that are read off a recording.  A recorder knows units by name only.
-/

namespace LoadLadder

/-- One observed event about a unit. -/
inductive Event
  | tracingLoadFinished (unit : String) (code : ResultCode)
  | profilerLoadFinished (unit : String) (code : ResultCode)
  | debuggerUnitLoad (unit : String) (config : DebuggingConfig)
  | debuggerModuleLoad (unit : String)
  | debuggerModuleUnload (unit : String)
  | debuggerUnitUnload (unit : String)
  | moduleLoaded (unit : String)
  | transition (unit : String) (level : Level)
  | unitLoaded (unit : String)
  deriving DecidableEq, Repr

def Event.unit : Event → String
  | .tracingLoadFinished unit _ => unit
  | .profilerLoadFinished unit _ => unit
  | .debuggerUnitLoad unit _ => unit
  | .debuggerModuleLoad unit => unit
  | .debuggerModuleUnload unit => unit
  | .debuggerUnitUnload unit => unit
  | .moduleLoaded unit => unit
  | .transition unit _ => unit
  | .unitLoaded unit => unit

def eventsAbout (unit : String) (events : List Event) : List Event :=
  events.filter fun event => event.unit == unit

/-- What a recording holds about one unit. -/
structure EventCounts where
  tracing : Nat
  profiler : Nat
  unitLoads : Nat
  moduleLoads : Nat
  moduleUnloads : Nat
  unitUnloads : Nat
  inspection : Nat
  unitLoaded : Nat
  /-- The levels reported to the scheduling hook, in order. -/
  transitions : List Level
  codes : List ResultCode
  deriving DecidableEq, Repr

def Event.tracingCode? : Event → Option ResultCode
  | .tracingLoadFinished _ code => some code
  | _ => none

def Event.transition? : Event → Option Level
  | .transition _ level => some level
  | _ => none

/-- The event is a load-finished notification of the profiler. -/
def Event.isProfiler : Event → Bool
  | .profilerLoadFinished .. => true
  | _ => false

def Event.isDebuggerUnitLoad : Event → Bool
  | .debuggerUnitLoad .. => true
  | _ => false

def EventCounts.of (unit : String) (events : List Event) : EventCounts :=
  let about := eventsAbout unit events
  { tracing := about.countP fun event => event.tracingCode?.isSome
    profiler := about.countP Event.isProfiler
    unitLoads := about.countP Event.isDebuggerUnitLoad
    moduleLoads := about.count (.debuggerModuleLoad unit)
    moduleUnloads := about.count (.debuggerModuleUnload unit)
    unitUnloads := about.count (.debuggerUnitUnload unit)
    inspection := about.count (.moduleLoaded unit)
    unitLoaded := about.count (.unitLoaded unit)
    transitions := about.filterMap Event.transition?
    codes := about.filterMap Event.tracingCode? }

/-- What the log says when a load is reported to it instead of to a recorder. -/
structure TraceRecord where
  unit : String
  code : ResultCode
  deriving DecidableEq, Repr

namespace TraceRecord

def severity (record : TraceRecord) : String :=
  if record.code.isSuccess then "INFO" else "WARN"

def message (record : TraceRecord) : String :=
  if record.code.isSuccess then "load finished" else "load finished with failure"

end TraceRecord

end LoadLadder
