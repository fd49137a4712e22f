import LoadLadder.Manifest.Plan
import LoadLadder.Text.Layout

/-!
# Load reports

How far each unit of a plan got in a run, as a value, as a document, and as a table for people.
-/

namespace LoadLadder

open Documented

/-- How a unit fared in a run. -/
inductive UnitStatus
  | ok
  | failed
  | refused
  deriving DecidableEq, Repr

namespace UnitStatus

def name : UnitStatus → String
  | ok => "ok"
  | failed => "failed"
  | refused => "refused"

def label : UnitStatus → String
  | ok => "ok"
  | failed => "FAILED"
  | refused => "REFUSED"

end UnitStatus

/-- How one unit fared. -/
structure UnitReport where
  name : String
  status : UnitStatus
  fault : Option Fault
  snapshot : Option Snapshot
  tracingEvents : Nat
  profilerEvents : Nat
  debuggerLoads : Nat
  deriving Repr

/-- How all units fared. -/
structure LoadReport where
  domain : DomainId
  target : Level
  parallel : Bool
  registered : Nat
  units : List UnitReport
  events : Nat
  deriving Repr

namespace LoadPlan

def unitReport (world : World) (planned : PlannedUnit) (key : UnitKey)
    (outcome : Except Fault Unit) : UnitReport :=
  let counts := EventCounts.of planned.name world.events
  let fault := match outcome with
    | .ok () => none
    | .error fault => some fault
  { name := planned.name
    status :=
      if planned.refusal.isSome then .refused else if fault.isSome then .failed else .ok
    fault
    snapshot := if planned.refusal.isSome then none else some (world.unit key).snapshot
    tracingEvents := counts.tracing
    profilerEvents := counts.profiler
    debuggerLoads := counts.unitLoads }

/-- The report on a run that has ended with the given outcomes. -/
def report (plan : LoadPlan) (target : Level) (parallel : Bool)
    (outcomes : List (Except Fault Unit)) : LoadReport where
  domain := World.domainId domain
  target := target
  parallel := parallel
  registered := (plan.world.domain domain).registry.length
  units := (plan.units.zipIdx.zip outcomes).map fun ((planned, key), outcome) =>
    unitReport plan.world planned key outcome
  events := plan.world.events.length

def load (plan : LoadPlan) (target : Level) (parallel : Bool) : LoadPlan × LoadReport :=
  let (plan, outcomes) := plan.run target parallel
  (plan, plan.report target parallel outcomes)

end LoadPlan

namespace UnitReport

def toNode (report : UnitReport) : Node :=
  .table [
    ("name", .text report.name),
    ("status", .text report.status.name),
    ("error", Documented.toNode (report.fault.map Fault.message)),
    ("result_code", Documented.toNode (report.fault.map fun fault => fault.resultCode.display)),
    ("snapshot", Documented.toNode report.snapshot),
    ("tracing_events", .integer report.tracingEvents),
    ("profiler_events", .integer report.profilerEvents),
    ("debugger_loads", .integer report.debuggerLoads)]

def lines (report : UnitReport) : List String :=
  let level := report.snapshot.elim "-" fun snapshot => snapshot.level.name
  let row :=
    "  " ++ Text.padTo 24 report.name ++ " " ++ Text.padTo 16 level ++ " " ++ report.status.label
  row :: (report.fault.map fun fault => "      " ++ fault.message).toList

end UnitReport

namespace LoadReport

def toNode (report : LoadReport) : Node :=
  .table [
    ("domain", .integer report.domain.number),
    ("target", Documented.toNode report.target),
    ("parallel", .boolean report.parallel),
    ("registered", .integer report.registered),
    ("units", .list (report.units.map UnitReport.toNode)),
    ("events", .integer report.events)]

def failures (report : LoadReport) : Nat :=
  report.units.countP fun unit => unit.status != .ok

/-- What went wrong first, in the order of the entries. -/
def firstFault? (report : LoadReport) : Option Fault :=
  report.units.findSome? UnitReport.fault

def lines (report : LoadReport) : List String :=
  [ "Ladder Load Report",
    "==================",
    "Domain:     " ++ Text.showNat report.domain.number,
    "Target:     " ++ report.target.name,
    "Mode:       " ++ (if report.parallel then "parallel" else "sequential"),
    "Registered: " ++ Text.showNat report.registered,
    ""]
  ++ report.units.flatMap UnitReport.lines
  ++ ["",
    Text.showNat report.units.length ++ " unit(s), " ++ Text.showNat report.failures
      ++ " failure(s), " ++ Text.showNat report.events ++ " event(s)"]

end LoadReport

def LoadReport.render (report : LoadReport) : String :=
  Text.ofLines report.lines

end LoadLadder
