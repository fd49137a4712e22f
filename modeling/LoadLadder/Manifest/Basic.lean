import LoadLadder.Document.Toml.Reader
import LoadLadder.Document.Values
import LoadLadder.Text.Layout

/-!
# Manifests

A manifest describes a domain: its settings, its consumers, and the units in it with the units they
depend on.  A manifest is sound if its names tell the units apart, its dependencies name units, and
failures are asked for only where a code container does the work.
-/

namespace LoadLadder

open Documented

/-- Which optional consumers a domain gets; tracing is always there. -/
structure SinkConfig where
  profiler : Bool := false
  debugger : Bool := false
  inspection : Bool := false
  deriving DecidableEq, Repr, Inhabited

/-- The description of one unit. -/
structure UnitSpec where
  name : String := ""
  bootstrap : Bool := false
  precompiled : Bool := false
  /-- The unit has a static initializer even if it depends on nothing. -/
  initializer : Bool := false
  /-- The units that the static initializer activates, by name. -/
  dependsOn : List String := []
  failAt : Option Level := none
  debuggable : Option (List UInt8) := none
  invalid : Bool := false
  deriving DecidableEq, Repr, Inhabited

/-- The description of a domain. -/
structure Manifest where
  loader : LoaderConfig := {}
  sinks : SinkConfig := {}
  units : List UnitSpec := []
  deriving DecidableEq, Repr, Inhabited

instance : Documented SinkConfig where
  toNode sinks := .table [
    ("profiler", toNode sinks.profiler),
    ("debugger", toNode sinks.debugger),
    ("inspection", toNode sinks.inspection)]
  ofNode? dialect node := do
    let [profiler, debugger, inspection] ←
      node.fields? dialect .refused ["profiler", "debugger", "inspection"] | none
    return {
      profiler := ← optional dialect false profiler
      debugger := ← optional dialect false debugger
      inspection := ← optional dialect false inspection }

instance : Documented UnitSpec where
  toNode spec := .table [
    ("name", toNode spec.name),
    ("bootstrap", toNode spec.bootstrap),
    ("precompiled", toNode spec.precompiled),
    ("initializer", toNode spec.initializer),
    ("depends_on", toNode spec.dependsOn),
    ("fail_at", toNode spec.failAt),
    ("debuggable", toNode spec.debuggable),
    ("invalid", toNode spec.invalid)]
  ofNode? dialect node := do
    let [name, bootstrap, precompiled, initializer, dependsOn, failAt, debuggable, invalid] ←
      node.fields? dialect .refused
        ["name", "bootstrap", "precompiled", "initializer", "depends_on", "fail_at", "debuggable",
          "invalid"]
      | none
    return {
      name := ← optional dialect "" name
      bootstrap := ← optional dialect false bootstrap
      precompiled := ← optional dialect false precompiled
      initializer := ← optional dialect false initializer
      dependsOn := ← optional dialect [] dependsOn
      failAt := ← optional dialect none failAt
      debuggable := ← optional dialect none debuggable
      invalid := ← optional dialect false invalid }

instance : Documented Manifest where
  toNode manifest := .table [
    ("loader", toNode manifest.loader),
    ("sinks", toNode manifest.sinks),
    ("unit", toNode manifest.units)]
  ofNode? dialect node := do
    let [loader, sinks, units] ← node.fields? dialect .refused ["loader", "sinks", "unit"] | none
    return {
      loader := ← optional dialect {} loader
      sinks := ← optional dialect {} sinks
      units := ← optional dialect [] units }

namespace UnitSpec

/-- A unit that depends on others needs an initializer to activate them. -/
def hasInitializer (spec : UnitSpec) : Bool :=
  spec.initializer || !spec.dependsOn.isEmpty

/-- Nothing is left of the name without white space around it. -/
def hasBlankName (spec : UnitSpec) : Bool :=
  (Text.strip spec.name.toList).isEmpty

/-- The first thing wrong with a unit's references, given the names of all units. -/
def referenceDefect? (names : List String) (spec : UnitSpec) : Option Misconfiguration :=
  match spec.dependsOn.find? fun dependency => !names.contains dependency with
  | some missing => some (.unknownDependency spec.name missing)
  | none =>
      match spec.failAt with
      | some level =>
          if Level.failurePoints.contains level then none else some (.uninjectable spec.name level)
      | none => none

end UnitSpec

namespace Manifest

/-- The first thing wrong with the names of units, given the names in front of them. -/
def nameDefect? : (earlier : List String) → List UnitSpec → Option Misconfiguration
  | _, [] => none
  | earlier, spec :: specs =>
      if spec.hasBlankName then some .blankUnitName
      else if earlier.contains spec.name then some (.duplicateUnit spec.name)
      else nameDefect? (spec.name :: earlier) specs

def names (manifest : Manifest) : List String :=
  manifest.units.map UnitSpec.name

/-- The first thing wrong with a manifest: names come first, then references, unit by unit. -/
def defect? (manifest : Manifest) : Option Misconfiguration :=
  match nameDefect? [] manifest.units with
  | some defect => some defect
  | none => manifest.units.findSome? (UnitSpec.referenceDefect? manifest.names)

def validate (manifest : Manifest) : Except Fault Unit :=
  match manifest.defect? with
  | some defect => .error (.configuration defect)
  | none => .ok ()

def ofToml (source : String) : Except Fault Manifest :=
  match Toml.decode? source with
  | none => .error (.configuration .malformedManifest)
  | some manifest => (manifest : Manifest).validate.map fun _ => manifest

end Manifest

end LoadLadder
