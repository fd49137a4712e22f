import LoadLadder.Fault

/-!
# Images and their code containers

The two things a unit is made of: the image it wraps, and the code container produced from that
image.  A container does the work of some levels, counts what it did, and can be made to fail at one
level; a failing piece of work is counted like any other.
-/

namespace LoadLadder

/-- A loaded binary image. -/
structure Image where
  name : String
  mapped : Bool := true
  valid : Bool := true
  bootstrap : Bool := false
  /-- The blob of the debuggable attribute, if there is one. -/
  debuggable : Option (List UInt8) := none
  /-- The host keeps a view of the image that a unit can bind itself to. -/
  hasBinding : Bool := true
  deriving DecidableEq, Repr, Inhabited

def Image.validate (image : Image) : Except Fault Unit :=
  if image.valid then .ok ()
  else .error (.imageValidation (image.name ++ " is not an executable image"))

/-- The static initializer of a container. -/
inductive Initializer
  | absent
  /-- Brings the unit's dependencies to the highest level. -/
  | dependencies
  | client
  deriving DecidableEq, Repr, Inhabited

/-- The code produced from a unit's image. -/
structure Container where
  name : String
  precompiled : Bool := false
  failAt : Option Level := none
  initializer : Initializer := .absent
  deriving DecidableEq, Repr, Inhabited

namespace Container

/-- A container that is to fail at its eager fixups has some. -/
def hasPrecompiledFixups (container : Container) : Bool :=
  container.precompiled || container.failAt == some .eagerFixups

def workFault? (container : Container) (level : Level) : Option Fault :=
  if container.failAt = some level then
    some (.step level ("injected failure in " ++ container.name))
  else none

end Container

/-- How often a container did each piece of its work. -/
structure Work where
  eagerFixups : Nat := 0
  vtableFixups : Nat := 0
  exceptionPlans : Nat := 0
  expansions : Nat := 0
  registrations : Nat := 0
  deriving DecidableEq, Repr, Inhabited

end LoadLadder
