import LoadLadder.Crew.Contest

/-!
# Rings

A ring of units in which the initializer of each needs the next one active, each driven by a thread
of its own.  The initializers wait for one another, so that all are running before the first of them
asks for its peer.  The first initializer asks last, when every other thread waits in a chain that
leads back to it; it must not wait, and finds its peer loaded but not active.
-/

namespace LoadLadder

/-- One unit of a ring. -/
structure RingUnit where
  image : Image
  container : Container
  fails : Option Fault := none
  /-- The initializer ignores how asking for its peer ended. -/
  swallows : Bool := false
  deriving Repr, Inhabited

/-- A look at the peer from within an initializer. -/
structure PeerLook where
  level : Level
  tolerant : Bool
  strict : Bool
  isError : Bool
  deriving DecidableEq, Repr

/-- What an initializer saw. -/
structure Sighting where
  before : PeerLook
  ensured : Except Fault Unit
  after : PeerLook
  selfActivated : Bool
  deriving Repr

/-- How far an initializer has come. -/
inductive RingStage
  | outside
  | entered
  | looked (before : PeerLook)
  | asked (before : PeerLook)
  | ended (sighting : Sighting)
  deriving Repr, Inhabited

namespace RingStage

def hasEntered : RingStage → Bool
  | outside => false
  | _ => true

def hasLooked : RingStage → Bool
  | outside => false
  | entered => false
  | _ => true

def sighting? : RingStage → Option Sighting
  | ended sighting => some sighting
  | _ => none

end RingStage

/-- A crew whose units form a ring.  Thread, unit and stage of one member share a number. -/
structure Ring where
  crew : Crew
  units : List RingUnit
  stages : List RingStage
  deriving Repr

namespace Ring

def start (units : List RingUnit) : Ring :=
  let world := units.foldl (fun world unit => (world.createUnit 0 unit.image unit.container).1)
    (({} : World).addDomain .observed)
  { crew := .ensuring world 0 ((List.range units.length).map fun key => (key, .active))
    units
    stages := units.map fun _ => .outside }

def peer (ring : Ring) (me : ThreadId) : UnitKey :=
  (me + 1) % ring.units.length

def look (ring : Ring) (me : ThreadId) : PeerLook :=
  let world := ring.crew.world
  let unit := world.unit (ring.peer me)
  { level := unit.level
    tolerant := world.checkLoadLevel me 0 (ring.peer me) .active true
    strict := world.checkLoadLevel me 0 (ring.peer me) .active false
    isError := unit.isError }

def reach (ring : Ring) (me : ThreadId) (stage : RingStage) : Ring :=
  { ring with stages := ring.stages.set me stage }

def resume (ring : Ring) (me : ThreadId) (thread : Thread) : Ring :=
  { ring with crew := ring.crew.setThread me thread }

/-- The result of an initializer that asked for its peer. -/
def initializerResult (unit : RingUnit) (ensured : Except Fault Unit) : Except Fault Unit :=
  match unit.fails with
  | some fault => .error fault
  | none => if unit.swallows then .ok () else ensured

/-- A member moves on within its initializer, unless it has to wait for the others. -/
def advanceInitializer (ring : Ring) (me : ThreadId) : Ring :=
  match ring.stages.getD me .outside with
  | .outside => ring.reach me .entered
  | .entered =>
      if ring.stages.all RingStage.hasEntered then ring.reach me (.looked (ring.look me)) else ring
  | .looked before =>
      if ring.stages.all RingStage.hasLooked && (me != 0 || (ring.look me).tolerant) then
        let task := Task.ensure ring.crew.world 0 (ring.peer me) .active
        (ring.resume me ((ring.crew.thread me).call task)).reach me (.asked before)
      else ring
  | .asked _ => ring
  | .ended _ => ring

/-- A member's initializer learns how asking for its peer ended, looks again, and ends. -/
def endInitializer (ring : Ring) (me : ThreadId) (reply : Reply) : Ring :=
  match ring.stages.getD me .outside with
  | .asked before =>
      let ensured := reply.map fun _ => ()
      let sighting : Sighting := {
        before
        ensured
        after := ring.look me
        selfActivated := (ring.crew.world.unit me).checkActivated }
      let result := initializerResult (ring.units.getD me default) ensured
      (ring.resume me ((ring.crew.thread me).resume.finish result)).reach me (.ended sighting)
  | _ => ring

def act (ring : Ring) (me : ThreadId) : Ring :=
  match (ring.crew.thread me).turn with
  | .loader => { ring with crew := ring.crew.act me }
  | .callback _ => ring.advanceInitializer me
  | .answered reply => ring.endInitializer me reply

def follow (ring : Ring) (schedule : List ThreadId) : Ring :=
  schedule.foldl act ring

/-- Lets all members act in turn until all have answered, for a bounded number of rounds. -/
def advance : (rounds : Nat) → Ring → Ring
  | 0, ring => ring
  | rounds + 1, ring =>
      if ring.crew.isDone then ring else advance rounds (ring.follow ring.crew.members)

/-- Lets all members act in turn until all have answered. -/
def run (ring : Ring) : Ring :=
  ring.advance ring.crew.budget

end Ring

end LoadLadder
