import LoadLadder.Crew.Basic

/-!
# Contests

Crews in which every thread drives a unit to a target.  In a contest they all drive the same unit at
the same time, each to a target of its own.  Only one of them runs a given sub-step, and all of them
see the one failure if there is one.
-/

namespace LoadLadder

def Crew.ensuring (world : World) (through : DomainKey) (jobs : List (UnitKey × Level)) : Crew where
  world := world
  threads := jobs.map fun job => { task := .ensure world through job.1 job.2 }

/-- One unit, and the level that each thread wants it to have. -/
structure Contest where
  image : Image
  container : Container
  targets : List Level
  deriving Repr

namespace Contest

def world (contest : Contest) : World :=
  (({} : World).addDomain .observed |>.createUnit 0 contest.image contest.container).1

def start (contest : Contest) : Crew :=
  .ensuring contest.world 0 (contest.targets.map fun target => (0, target))

def play (contest : Contest) : Crew :=
  contest.start.run

end Contest

end LoadLadder
