import LoadLadder.Climb.Step
import LoadLadder.Climb.Turn

/-!
# Single-threaded machines

A world with the one thread that acts on it.  The machine runs by itself until it is the client's
turn, which it is inside a callback and whenever an operation that the client called has answered.
The client then calls a further operation, or ends the callback.
-/

namespace LoadLadder

def mainThread : ThreadId := 0

/-- A world and its only thread. -/
structure Machine where
  world : World
  thread : Thread := {}
  deriving Repr

namespace World

/-- A number of steps that no thread needs between two turns of the client. -/
def budget (world : World) : Nat :=
  let dependencies :=
    world.units.items.foldl (fun total unit => total + unit.dependencies.length) 0
  let listeners := world.domains.items.foldl (fun total domain => total + domain.listeners.length) 0
  let size := world.unitCount + dependencies + listeners + 1
  1000 * (size * size)

end World

namespace Machine

def step? (machine : Machine) : Option Machine :=
  (machine.world.step mainThread machine.thread).map fun (world, thread) => ⟨world, thread⟩

def advance : (bound : Nat) → Machine → Machine
  | 0, machine => machine
  | bound + 1, machine =>
      match machine.step? with
      | none => machine
      | some next => advance bound next

def run (machine : Machine) : Machine :=
  machine.advance machine.world.budget

/-- Drives a unit to a target without calling the client back, and answers how that ended.  A run
that would call the client back stops there and counts as unfinished. -/
def ensure (world : World) (through : DomainKey) (key : UnitKey) (target : Level) :
    World × Except Fault Unit :=
  let machine := run ⟨world, ⟨.ensure world through key target, []⟩⟩
  (machine.world, machine.thread.outcome)

end Machine

end LoadLadder
