import LoadLadder.Climb.Machine

/-!
# Crews

Several threads that act on one world.  Any thread may take the next step, so a run is given by a
schedule, which lists the threads in the order in which they act.  The schedule used to carry a crew
to its end lets all threads act in turn.
-/

namespace LoadLadder

/-- Threads and the world they share. -/
structure Crew where
  world : World
  threads : List Thread
  deriving Repr

namespace Crew

def thread (crew : Crew) (me : ThreadId) : Thread :=
  crew.threads.getD me {}

def setThread (crew : Crew) (me : ThreadId) (thread : Thread) : Crew :=
  { crew with threads := crew.threads.set me thread }

/-- One step of one thread; nothing happens when it is the client's turn there. -/
def act (crew : Crew) (me : ThreadId) : Crew :=
  match crew.world.step me (crew.thread me) with
  | none => crew
  | some (world, thread) => { crew with world }.setThread me thread

def follow (crew : Crew) (schedule : List ThreadId) : Crew :=
  schedule.foldl act crew

def members (crew : Crew) : List ThreadId :=
  List.range crew.threads.length

def isDone (crew : Crew) : Bool :=
  crew.threads.all Thread.isDone

/-- A number of rounds that no crew needs to answer its client. -/
def budget (crew : Crew) : Nat :=
  (crew.threads.length + 1) * crew.world.budget

/-- Lets all threads act in turn until all have answered, for a bounded number of rounds. -/
def advance : (rounds : Nat) → Crew → Crew
  | 0, crew => crew
  | rounds + 1, crew => if crew.isDone then crew else advance rounds (crew.follow crew.members)

/-- Lets all threads act in turn until all have answered. -/
def run (crew : Crew) : Crew :=
  crew.advance crew.budget

def outcomes (crew : Crew) : List (Except Fault Unit) :=
  crew.threads.map Thread.outcome

end Crew

end LoadLadder
