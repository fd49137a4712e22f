import LoadLadder.Climb.Action

/-!
# Threads

What a thread is doing, and what waits below that on its stack.  A thread either works on a task of
the loader, or it is the client's turn: inside a callback, or because the outermost operation has
answered.  Operations that call back, and operations called from callbacks, nest to any depth.
-/

namespace LoadLadder

/-- How a loading operation ends: it succeeded, it did nothing because the unit had failed before
(`false`), or it raises a fault. -/
abbrev Reply := Except Fault Bool

/-- A place where the loader runs code of the client. -/
inductive Callback
  /-- The static initializer of a unit. -/
  | initializer (unit : UnitKey)
  /-- The scheduling hook, after a sub-step of a unit. -/
  | hook (unit : UnitKey) (level : Level)
  /-- A listener that receives a unit which became active. -/
  | listener (number : Nat) (snapshot : Snapshot)
  deriving Repr

/-- How a thread leaves the entry of a unit. -/
inductive Exit
  /-- The level was completed; look for the next one. -/
  | again
  /-- There is nothing more to do. -/
  | stop
  /-- A sub-step failed. -/
  | raise (fault : Fault)
  deriving Repr

/-- The points of the loop that drives a unit to a target. -/
inductive Phase
  /-- Is the unit below its target? -/
  | checkLevel
  /-- Has the unit failed? -/
  | checkCause
  /-- Ask for the unit's entry. -/
  | acquire
  /-- Wait for the unit's entry. -/
  | blocked
  /-- With the entry in hand: is there still a level to take? -/
  | recheck
  /-- The sub-step succeeded: raise the level. -/
  | raise (next : Level)
  /-- The sub-step failed: keep the cause. -/
  | fail (next : Level) (fault : Fault)
  /-- Give the entry back. -/
  | release (exit : Exit)
  /-- The loop is over: a unit that became active is announced to the host. -/
  | leave
  /-- Raise the kept cause if it blocks the target. -/
  | settle
  /-- Insist on the relaxed target. -/
  | require
  deriving Repr

/-- What a thread is doing. -/
inductive Task
  /-- Drives a unit to a target. -/
  | drive (unit : UnitKey) (target : Level) (phase : Phase)
  /-- Carries out the remaining actions of a sub-step. -/
  | subStep (unit : UnitKey) (level : Level) (rest : List Action)
  /-- Runs a dependency initializer over the remaining dependencies. -/
  | activateDependencies (unit : UnitKey) (rest : List UnitKey)
  /-- Announces an active unit to the remaining listeners. -/
  | announce (unit : UnitKey) (target : Level) (snapshot : Snapshot) (rest : List Listener)
  /-- It is the client's turn, inside a callback. -/
  | callback (callback : Callback)
  /-- An operation or a callback has ended. -/
  | answer (reply : Reply)
  deriving Repr

/-- What waits for the task above it. -/
inductive Waiting
  /-- A drive waits for its sub-step. -/
  | onSubStep (unit : UnitKey) (target next : Level)
  /-- A sub-step waits for the static initializer; the gate is restored afterwards. -/
  | onInitializer (unit : UnitKey) (level : Level) (rest : List Action) (gateLifted : Bool)
  /-- A sub-step waits for the scheduling hook. -/
  | onHook (unit : UnitKey) (level : Level) (rest : List Action)
  /-- A dependency initializer waits for a dependency. -/
  | onDependency (unit : UnitKey) (rest : List UnitKey)
  /-- An announcement waits for a listener. -/
  | onListener (unit : UnitKey) (target : Level) (snapshot : Snapshot) (rest : List Listener)
  /-- A callback waits for an operation that it called. -/
  | onOperation (callback : Callback)
  deriving Repr

/-- A thread: a task and what waits for it, innermost first. -/
structure Thread where
  /-- A thread that was given nothing to do counts as having done it. -/
  task : Task := .answer (.ok true)
  stack : List Waiting := []
  deriving Repr

instance : Inhabited Thread := ⟨{}⟩

namespace Task

/-- The unit a task works on, if any. -/
def unit? : Task → Option UnitKey
  | drive unit _ _ => some unit
  | subStep unit _ _ => some unit
  | activateDependencies unit _ => some unit
  | announce unit _ _ _ => some unit
  | callback _ => none
  | answer _ => none

end Task

namespace Waiting

/-- The unit that something waiting works on, if any. -/
def unit? : Waiting → Option UnitKey
  | onSubStep unit _ _ => some unit
  | onInitializer unit _ _ _ => some unit
  | onHook unit _ _ => some unit
  | onDependency unit _ => some unit
  | onListener unit _ _ _ => some unit
  | onOperation _ => none

end Waiting

namespace Thread

/-- The units that the running operations of a thread hold. -/
def pinned (thread : Thread) : List UnitKey :=
  thread.task.unit?.toList ++ thread.stack.filterMap Waiting.unit?

end Thread

end LoadLadder
