import LoadLadder.Climb.Thread

/-!
# Steps of a thread

One step of a thread is one action on the shared world: reading or raising a level, asking for or
giving back an entry, one action of a sub-step, keeping a cause, telling one listener.  A thread has
no step when it is the client's turn.  A single-threaded run takes the steps of its only thread; a
run of many threads takes them in any order.

A latch is claimed and its consumer told in one step, a cause is kept and told of in one, and a unit
is removed, told of and unbound in one.  Another thread that acts in the middle of these is left out,
so what hangs on it is said of single-threaded runs.
-/

namespace LoadLadder

/-- The first task of driving a unit to a target through a domain. -/
def Task.ensure (world : World) (through : DomainKey) (key : UnitKey) (target : Level) : Task :=
  match world.checkDomain through key with
  | .error fault => .answer (.error fault)
  | .ok () =>
      if (world.unit key).isLoading then .drive key target .checkLevel
      else .answer (((world.unit key).throwIfError target).map fun _ => true)

/-- The first task of one sub-step through a domain.  The recorded level is left to the caller, and
so is the cause of a failure. -/
def Task.incremental (world : World) (through : DomainKey) (key : UnitKey) (level : Level) :
    Task :=
  match world.checkDomain through key with
  | .error fault => .answer (.error fault)
  | .ok () =>
      if (world.unit key).isError then .answer (.ok false)
      else if level = .created then .answer (.error (.contract (.noSubStep level)))
      else .subStep key level level.actions

namespace World

def afterRequest (key : UnitKey) (target : Level) : Verdict → Task
  | .acquired => .drive key target .recheck
  | .reentrant => .drive key target .leave
  | .wouldDeadlock => .drive key target .leave
  | .blocked => .drive key target .blocked

def stepDrive (world : World) (me : ThreadId) (key : UnitKey) (target : Level) (phase : Phase)
    (stack : List Waiting) : World × Thread :=
  let unit := world.unit key
  match phase with
  | .checkLevel =>
      let phase : Phase := if unit.level < target then .checkCause else .leave
      (world, ⟨.drive key target phase, stack⟩)
  | .checkCause =>
      let phase : Phase := if unit.isError then .leave else .acquire
      (world, ⟨.drive key target phase, stack⟩)
  | .acquire =>
      let (world, verdict) := world.requestEntry me key
      (world, ⟨afterRequest key target verdict, stack⟩)
  | .blocked =>
      let (world, verdict) := world.wakeForEntry me key
      (world, ⟨afterRequest key target verdict, stack⟩)
  | .recheck =>
      if target ≤ unit.level || unit.isError then
        (world, ⟨.drive key target (.release .stop), stack⟩)
      else
        match unit.level.next with
        | none => (world, ⟨.drive key target (.release .stop), stack⟩)
        | some next =>
            (world, ⟨.subStep key next next.actions, .onSubStep key target next :: stack⟩)
  | .raise next =>
      (world.modifyUnit key fun unit => unit.raiseLevel next,
        ⟨.drive key target (.release .again), stack⟩)
  | .fail next fault =>
      let (world, surfaced) := world.recordFailure key next fault
      (world, ⟨.drive key target (.release (.raise surfaced)), stack⟩)
  | .release exit =>
      let task : Task := match exit with
        | .again => .drive key target .checkLevel
        | .stop => .drive key target .leave
        | .raise fault => .answer (.error fault)
      (world.releaseEntry key, ⟨task, stack⟩)
  | .leave =>
      if unit.isActive then
        let (world, fresh) := world.claim key .hostLoadEvent
        if fresh then
          (world,
            ⟨.announce key target (world.unit key).snapshot (world.homeOf key).listeners, stack⟩)
        else (world, ⟨.drive key target .settle, stack⟩)
      else (world, ⟨.drive key target .settle, stack⟩)
  | .settle =>
      match unit.throwIfError target with
      | .ok () => (world, ⟨.drive key target .require, stack⟩)
      | .error fault => (world, ⟨.answer (.error fault), stack⟩)
  | .require => (world, ⟨.answer ((unit.requireLevel target.relaxed).map fun _ => true), stack⟩)

def stepSubStep (world : World) (key : UnitKey) (level : Level) (rest : List Action)
    (stack : List Waiting) : World × Thread :=
  match rest with
  | [] => (world, ⟨.answer (.ok true), stack⟩)
  | .runInitializer :: rest =>
      let unit := world.unit key
      let waiting := Waiting.onInitializer key level rest unit.gateLifted :: stack
      let lifted := world.modifyUnit key fun unit => { unit with gateLifted := true }
      match unit.container.initializer with
      | .absent => (world, ⟨.subStep key level rest, stack⟩)
      | .dependencies => (lifted, ⟨.activateDependencies key unit.dependencies, waiting⟩)
      | .client => (lifted, ⟨.callback (.initializer key), waiting⟩)
  | .reportTransition :: rest =>
      let hook := (world.homeOf key).hook
      let world :=
        if hook.records then world.emit (.transition (world.unit key).name level) else world
      if hook.client then
        (world, ⟨.callback (.hook key level), .onHook key level rest :: stack⟩)
      else (world, ⟨.subStep key level rest, stack⟩)
  | action :: rest =>
      match world.perform key action with
      | (world, none) => (world, ⟨.subStep key level rest, stack⟩)
      | (world, some fault) => (world, ⟨.answer (.error fault), stack⟩)

/-- One step of a dependency initializer.  It does not keep the dependencies, and skips one that was
destroyed. -/
def stepDependencies (world : World) (key : UnitKey) (rest : List UnitKey)
    (stack : List Waiting) : World × Thread :=
  match rest with
  | [] =>
      (world.modifyUnit key fun unit => { unit with completedRuns := unit.completedRuns + 1 },
        ⟨.answer (.ok true), stack⟩)
  | dependency :: rest =>
      if (world.unit dependency).isAlive then
        (world,
          ⟨.ensure world (world.unit key).home dependency .active,
            .onDependency key rest :: stack⟩)
      else (world, ⟨.activateDependencies key rest, stack⟩)

def stepAnnounce (world : World) (key : UnitKey) (target : Level) (snapshot : Snapshot)
    (rest : List Listener) (stack : List Waiting) : World × Thread :=
  match rest with
  | [] => (world, ⟨.drive key target .settle, stack⟩)
  | .recorder :: rest =>
      (world.emit (.unitLoaded snapshot.name), ⟨.announce key target snapshot rest, stack⟩)
  | .client number :: rest =>
      (world,
        ⟨.callback (.listener number snapshot), .onListener key target snapshot rest :: stack⟩)

def stepAnswer (world : World) (reply : Reply) (waiting : Waiting) (stack : List Waiting) :
    World × Thread :=
  match waiting with
  | .onSubStep key target next =>
      let phase : Phase := match reply with
        | .ok true => .raise next
        | .ok false => .release .stop
        | .error fault => .fail next fault
      (world, ⟨.drive key target phase, stack⟩)
  | .onInitializer key level rest gateLifted =>
      let task : Task := match reply with
        | .ok _ => .subStep key level rest
        | .error fault => .answer (.error fault)
      (world.modifyUnit key fun unit => { unit with gateLifted }, ⟨task, stack⟩)
  | .onHook key level rest => (world, ⟨.subStep key level rest, stack⟩)
  | .onDependency key rest =>
      let task : Task := match reply with
        | .ok _ => .activateDependencies key rest
        | .error fault => .answer (.error fault)
      (world, ⟨task, stack⟩)
  | .onListener key target snapshot rest =>
      (world, ⟨.announce key target snapshot rest, stack⟩)
  | .onOperation callback => (world, ⟨.callback callback, stack⟩)

/-- One step of a thread, if it is not the client's turn. -/
def step (world : World) (me : ThreadId) (thread : Thread) : Option (World × Thread) :=
  match thread.task with
  | .drive key target phase => some (world.stepDrive me key target phase thread.stack)
  | .subStep key level rest => some (world.stepSubStep key level rest thread.stack)
  | .activateDependencies key rest => some (world.stepDependencies key rest thread.stack)
  | .announce key target snapshot rest =>
      some (world.stepAnnounce key target snapshot rest thread.stack)
  | .callback _ => none
  | .answer reply =>
      match thread.stack with
      | [] => none
      | .onOperation _ :: _ => none
      | waiting :: stack => some (world.stepAnswer reply waiting stack)

end World

end LoadLadder
