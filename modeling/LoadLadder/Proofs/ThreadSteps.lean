import LoadLadder.Climb.Step
import LoadLadder.Proofs.EntryContention

/-!
# The steps of a thread, one by one

A step of a thread is computed by a case analysis over its task and, when the
task is an answer, over what waits for it.  This file lists the outcomes of that
analysis as an inductive relation, each with the tests that led to it, so that
later arguments take the cases from here and do not open the step function.
-/

namespace LoadLadder

namespace Entries

/-- A request takes the free entry, or leaves all owners as they are. -/
theorem owners_request (entries : Entries) (thread : ThreadId)
    (unit : UnitId) :
    (entries.owner? unit = none ∧
      (entries.request thread unit).1.owners =
        (unit, thread) :: entries.owners ∧
      (entries.request thread unit).2 = .acquired) ∨
    ((entries.request thread unit).1.owners = entries.owners ∧
      (entries.request thread unit).2 ≠ .acquired) := by
  rcases request_cases entries thread unit with
    ⟨free, result⟩ | ⟨-, result⟩ | ⟨-, result⟩ | ⟨-, -, result⟩
  · exact Or.inl ⟨free, by rw [result], by rw [result]⟩
  · exact Or.inr ⟨by rw [result], by simp [result]⟩
  · exact Or.inr ⟨by rw [result], by simp [result]⟩
  · exact Or.inr ⟨by rw [result], by simp [result]⟩

theorem owners_wake (entries : Entries) (thread : ThreadId) (unit : UnitId) :
    (entries.owner? unit = none ∧
      (entries.wake thread unit).1.owners = (unit, thread) :: entries.owners ∧
      (entries.wake thread unit).2 = .acquired) ∨
    ((entries.wake thread unit).1.owners = entries.owners ∧
      (entries.wake thread unit).2 ≠ .acquired) :=
  owners_request (entries.stopWaiting thread) thread unit

end Entries

/-- What the entries answer a thread that asks for a unit's entry, for the first
time or woken while it waits. -/
def Phase.asked (entries : Entries) (thread : ThreadId) (unit : UnitId) :
    Phase → Option (Entries × Verdict)
  | .acquire => some (entries.request thread unit)
  | .blocked => some (entries.wake thread unit)
  | _ => none

namespace World

/-- What one step makes of a thread and of the world, with the tests that led
there. -/
inductive Stepped (world : World) (me : ThreadId) :
    Thread → World → Thread → Prop
  | below {key : UnitKey} {target : Level} {stack : List Waiting}
      (short : (world.unit key).level < target) :
      Stepped world me ⟨.drive key target .checkLevel, stack⟩ world
        ⟨.drive key target .checkCause, stack⟩
  | arrived {key : UnitKey} {target : Level} {stack : List Waiting}
      (high : ¬ (world.unit key).level < target) :
      Stepped world me ⟨.drive key target .checkLevel, stack⟩ world
        ⟨.drive key target .leave, stack⟩
  | barred {key : UnitKey} {target : Level} {stack : List Waiting}
      (failed : (world.unit key).isError = true) :
      Stepped world me ⟨.drive key target .checkCause, stack⟩ world
        ⟨.drive key target .leave, stack⟩
  | admitted {key : UnitKey} {target : Level} {stack : List Waiting}
      (healthy : (world.unit key).isError = false) :
      Stepped world me ⟨.drive key target .checkCause, stack⟩ world
        ⟨.drive key target .acquire, stack⟩
  | entered {key : UnitKey} {target : Level} {phase : Phase}
      {entries : Entries} {stack : List Waiting}
      (asks : phase = .acquire ∨ phase = .blocked)
      (free : (world.homeOf key).entries.owner? (world.unit key).id = none)
      (taken : entries.owners =
        ((world.unit key).id, me) :: (world.homeOf key).entries.owners)
      (asked : phase.asked (world.homeOf key).entries me (world.unit key).id =
        some (entries, .acquired)) :
      Stepped world me ⟨.drive key target phase, stack⟩
        (world.modifyEntries key fun _ => entries)
        ⟨.drive key target .recheck, stack⟩
  | refused {key : UnitKey} {target : Level} {phase next : Phase}
      {entries : Entries} {stack : List Waiting}
      (asks : phase = .acquire ∨ phase = .blocked)
      (kept : entries.owners = (world.homeOf key).entries.owners)
      (goes : next = .leave ∨ next = .blocked)
      (asked : ∃ verdict,
        phase.asked (world.homeOf key).entries me (world.unit key).id =
          some (entries, verdict) ∧
        afterRequest key target verdict = .drive key target next) :
      Stepped world me ⟨.drive key target phase, stack⟩
        (world.modifyEntries key fun _ => entries)
        ⟨.drive key target next, stack⟩
  | overtaken {key : UnitKey} {target : Level} {stack : List Waiting}
      (past : target ≤ (world.unit key).level ∨
        (world.unit key).isError = true ∨ (world.unit key).level.next = none) :
      Stepped world me ⟨.drive key target .recheck, stack⟩ world
        ⟨.drive key target (.release .stop), stack⟩
  | climbs {key : UnitKey} {target next : Level} {stack : List Waiting}
      (short : ¬ target ≤ (world.unit key).level)
      (healthy : (world.unit key).isError = false)
      (above : (world.unit key).level.next = some next) :
      Stepped world me ⟨.drive key target .recheck, stack⟩ world
        ⟨.subStep key next next.actions, .onSubStep key target next :: stack⟩
  | raised {key : UnitKey} {target next : Level} {stack : List Waiting} :
      Stepped world me ⟨.drive key target (.raise next), stack⟩
        (world.modifyUnit key fun unit => unit.raiseLevel next)
        ⟨.drive key target (.release .again), stack⟩
  | failed {key : UnitKey} {target next : Level} {fault : Fault}
      {stack : List Waiting} :
      Stepped world me ⟨.drive key target (.fail next fault), stack⟩
        (world.recordFailure key next fault).1
        ⟨.drive key target
          (.release (.raise (world.recordFailure key next fault).2)), stack⟩
  | releasedAgain {key : UnitKey} {target : Level} {stack : List Waiting} :
      Stepped world me ⟨.drive key target (.release .again), stack⟩
        (world.releaseEntry key) ⟨.drive key target .checkLevel, stack⟩
  | releasedStop {key : UnitKey} {target : Level} {stack : List Waiting} :
      Stepped world me ⟨.drive key target (.release .stop), stack⟩
        (world.releaseEntry key) ⟨.drive key target .leave, stack⟩
  | releasedRaise {key : UnitKey} {target : Level} {fault : Fault}
      {stack : List Waiting} :
      Stepped world me ⟨.drive key target (.release (.raise fault)), stack⟩
        (world.releaseEntry key) ⟨.answer (.error fault), stack⟩
  | announces {key : UnitKey} {target : Level} {stack : List Waiting}
      (active : (world.unit key).isActive = true)
      (untold : (world.unit key).latches.isSet .hostLoadEvent = false) :
      Stepped world me ⟨.drive key target .leave, stack⟩
        (world.claim key .hostLoadEvent).1
        ⟨.announce key target
          ((world.claim key .hostLoadEvent).1.unit key).snapshot
          ((world.claim key .hostLoadEvent).1.homeOf key).listeners, stack⟩
  | announcedBefore {key : UnitKey} {target : Level} {stack : List Waiting}
      (active : (world.unit key).isActive = true)
      (told : (world.unit key).latches.isSet .hostLoadEvent = true) :
      Stepped world me ⟨.drive key target .leave, stack⟩
        (world.claim key .hostLoadEvent).1 ⟨.drive key target .settle, stack⟩
  | leaves {key : UnitKey} {target : Level} {stack : List Waiting}
      (inactive : (world.unit key).isActive = false) :
      Stepped world me ⟨.drive key target .leave, stack⟩ world
        ⟨.drive key target .settle, stack⟩
  | settled {key : UnitKey} {target : Level} {stack : List Waiting}
      (clear : (world.unit key).throwIfError target = .ok ()) :
      Stepped world me ⟨.drive key target .settle, stack⟩ world
        ⟨.drive key target .require, stack⟩
  | blames {key : UnitKey} {target : Level} {fault : Fault}
      {stack : List Waiting}
      (blocks : (world.unit key).throwIfError target = .error fault) :
      Stepped world me ⟨.drive key target .settle, stack⟩ world
        ⟨.answer (.error fault), stack⟩
  | required {key : UnitKey} {target : Level} {stack : List Waiting} :
      Stepped world me ⟨.drive key target .require, stack⟩ world
        ⟨.answer (((world.unit key).requireLevel target.relaxed).map
          fun _ => true), stack⟩
  | completed {key : UnitKey} {level : Level} {stack : List Waiting} :
      Stepped world me ⟨.subStep key level [], stack⟩ world
        ⟨.answer (.ok true), stack⟩
  | performed {key : UnitKey} {level : Level} {action : Action}
      {rest : List Action} {next : World} {stack : List Waiting}
      (ordinary : action ≠ .reportTransition)
      (done : world.perform key action = (next, none))
      (absent : action = .runInitializer →
        (world.unit key).container.initializer = .absent) :
      Stepped world me ⟨.subStep key level (action :: rest), stack⟩ next
        ⟨.subStep key level rest, stack⟩
  | faulted {key : UnitKey} {level : Level} {action : Action}
      {rest : List Action} {next : World} {fault : Fault}
      {stack : List Waiting}
      (done : world.perform key action = (next, some fault)) :
      Stepped world me ⟨.subStep key level (action :: rest), stack⟩ next
        ⟨.answer (.error fault), stack⟩
  | initializes {key : UnitKey} {level : Level} {rest : List Action}
      {task : Task} {stack : List Waiting}
      (runs : ((world.unit key).container.initializer = .dependencies ∧
          task = .activateDependencies key (world.unit key).dependencies) ∨
        ((world.unit key).container.initializer = .client ∧
          task = .callback (.initializer key))) :
      Stepped world me ⟨.subStep key level (.runInitializer :: rest), stack⟩
        (world.modifyUnit key fun unit => { unit with gateLifted := true })
        ⟨task, .onInitializer key level rest (world.unit key).gateLifted ::
          stack⟩
  | reported {key : UnitKey} {level : Level} {rest : List Action}
      {next : Thread} {stack : List Waiting}
      (goes : ((world.homeOf key).hook.client = false ∧
          next = ⟨.subStep key level rest, stack⟩) ∨
        ((world.homeOf key).hook.client = true ∧
          next = ⟨.callback (.hook key level),
            .onHook key level rest :: stack⟩)) :
      Stepped world me ⟨.subStep key level (.reportTransition :: rest), stack⟩
        (if (world.homeOf key).hook.records then
          world.emit (.transition (world.unit key).name level) else world)
        next
  | allActivated {key : UnitKey} {stack : List Waiting} :
      Stepped world me ⟨.activateDependencies key [], stack⟩
        (world.modifyUnit key fun unit =>
          { unit with completedRuns := unit.completedRuns + 1 })
        ⟨.answer (.ok true), stack⟩
  | activates {key dependency : UnitKey} {rest : List UnitKey}
      {stack : List Waiting}
      (alive : (world.unit dependency).isAlive = true) :
      Stepped world me ⟨.activateDependencies key (dependency :: rest), stack⟩
        world
        ⟨.ensure world (world.unit key).home dependency .active,
          .onDependency key rest :: stack⟩
  | skips {key dependency : UnitKey} {rest : List UnitKey}
      {stack : List Waiting}
      (destroyed : (world.unit dependency).isAlive = false) :
      Stepped world me ⟨.activateDependencies key (dependency :: rest), stack⟩
        world ⟨.activateDependencies key rest, stack⟩
  | allTold {key : UnitKey} {target : Level} {snapshot : Snapshot}
      {stack : List Waiting} :
      Stepped world me ⟨.announce key target snapshot [], stack⟩ world
        ⟨.drive key target .settle, stack⟩
  | tellsRecorder {key : UnitKey} {target : Level} {snapshot : Snapshot}
      {rest : List Listener} {stack : List Waiting} :
      Stepped world me ⟨.announce key target snapshot (.recorder :: rest), stack⟩
        (world.emit (.unitLoaded snapshot.name))
        ⟨.announce key target snapshot rest, stack⟩
  | tellsClient {key : UnitKey} {target : Level} {snapshot : Snapshot}
      {number : Nat} {rest : List Listener} {stack : List Waiting} :
      Stepped world me
        ⟨.announce key target snapshot (.client number :: rest), stack⟩ world
        ⟨.callback (.listener number snapshot),
          .onListener key target snapshot rest :: stack⟩
  | succeeded {key : UnitKey} {target next : Level} {stack : List Waiting} :
      Stepped world me ⟨.answer (.ok true), .onSubStep key target next :: stack⟩
        world ⟨.drive key target (.raise next), stack⟩
  | abandoned {key : UnitKey} {target next : Level} {stack : List Waiting} :
      Stepped world me ⟨.answer (.ok false), .onSubStep key target next :: stack⟩
        world ⟨.drive key target (.release .stop), stack⟩
  | broke {key : UnitKey} {target next : Level} {fault : Fault}
      {stack : List Waiting} :
      Stepped world me
        ⟨.answer (.error fault), .onSubStep key target next :: stack⟩ world
        ⟨.drive key target (.fail next fault), stack⟩
  | initialized {key : UnitKey} {level : Level} {rest : List Action}
      {gateLifted answer : Bool} {stack : List Waiting} :
      Stepped world me
        ⟨.answer (.ok answer), .onInitializer key level rest gateLifted :: stack⟩
        (world.modifyUnit key fun unit => { unit with gateLifted })
        ⟨.subStep key level rest, stack⟩
  | uninitialized {key : UnitKey} {level : Level} {rest : List Action}
      {gateLifted : Bool} {fault : Fault} {stack : List Waiting} :
      Stepped world me
        ⟨.answer (.error fault),
          .onInitializer key level rest gateLifted :: stack⟩
        (world.modifyUnit key fun unit => { unit with gateLifted })
        ⟨.answer (.error fault), stack⟩
  | hooked {key : UnitKey} {level : Level} {rest : List Action} {reply : Reply}
      {stack : List Waiting} :
      Stepped world me ⟨.answer reply, .onHook key level rest :: stack⟩ world
        ⟨.subStep key level rest, stack⟩
  | activated {key : UnitKey} {rest : List UnitKey} {answer : Bool}
      {stack : List Waiting} :
      Stepped world me ⟨.answer (.ok answer), .onDependency key rest :: stack⟩
        world ⟨.activateDependencies key rest, stack⟩
  | unactivated {key : UnitKey} {rest : List UnitKey} {fault : Fault}
      {stack : List Waiting} :
      Stepped world me ⟨.answer (.error fault), .onDependency key rest :: stack⟩
        world ⟨.answer (.error fault), stack⟩
  | listened {key : UnitKey} {target : Level} {snapshot : Snapshot}
      {rest : List Listener} {reply : Reply} {stack : List Waiting} :
      Stepped world me
        ⟨.answer reply, .onListener key target snapshot rest :: stack⟩ world
        ⟨.announce key target snapshot rest, stack⟩

/-- A thread that asks for an entry and does not get it waits or leaves. -/
theorem stepped_of_verdict {world : World} {me : ThreadId} {key : UnitKey}
    {target : Level} {phase : Phase} {entries : Entries} {verdict : Verdict}
    (stack : List Waiting) (asks : phase = .acquire ∨ phase = .blocked)
    (asked : phase.asked (world.homeOf key).entries me (world.unit key).id =
      some (entries, verdict))
    (kept : entries.owners = (world.homeOf key).entries.owners)
    (denied : verdict ≠ .acquired) :
    world.Stepped me ⟨.drive key target phase, stack⟩
      (world.modifyEntries key fun _ => entries)
      ⟨afterRequest key target verdict, stack⟩ := by
  cases verdict with
  | acquired => exact absurd rfl denied
  | reentrant | wouldDeadlock =>
      exact .refused asks kept (Or.inl rfl) ⟨_, asked, rfl⟩
  | blocked => exact .refused asks kept (Or.inr rfl) ⟨_, asked, rfl⟩

theorem stepped_of_stepDrive (world : World) (me : ThreadId) (key : UnitKey)
    (target : Level) (phase : Phase) (stack : List Waiting) :
    world.Stepped me ⟨.drive key target phase, stack⟩
      (world.stepDrive me key target phase stack).1
      (world.stepDrive me key target phase stack).2 := by
  cases phase with
  | checkLevel =>
      by_cases short : (world.unit key).level < target
      · simpa [stepDrive, short] using Stepped.below short
      · simpa [stepDrive, short] using Stepped.arrived short
  | checkCause =>
      cases failed : (world.unit key).isError with
      | true => simpa [stepDrive, failed] using Stepped.barred failed
      | false => simpa [stepDrive, failed] using Stepped.admitted failed
  | acquire =>
      rcases Entries.owners_request (world.homeOf key).entries me
          (world.unit key).id with ⟨free, taken, verdict⟩ | ⟨kept, verdict⟩
      · have asked : Phase.acquire.asked (world.homeOf key).entries me
            (world.unit key).id = some (_, .acquired) :=
          congrArg some (Prod.ext rfl verdict)
        simpa [stepDrive, requestEntry, verdict, afterRequest] using
          Stepped.entered (Or.inl rfl) free taken asked
      · exact stepped_of_verdict stack (Or.inl rfl) rfl kept verdict
  | blocked =>
      rcases Entries.owners_wake (world.homeOf key).entries me
          (world.unit key).id with ⟨free, taken, verdict⟩ | ⟨kept, verdict⟩
      · have asked : Phase.blocked.asked (world.homeOf key).entries me
            (world.unit key).id = some (_, .acquired) :=
          congrArg some (Prod.ext rfl verdict)
        simpa [stepDrive, wakeForEntry, verdict, afterRequest] using
          Stepped.entered (Or.inr rfl) free taken asked
      · exact stepped_of_verdict stack (Or.inr rfl) rfl kept verdict
  | recheck =>
      by_cases short : target ≤ (world.unit key).level
      · simpa [stepDrive, short] using Stepped.overtaken (Or.inl short)
      · cases failed : (world.unit key).isError with
        | true => simpa [stepDrive, failed] using
            Stepped.overtaken (Or.inr (Or.inl failed))
        | false =>
            cases above : (world.unit key).level.next with
            | none => simpa [stepDrive, short, failed, above] using
                Stepped.overtaken (Or.inr (Or.inr above))
            | some next => simpa [stepDrive, short, failed, above] using
                Stepped.climbs short failed above
  | raise next => exact Stepped.raised
  | fail next fault => exact Stepped.failed
  | release exit =>
      cases exit with
      | again => exact Stepped.releasedAgain
      | stop => exact Stepped.releasedStop
      | raise fault => exact Stepped.releasedRaise
  | leave =>
      cases active : (world.unit key).isActive with
      | false => simpa [stepDrive, active] using Stepped.leaves active
      | true =>
          cases told : (world.unit key).latches.isSet .hostLoadEvent with
          | false =>
              have fresh : (world.claim key .hostLoadEvent).2 = true := by
                simp [claim, told]
              simpa [stepDrive, active, fresh] using
                Stepped.announces active told
          | true =>
              have stale : (world.claim key .hostLoadEvent).2 = false := by
                simp [claim, told]
              simpa [stepDrive, active, stale] using
                Stepped.announcedBefore active told
  | settle =>
      cases blocked : (world.unit key).throwIfError target with
      | ok => simpa [stepDrive, blocked] using Stepped.settled blocked
      | error fault => simpa [stepDrive, blocked] using Stepped.blames blocked
  | require => exact Stepped.required

theorem stepped_of_stepSubStep (world : World) (me : ThreadId) (key : UnitKey)
    (level : Level) (rest : List Action) (stack : List Waiting) :
    world.Stepped me ⟨.subStep key level rest, stack⟩
      (world.stepSubStep key level rest stack).1
      (world.stepSubStep key level rest stack).2 := by
  cases rest with
  | nil => exact Stepped.completed
  | cons action rest =>
      by_cases initializing : action = .runInitializer
      · subst initializing
        cases initializer : (world.unit key).container.initializer with
        | absent => simpa [stepSubStep, initializer] using
            Stepped.performed (by simp) rfl fun _ => initializer
        | dependencies => simpa [stepSubStep, initializer] using
            Stepped.initializes (Or.inl ⟨initializer, rfl⟩)
        | client => simpa [stepSubStep, initializer] using
            Stepped.initializes (Or.inr ⟨initializer, rfl⟩)
      by_cases reporting : action = .reportTransition
      · subst reporting
        cases client : (world.homeOf key).hook.client with
        | false => simpa [stepSubStep, client] using
            Stepped.reported (Or.inl ⟨client, rfl⟩)
        | true => simpa [stepSubStep, client] using
            Stepped.reported (Or.inr ⟨client, rfl⟩)
      rcases done : world.perform key action with ⟨next, none | fault⟩
      · have stepped : world.stepSubStep key level (action :: rest) stack =
            (next, ⟨.subStep key level rest, stack⟩) := by
          cases action <;> simp_all [stepSubStep]
        rw [stepped]
        exact Stepped.performed reporting done
          fun initializes => absurd initializes initializing
      · have stepped : world.stepSubStep key level (action :: rest) stack =
            (next, ⟨.answer (.error fault), stack⟩) := by
          cases action <;> simp_all [stepSubStep]
        rw [stepped]
        exact Stepped.faulted done

theorem stepped_of_stepAnswer (world : World) (me : ThreadId) (reply : Reply)
    (waiting : Waiting) (stack : List Waiting)
    (ready : ∀ callback, waiting ≠ .onOperation callback) :
    world.Stepped me ⟨.answer reply, waiting :: stack⟩
      (world.stepAnswer reply waiting stack).1
      (world.stepAnswer reply waiting stack).2 := by
  cases waiting with
  | onSubStep key target next =>
      match reply with
      | .ok true => exact Stepped.succeeded
      | .ok false => exact Stepped.abandoned
      | .error fault => exact Stepped.broke
  | onInitializer key level rest gateLifted =>
      cases reply with
      | ok answer => exact Stepped.initialized
      | error fault => exact Stepped.uninitialized
  | onHook key level rest => exact Stepped.hooked
  | onDependency key rest =>
      cases reply with
      | ok answer => exact Stepped.activated
      | error fault => exact Stepped.unactivated
  | onListener key target snapshot rest => exact Stepped.listened
  | onOperation callback => exact absurd rfl (ready callback)

theorem stepped_of_step {world next : World} {me : ThreadId}
    {thread after : Thread}
    (step : world.step me thread = some (next, after)) :
    world.Stepped me thread next after := by
  obtain ⟨task, stack⟩ := thread
  cases task with
  | drive key target phase =>
      have stepped := stepped_of_stepDrive world me key target phase stack
      rwa [Option.some.inj step] at stepped
  | subStep key level rest =>
      have stepped := stepped_of_stepSubStep world me key level rest stack
      rwa [Option.some.inj step] at stepped
  | activateDependencies key rest =>
      cases rest with
      | nil =>
          cases Option.some.inj step
          exact Stepped.allActivated
      | cons dependency rest =>
          have stepped := Option.some.inj step
          simp only [stepDependencies] at stepped
          split at stepped <;> cases stepped
          · exact Stepped.activates ‹_›
          · rename_i destroyed
            exact Stepped.skips (Bool.eq_false_iff.mpr destroyed)
  | announce key target snapshot rest =>
      match rest with
      | [] =>
          cases Option.some.inj step
          exact Stepped.allTold
      | .recorder :: rest =>
          cases Option.some.inj step
          exact Stepped.tellsRecorder
      | .client number :: rest =>
          cases Option.some.inj step
          exact Stepped.tellsClient
  | callback callback => simp [World.step] at step
  | answer reply =>
      cases stack with
      | nil => simp [World.step] at step
      | cons waiting stack =>
          have ready : ∀ callback, waiting ≠ .onOperation callback := by
            rintro callback rfl
            simp [World.step] at step
          have stepped :=
            stepped_of_stepAnswer world me reply waiting stack ready
          have result : some (world.stepAnswer reply waiting stack) =
              some (next, after) := by
            rw [← step]
            cases waiting <;> simp_all [World.step]
          rwa [Option.some.inj result] at stepped

/-- It is the client's turn inside a callback, and when an operation that the
client asked for has answered. -/
theorem turn_cases {world : World} {me : ThreadId} {thread : Thread}
    (turn : world.step me thread = none) :
    (∃ callback stack, thread = ⟨.callback callback, stack⟩) ∨
    (∃ reply, thread = ⟨.answer reply, []⟩) ∨
    (∃ reply callback stack,
      thread = ⟨.answer reply, .onOperation callback :: stack⟩) := by
  obtain ⟨task, stack⟩ := thread
  cases task with
  | callback callback => exact Or.inl ⟨callback, stack, rfl⟩
  | answer reply =>
      cases stack with
      | nil => exact Or.inr (Or.inl ⟨reply, rfl⟩)
      | cons waiting stack =>
          cases waiting with
          | onOperation callback =>
              exact Or.inr (Or.inr ⟨reply, callback, stack, rfl⟩)
          | _ => simp [World.step] at turn
  | _ => simp [World.step] at turn

end World

end LoadLadder
