import LoadLadder.Proofs.StoredCause

/-!
# A stored cause is replayed

Once a unit has failed and nobody drives it any more, coming back to it changes
nothing: whoever asks for it learns of the same cause, or of success if the unit
had reached the level asked for before it failed.  Loads of other units may go on
meanwhile, call the client back, and come back to the unit from there.

A sub-step of the unit that the client asked for without a driver may be waiting
for a callback at that moment.  It is not resumed as long as the client stays in
that callback, and what follows concerns that time.
-/

namespace LoadLadder

/-- The unit that a deed is done to. -/
def Deed.unit : Deed → UnitKey
  | .told unit _ => unit
  | .relayed unit _ => unit
  | .completed unit _ => unit
  | .bypassed unit => unit

/-- A unit that has neither climbed, failed, told anybody nor worked
meanwhile. -/
structure LoadUnit.Untouched (before after : LoadUnit) : Prop where
  home : after.home = before.home
  level : after.level = before.level
  failure : after.failure = before.failure
  latches : after.latches = before.latches
  work : after.work = before.work

namespace LoadUnit.Untouched

variable {first second third : LoadUnit}

theorem refl (unit : LoadUnit) : unit.Untouched unit :=
  ⟨rfl, rfl, rfl, rfl, rfl⟩

theorem trans (before : first.Untouched second)
    (after : second.Untouched third) : first.Untouched third where
  home := after.home.trans before.home
  level := after.level.trans before.level
  failure := after.failure.trans before.failure
  latches := after.latches.trans before.latches
  work := after.work.trans before.work

end LoadUnit.Untouched

theorem LoadUnit.untouched_unbindHost (unit : LoadUnit) :
    unit.Untouched unit.unbindHost := by
  unfold unbindHost
  split
  · exact ⟨rfl, rfl, rfl, rfl, rfl⟩
  · exact .refl unit

theorem LoadUnit.untouched_debuggingConfig (unit : LoadUnit) :
    unit.Untouched unit.debuggingConfig.1 := by
  unfold debuggingConfig
  split
  · exact .refl unit
  · split
    · exact ⟨rfl, rfl, rfl, rfl, rfl⟩
    · exact .refl unit

/-- A client that claims no latch of a unit itself, has neither the unit's
container nor the debugger speak about it, and unloads nothing. -/
def Repertoire.sparing (key : UnitKey) : Repertoire := fun _ operation =>
  match operation with
  | .unload .. => False
  | .latch unit _ => unit ≠ key
  | .container unit _ => unit ≠ key
  | .debuggerLoad unit _ _ => unit ≠ key
  | .debuggerUnload unit => unit ≠ key
  | _ => True

namespace World

variable {world next : World} {me : ThreadId} {thread after : Thread}
  {deeds : List Deed} {key : UnitKey}

theorem untouched_of_eq (same : next.unit key = world.unit key) :
    (world.unit key).Untouched (next.unit key) := by
  rw [same]
  exact .refl _

theorem untouched_modifyUnit (other : UnitKey) {change : LoadUnit → LoadUnit}
    (untouched : (world.unit other).Untouched (change (world.unit other))) :
    (world.unit key).Untouched ((world.modifyUnit other change).unit key) := by
  rw [unit_modifyUnit]
  split
  · rename_i same
    rw [← same]
    exact untouched
  · exact .refl _

/-- A failed unit takes no second cause. -/
theorem untouched_setError (failed : (world.unit key).isError = true)
    (other : UnitKey) (cause : Cause) :
    (world.unit key).Untouched ((world.setError other cause).1.unit key) := by
  apply untouched_of_eq
  rw [unit_setError, if_neg]
  rintro ⟨rfl, healthy⟩
  rw [failed] at healthy
  contradiction

theorem unit_notifyDebuggerLoad_of_ne (world : World) {other : UnitKey}
    (apart : other ≠ key) (flags : AttachFlags) (attaching : Bool) :
    (world.notifyDebuggerLoad other flags attaching).1.unit key =
      world.unit key := by
  simp only [notifyDebuggerLoad]
  split
  · rfl
  split
  · rfl
  split
  · rfl
  split <;> split <;>
    simp [unit_containerDebuggerLoad, unit_claim, sendUnitLoad, debuggingConfig,
      apart]

theorem unit_notifyDebuggerUnload (world : World) (other : UnitKey) :
    (world.notifyDebuggerUnload other).unit key = world.unit key := by
  unfold notifyDebuggerUnload containerDebuggerUnload
  split <;> simp [*]

theorem unit_callContainer_of_ne (world : World) {other : UnitKey}
    (apart : other ≠ key) (call : ContainerCall) :
    (world.callContainer other call).1.unit key = world.unit key := by
  cases call with
  | debuggerLoad flags => exact unit_containerDebuggerLoad world other key flags
  | debuggerUnload =>
      simp only [callContainer, containerDebuggerUnload]
      split <;> rfl
  | _ =>
      simp [callContainer, applyEagerFixups, patchVtables, resolvePlan,
        expandTypes, registerCode, doWork, countWork, apart]

theorem untouched_of_survives {unit later : LoadUnit}
    (survives : unit.Survives later) : unit.Untouched later := by
  cases survives with
  | spared => exact .refl unit
  | destroyed =>
      exact unit.untouched_unbindHost.trans ⟨rfl, rfl, rfl, rfl, rfl⟩

theorem untouched_collect (world : World) (pinned : List UnitKey)
    (key : UnitKey) :
    (world.unit key).Untouched ((world.collect pinned).unit key) :=
  untouched_of_survives (survives_collect world key pinned)

/-- A step of a thread that neither carries out a sub-step of a failed unit nor
announces it as active. -/
theorem untouched_stepped (stepped : world.Stepped me thread next after)
    (failed : (world.unit key).isError = true)
    (landed : thread.task.inFlight key = [])
    (unannounced : ∀ target, thread.task = .drive key target .leave →
      (world.unit key).isActive = false) :
    (world.unit key).Untouched (next.unit key) := by
  cases stepped with
  | entered | refused | releasedAgain | releasedStop | releasedRaise =>
      exact .refl _
  | @raised other target level stack =>
      have apart : other ≠ key := by simpa [Task.inFlight] using landed
      apply untouched_of_eq
      rw [unit_modifyUnit, if_neg apart]
  | failed =>
      rw [recordFailure_fst]
      exact untouched_setError failed _ _
  | @announces other target stack active | @announcedBefore other target stack active =>
      have apart : other ≠ key := by
        rintro rfl
        rw [unannounced target rfl] at active
        contradiction
      apply untouched_of_eq
      rw [unit_claim, if_neg apart]
  | @performed other level action rest next stack ordinary done =>
      have apart : other ≠ key := by simpa [Task.inFlight] using landed
      have kept : (world.perform other action).1.unit key = world.unit key :=
        unit_perform_of_ne world other key apart
      rw [done] at kept
      exact untouched_of_eq kept
  | @faulted other level action rest next fault stack done =>
      have apart : other ≠ key := by simpa [Task.inFlight] using landed
      have kept : (world.perform other action).1.unit key = world.unit key :=
        unit_perform_of_ne world other key apart
      rw [done] at kept
      exact untouched_of_eq kept
  | initializes | initialized | uninitialized | allActivated =>
      exact untouched_modifyUnit _ ⟨rfl, rfl, rfl, rfl, rfl⟩
  | reported =>
      apply untouched_of_eq
      split <;> rfl
  | _ => exact .refl _

theorem untouched_complete (known : key < world.unitCount)
    (failed : (world.unit key).isError = true) {operation : Operation}
    (allowed : Repertoire.sparing key world operation) :
    (world.unit key).Untouched
      ((operation.complete world me).1.unit key) := by
  cases operation with
  | create home image container =>
      apply untouched_of_eq
      rw [complete_create, unit_createUnit, if_neg (Nat.ne_of_gt known)]
  | addDependency unit dependency =>
      simp only [Operation.complete, addDependency]
      split
      · exact untouched_modifyUnit _ ⟨rfl, rfl, rfl, rfl, rfl⟩
      · exact .refl _
  | setError unit cause =>
      rw [complete_setError]
      exact untouched_setError failed unit cause
  | unload => exact False.elim allowed
  | debugging unit =>
      rw [complete_debugging]
      exact untouched_modifyUnit unit (LoadUnit.untouched_debuggingConfig _)
  | debuggerLoad unit flags attaching =>
      exact untouched_of_eq
        (unit_notifyDebuggerLoad_of_ne world allowed flags attaching)
  | debuggerUnload unit =>
      exact untouched_of_eq (unit_notifyDebuggerUnload world unit)
  | latch unit kind =>
      apply untouched_of_eq
      exact (unit_claim world unit key kind).trans (if_neg allowed)
  | container unit call =>
      exact untouched_of_eq (unit_callContainer_of_ne world allowed call)
  | dropUnit unit =>
      simp only [Operation.complete, dropUnit]
      split
      · exact untouched_modifyUnit _ ⟨rfl, rfl, rfl, rfl, rfl⟩
      · exact .refl _
  | dropDomain home =>
      simp only [Operation.complete, dropDomain]
      split <;> exact .refl _
  | _ => exact .refl _

theorem untouched_act
    (act : world.Act (.sparing key) me thread deeds next after)
    (known : key < world.unitCount)
    (failed : (world.unit key).isError = true)
    (landed : thread.task.inFlight key = [])
    (unannounced : ∀ target, thread.task = .drive key target .leave →
      (world.unit key).isActive = false) :
    (world.unit key).Untouched (next.unit key) := by
  cases act with
  | step step =>
      exact untouched_stepped (stepped_of_step step) failed landed unannounced
  | operate operation turn asked =>
      exact untouched_complete known failed asked
  | call | resume | finish => exact .refl _

theorem unit_of_actionDeeds {other : UnitKey} {level : Level}
    {stack : List Waiting} {action : Action} {deed : Deed}
    (done : deed ∈ world.actionDeeds other level stack action) :
    deed.unit = other := by
  unfold actionDeeds at done
  split at done
  · split at done
    · rw [List.mem_singleton.mp done]
      rfl
    · simp at done
  · obtain ⟨notice, -, rfl⟩ := List.mem_map.mp done
    rfl

theorem unit_of_causeDeeds (failed : (world.unit key).isError = true)
    {other : UnitKey} {cause : Cause} {deed : Deed}
    (done : deed ∈ (world.causeNotices other cause).map (Deed.told other)) :
    deed.unit ≠ key := by
  obtain ⟨notice, said, rfl⟩ := List.mem_map.mp done
  intro same
  change other = key at same
  rw [same, causeNotices_of_failed failed] at said
  contradiction

theorem unit_of_deeds (failed : (world.unit key).isError = true)
    (landed : thread.task.inFlight key = [])
    (quiet : thread.task.announcing key = []) {deed : Deed}
    (done : deed ∈ world.deeds thread) : deed.unit ≠ key := by
  obtain ⟨task, stack⟩ := thread
  simp only [deeds] at done
  split at done
  · exact unit_of_causeDeeds failed done
  · have apart := landed
    rw [List.mem_singleton.mp done]
    simpa [Task.inFlight, Deed.unit] using apart
  · have apart := landed
    rw [unit_of_actionDeeds done]
    simpa [Task.inFlight] using apart
  · have apart := quiet
    rw [List.mem_singleton.mp done]
    simpa [Task.announcing, Deed.unit] using apart
  · simp at done

theorem unit_of_operationDeeds (failed : (world.unit key).isError = true)
    {operation : Operation}
    (allowed : Repertoire.sparing key world operation) {deed : Deed}
    (done : deed ∈ operation.deeds world) : deed.unit ≠ key := by
  cases operation with
  | setError unit cause => exact unit_of_causeDeeds failed done
  | debuggerLoad unit flags attaching =>
      simp only [Operation.deeds] at done
      split at done
      · simp at done
      · obtain ⟨notice, -, rfl⟩ := List.mem_map.mp done
        exact allowed
  | debuggerUnload unit =>
      obtain ⟨notice, -, rfl⟩ := List.mem_map.mp done
      exact allowed
  | container unit call =>
      obtain ⟨notice, -, rfl⟩ := List.mem_map.mp done
      exact allowed
  | unload => exact False.elim allowed
  | _ => simp [Operation.deeds] at done

/-- Nothing is done to the unit either. -/
theorem unit_of_act
    (act : world.Act (.sparing key) me thread deeds next after)
    (failed : (world.unit key).isError = true)
    (landed : thread.task.inFlight key = [])
    (quiet : thread.task.announcing key = []) {deed : Deed}
    (done : deed ∈ deeds) : deed.unit ≠ key := by
  cases act with
  | step step => exact unit_of_deeds failed landed quiet done
  | operate operation turn asked =>
      exact unit_of_operationDeeds failed asked done
  | call | resume | finish => simp at done

end World

/-- The task is part of a driver of a unit. -/
def Task.drives (key : UnitKey) : Task → Bool
  | .drive unit _ _ => unit == key
  | .announce unit _ _ _ => unit == key
  | _ => false

/-- What waits is part of a driver of a unit. -/
def Waiting.drives (key : UnitKey) : Waiting → Bool
  | .onSubStep unit _ _ => unit == key
  | .onListener unit _ _ _ => unit == key
  | _ => false

/-- A driver of a unit is on the stack. -/
def Thread.drives (key : UnitKey) (thread : Thread) : Bool :=
  thread.task.drives key || thread.stack.any (Waiting.drives key)

/-- Where a driver of a failed unit can be, and what it has found out. -/
def Phase.Replays (unit : LoadUnit) (target : Level) : Phase → Prop
  | .checkLevel => True
  | .checkCause => unit.level < target
  | .leave => True
  | .settle => True
  | .require => unit.throwIfError target = .ok ()
  | _ => False

/-- How many steps a driver of a failed unit is from its answer. -/
def Phase.stepsLeft (unit : LoadUnit) (target : Level) : Phase → Nat
  | .checkLevel => 4
  | .checkCause => 3
  | .leave => if unit.level < target then 2 else 3
  | .settle => if unit.level < target then 1 else 2
  | _ => 1

/-- If a task drives a failed unit, it is about to raise the cause or to find the
unit high enough. -/
def Task.Replays (unit : LoadUnit) (key : UnitKey) : Task → Prop
  | .drive other target phase =>
      other = key → unit.isActive = false ∧ phase.Replays unit target
  | .announce other _ _ _ => other ≠ key
  | _ => True

/-- A thread that comes back to a failed unit at most to learn its cause. -/
structure Thread.Replays (unit : LoadUnit) (key : UnitKey)
    (thread : Thread) : Prop where
  task : thread.task.Replays unit key
  below : ∀ waiting ∈ thread.stack, waiting.drives key = false

theorem LoadUnit.Untouched.replays {unit later : LoadUnit} {thread : Thread}
    {key : UnitKey} (untouched : unit.Untouched later)
    (replays : thread.Replays unit key) : thread.Replays later key := by
  obtain ⟨task, stack⟩ := thread
  refine ⟨?_, replays.below⟩
  have before := replays.task
  cases task with
  | drive other target phase =>
      intro same
      obtain ⟨inactive, goes⟩ := before same
      rw [LoadUnit.isActive] at inactive ⊢
      refine ⟨by rw [untouched.level, inactive], ?_⟩
      cases phase with
      | checkCause =>
          change later.level < target
          rw [untouched.level]
          exact goes
      | require =>
          change later.throwIfError target = .ok ()
          rw [LoadUnit.throwIfError, untouched.failure, untouched.level]
          exact goes
      | _ => exact goes
  | _ => exact before

/-- What a failed unit answers whoever wants it at a level. -/
def Cause.verdict (cause : Cause) (level target : Level) : Except Fault Unit :=
  if level < target then .error (.load cause) else .ok ()

namespace LoadUnit

variable {unit : LoadUnit} {cause : Cause}

theorem throwIfError_of_cause (stored : unit.failure.cause = some cause)
    (target : Level) :
    unit.throwIfError target = cause.verdict unit.level target := by
  simp [throwIfError, CauseCell.raiseIfBlocking, stored, Cause.verdict]

theorem requireLevel_of_cause (stored : unit.failure.cause = some cause)
    (target : Level) :
    unit.requireLevel target = cause.verdict unit.level target := by
  by_cases short : unit.level < target
  · simp [requireLevel, throwIfError_of_cause stored, Cause.verdict, short]
    rfl
  · simp [requireLevel, Cause.verdict, short]
    rfl

theorem isError_of_cause (stored : unit.failure.cause = some cause) :
    unit.isError = true := by
  simp [isError, CauseCell.isSet, stored]

end LoadUnit

theorem Level.relaxed_le (level : Level) : level.relaxed ≤ level := by
  cases level <;> decide

namespace World

variable {world next : World} {me : ThreadId} {thread after : Thread}
  {deeds : List Deed} {key : UnitKey} {cause : Cause}

theorem replays_ensure (through : DomainKey) (other : UnitKey)
    (target : Level) :
    (Task.ensure world through other target).Replays (world.unit key) key := by
  unfold Task.ensure
  split
  · trivial
  · split
    · rename_i loading
      rintro rfl
      refine ⟨?_, trivial⟩
      have below : (world.unit other).level < .active := by
        simpa [LoadUnit.isLoading] using loading
      simpa [LoadUnit.isActive, Level.le_def, Level.lt_def] using below
    · trivial

theorem replays_incremental (through : DomainKey) (other : UnitKey)
    (level : Level) :
    (Task.incremental world through other level).Replays
      (world.unit key) key := by
  unfold Task.incremental
  split
  · trivial
  · split
    · trivial
    · split <;> trivial

theorem replays_of_loads {operation : Operation} {task : Task}
    (loads : operation.task? world = some task) :
    task.Replays (world.unit key) key := by
  cases operation with
  | ensure through other target =>
      cases loads
      exact replays_ensure through other target
  | incremental through other level =>
      cases loads
      exact replays_incremental through other level
  | _ => simp [Operation.task?] at loads

/-- A driver of a failed unit goes through none but these phases. -/
theorem replays_stepped (stepped : world.Stepped me thread next after)
    (failed : (world.unit key).isError = true)
    (replays : thread.Replays (world.unit key) key) :
    after.Replays (world.unit key) key := by
  obtain ⟨task, below⟩ := replays
  cases stepped with
  | below short => exact ⟨fun same => ⟨(task same).1, same ▸ short⟩, below⟩
  | arrived | barred => exact ⟨fun same => ⟨(task same).1, trivial⟩, below⟩
  | @admitted other target stack healthy =>
      refine ⟨fun same => ?_, below⟩
      subst same
      rw [failed] at healthy
      contradiction
  | entered asks =>
      refine ⟨fun same => ?_, below⟩
      rcases asks with rfl | rfl <;> exact False.elim (task same).2
  | refused asks =>
      refine ⟨fun same => ?_, below⟩
      rcases asks with rfl | rfl <;> exact False.elim (task same).2
  | overtaken | raised | failed | releasedAgain | releasedStop =>
      exact ⟨fun same => False.elim (task same).2, below⟩
  | @climbs other target level stack =>
      refine ⟨trivial, ?_⟩
      have apart : other ≠ key := fun same => (task same).2
      simpa [Waiting.drives, apart] using below
  | leaves | announcedBefore =>
      exact ⟨fun same => ⟨(task same).1, trivial⟩, below⟩
  | @announces other target stack active =>
      refine ⟨fun same => ?_, below⟩
      subst same
      rw [(task rfl).1] at active
      contradiction
  | settled clear => exact ⟨fun same => ⟨(task same).1, same ▸ clear⟩, below⟩
  | initializes runs =>
      refine ⟨?_, by simpa [Waiting.drives] using below⟩
      rcases runs with ⟨-, rfl⟩ | ⟨-, rfl⟩ <;> trivial
  | reported goes =>
      rcases goes with ⟨-, rfl⟩ | ⟨-, rfl⟩
      · exact ⟨trivial, below⟩
      · exact ⟨trivial, by simpa [Waiting.drives] using below⟩
  | activates =>
      exact ⟨replays_ensure _ _ _, by simpa [Waiting.drives] using below⟩
  | allTold => exact ⟨fun same => absurd same task, below⟩
  | tellsRecorder => exact ⟨task, below⟩
  | @tellsClient other target snapshot number rest stack =>
      have apart : other ≠ key := task
      exact ⟨trivial, by simpa [Waiting.drives, apart] using below⟩
  | @succeeded other target level stack | @abandoned other target level stack
  | @broke other target level fault stack =>
      simp only [List.forall_mem_cons, Waiting.drives, beq_eq_false_iff_ne]
        at below
      exact ⟨fun same => absurd same below.1, below.2⟩
  | listened =>
      simp only [List.forall_mem_cons, Waiting.drives, beq_eq_false_iff_ne]
        at below
      exact ⟨below.1, below.2⟩
  | initialized | uninitialized | hooked | activated | unactivated =>
      exact ⟨trivial, (List.forall_mem_cons.mp below).2⟩
  | _ => exact ⟨trivial, below⟩

theorem replays_act {repertoire : Repertoire}
    (act : world.Act repertoire me thread deeds next after)
    (failed : (world.unit key).isError = true)
    (replays : thread.Replays (world.unit key) key) :
    after.Replays (world.unit key) key := by
  cases act with
  | step step => exact replays_stepped (stepped_of_step step) failed replays
  | operate => exact replays
  | @call operation task turn asked granted loads =>
      have begun : task.Replays (world.unit key) key := replays_of_loads loads
      rcases turn_cases turn with
        ⟨callback, stack, rfl⟩ | ⟨reply, rfl⟩ | ⟨reply, callback, stack, rfl⟩
      · exact ⟨begun, by simpa [Thread.call, Waiting.drives] using replays.below⟩
      · exact ⟨begun, replays.below⟩
      · exact ⟨begun, replays.below⟩
  | resume answered =>
      subst answered
      exact ⟨trivial, (List.forall_mem_cons.mp replays.below).2⟩
  | finish result called =>
      subst called
      exact ⟨trivial, replays.below⟩

/-- A driver of a failed unit takes a step towards its answer, whatever it shares
the world with. -/
theorem replays_advance {target : Level} {phase : Phase} {stack : List Waiting}
    (stored : (world.unit key).failure.cause = some cause)
    (inactive : (world.unit key).isActive = false)
    (replays : phase.Replays (world.unit key) target) :
    (∃ later, world.step me ⟨.drive key target phase, stack⟩ =
        some (world, ⟨.drive key target later, stack⟩) ∧
      later.stepsLeft (world.unit key) target + 1 =
        phase.stepsLeft (world.unit key) target) ∨
    world.step me ⟨.drive key target phase, stack⟩ =
        some (world, ⟨.answer ((cause.verdict (world.unit key).level target).map
          fun _ => true), stack⟩) ∧
      phase.stepsLeft (world.unit key) target = 1 := by
  have failed := LoadUnit.isError_of_cause stored
  cases phase with
  | checkLevel =>
      by_cases short : (world.unit key).level < target
      · exact Or.inl ⟨.checkCause, by simp [step, stepDrive, short], rfl⟩
      · exact Or.inl ⟨.leave, by simp [step, stepDrive, short],
          by simp [Phase.stepsLeft, short]⟩
  | checkCause =>
      have short : (world.unit key).level < target := replays
      exact Or.inl ⟨.leave, by simp [step, stepDrive, failed],
        by simp [Phase.stepsLeft, short]⟩
  | leave =>
      refine Or.inl ⟨.settle, by simp [step, stepDrive, inactive], ?_⟩
      simp only [Phase.stepsLeft]
      split <;> rfl
  | settle =>
      have raises := LoadUnit.throwIfError_of_cause stored target
      by_cases short : (world.unit key).level < target
      · refine Or.inr ⟨?_, by simp [Phase.stepsLeft, short]⟩
        simp [step, stepDrive, raises, Cause.verdict, short, Except.map]
      · refine Or.inl ⟨.require, ?_, by simp [Phase.stepsLeft, short]⟩
        simp [step, stepDrive, raises, Cause.verdict, short]
  | require =>
      have high : ¬ (world.unit key).level < target := by
        intro short
        have clear : (world.unit key).throwIfError target = .ok () := replays
        rw [LoadUnit.throwIfError_of_cause stored, Cause.verdict, if_pos short]
          at clear
        contradiction
      have relaxed : ¬ (world.unit key).level < target.relaxed := by
        have lower := Level.relaxed_le target
        simp only [Level.le_def, Level.lt_def] at high lower ⊢
        omega
      refine Or.inr ⟨?_, rfl⟩
      have reached := LoadUnit.requireLevel_of_cause stored target.relaxed
      simp [step, stepDrive, reached, Cause.verdict, high, relaxed]
  | _ => exact False.elim replays

end World

namespace Crew

variable {repertoire : Repertoire} {inside : Crew → Prop}
  {first crew next later : Crew} {acted more : List ThreadId}
  {before deeds done : List Deed} {key : UnitKey} {cause : Cause}

/-- A run that does not leave the states it is confined to, with the threads
that act in it and what is done meanwhile. -/
inductive Session (repertoire : Repertoire) (inside : Crew → Prop)
    (first : Crew) : List ThreadId → List Deed → Crew → Prop
  | start (within : inside first) : Session repertoire inside first [] [] first
  | act {crew : Crew} {acted : List ThreadId} {before deeds : List Deed}
      {me : ThreadId} {world : World} {thread : Thread}
      (session : Session repertoire inside first acted before crew)
      (member : me < crew.threads.length)
      (act : World.Act repertoire me crew.world (crew.thread me) deeds world
        thread)
      (within : inside ({ crew with world }.setThread me thread)) :
      Session repertoire inside first (acted ++ [me]) (before ++ deeds)
        ({ crew with world }.setThread me thread)
  | collect {crew : Crew} {acted : List ThreadId} {before : List Deed}
      (session : Session repertoire inside first acted before crew)
      (within : inside { crew with world := crew.world.collect crew.pinned }) :
      Session repertoire inside first acted before
        { crew with world := crew.world.collect crew.pinned }

theorem Session.within (session : Session repertoire inside first acted deeds
    crew) : inside crew := by
  cases session <;> assumption

theorem Session.trans {said : List Deed}
    (session : Session repertoire inside first acted before crew)
    (rest : Session repertoire inside crew more said later) :
    Session repertoire inside first (acted ++ more) (before ++ said)
      later := by
  induction rest with
  | start => simpa using session
  | act rest member act within ih =>
      rw [← List.append_assoc, ← List.append_assoc]
      exact ih.act member act within
  | collect rest within ih => exact ih.collect within

end Crew

/-- The callback that a thread is in, or goes back to next, and what waits below
it. -/
def Thread.innermost : Thread → Option (Callback × List Waiting)
  | ⟨.callback callback, stack⟩ => some (callback, stack)
  | ⟨.answer _, .onOperation callback :: stack⟩ => some (callback, stack)
  | _ => none

/-- A thread has not ended a callback yet below which something waits. -/
def Thread.Within (callback : Callback) (below : List Waiting)
    (thread : Thread) : Prop :=
  thread = ⟨.callback callback, below⟩ ∨
    .onOperation callback :: below <:+ thread.stack

/-- Where a sub-step of a unit was in flight, it was waiting for a callback, and
that callback has not ended. -/
def Crew.Encloses (key : UnitKey) (first later : Crew) : Prop :=
  ∀ me, (first.thread me).inFlight key ≠ [] →
    ∃ callback below,
      (first.thread me).innermost = some (callback, below) ∧
      (later.thread me).Within callback below

/-- No sub-step of the unit goes on in a thread that has not ended its
callback. -/
theorem Crew.Encloses.landed {key : UnitKey} {first later : Crew}
    (encloses : first.Encloses key later) {me : ThreadId}
    (flying : (later.thread me).inFlight key <:+
      (first.thread me).inFlight key) :
    (later.thread me).task.inFlight key = [] := by
  by_cases waits : (first.thread me).inFlight key = []
  · rw [waits, List.suffix_nil, Thread.inFlight, List.append_eq_nil_iff]
      at flying
    exact flying.1
  · obtain ⟨callback, below, innermost, within⟩ := encloses me waits
    have asleep : (first.thread me).inFlight key =
        below.flatMap (Waiting.inFlight key) := by
      generalize first.thread me = thread at innermost
      unfold Thread.innermost at innermost
      split at innermost
      · cases innermost
        rfl
      · cases innermost
        rfl
      · contradiction
    rcases within with back | ⟨above, stacked⟩
    · rw [back]
      rfl
    · have longer := flying.length_le
      rw [asleep, Thread.inFlight, ← stacked, List.flatMap_append,
        List.flatMap_cons] at longer
      simp only [List.length_append] at longer
      exact List.eq_nil_of_length_eq_zero (by omega)

namespace Crew

variable {first crew later last : Crew} {acted more : List ThreadId}
  {before deeds said : List Deed} {key : UnitKey} {cause : Cause}

/-- Nothing has been done to a unit between two states of a crew, and nobody is
about to do anything to it. -/
structure Spares (first : Crew) (key : UnitKey) (deeds : List Deed)
    (later : Crew) : Prop where
  known : key < later.world.unitCount
  untouched : (first.world.unit key).Untouched (later.world.unit key)
  silent : ∀ deed ∈ deeds, deed.unit ≠ key
  flying : ∀ me,
    (later.thread me).inFlight key <:+ (first.thread me).inFlight key
  replays : ∀ me, (later.thread me).Replays (later.world.unit key) key

theorem spares_start (known : key < first.world.unitCount)
    (undriven : ∀ me, (first.thread me).drives key = false) :
    first.Spares key [] first where
  known := known
  untouched := .refl _
  silent := by simp
  flying := fun me => List.suffix_rfl
  replays := fun me => by
    have undriven := undriven me
    rw [Thread.drives, Bool.or_eq_false_iff, List.any_eq_false] at undriven
    refine ⟨?_, fun waiting member =>
      Bool.eq_false_iff.mpr (undriven.2 waiting member)⟩
    cases task : (first.thread me).task with
    | drive other target phase =>
        rw [task] at undriven
        exact fun same => by simp [Task.drives, same] at undriven
    | announce other target snapshot rest =>
        rw [task] at undriven
        exact fun same => by simp [Task.drives, same] at undriven
    | _ => trivial

theorem spares_act {me : ThreadId} {world : World} {thread : Thread}
    (spares : first.Spares key before crew)
    (encloses : first.Encloses key crew)
    (failed : (first.world.unit key).isError = true)
    (member : me < crew.threads.length)
    (act : World.Act (.sparing key) me crew.world (crew.thread me) deeds world
      thread) :
    first.Spares key (before ++ deeds)
      ({ crew with world }.setThread me thread) := by
  have failed : (crew.world.unit key).isError = true := by
    rw [LoadUnit.isError, spares.untouched.failure]
    exact failed
  have landed : (crew.thread me).task.inFlight key = [] :=
    encloses.landed (spares.flying me)
  have task := (spares.replays me).task
  have unannounced : ∀ target,
      (crew.thread me).task = .drive key target .leave →
        (crew.world.unit key).isActive = false := by
    intro target leaving
    rw [leaving] at task
    exact (task rfl).1
  have quiet : (crew.thread me).task.announcing key = [] := by
    generalize (crew.thread me).task = doing at task
    cases doing with
    | announce other target snapshot rest =>
        have apart : other ≠ key := task
        simp [Task.announcing, apart]
    | _ => rfl
  have untouched :=
    World.untouched_act act spares.known failed landed unannounced
  refine ⟨Nat.lt_of_lt_of_le spares.known (World.grows_act act).count,
    spares.untouched.trans untouched, ?_, ?_, ?_⟩
  · intro deed done
    rcases List.mem_append.mp done with old | new
    · exact spares.silent deed old
    · exact World.unit_of_act act failed landed quiet new
  · intro you
    rw [thread_acted member]
    split
    · rename_i same
      subst same
      exact (World.inFlight_act act failed).trans (spares.flying me)
    · exact spares.flying you
  · intro you
    rw [thread_acted member]
    split
    · exact untouched.replays
        (World.replays_act act failed (spares.replays me))
    · exact untouched.replays (spares.replays you)

theorem spares_session
    (session : Session (.sparing key) (first.Encloses key) first acted deeds
      later)
    (known : key < first.world.unitCount)
    (failed : (first.world.unit key).isError = true)
    (undriven : ∀ me, (first.thread me).drives key = false) :
    first.Spares key deeds later := by
  induction session with
  | start => exact spares_start known undriven
  | act session member act within ih =>
      exact spares_act ih session.within failed member act
  | @collect crew acted deeds session within ih =>
      have untouched :=
        World.untouched_collect crew.world crew.pinned key
      have count := (World.alike_collect crew.world crew.pinned).count
      exact ⟨count ▸ ih.known, ih.untouched.trans untouched, ih.silent,
        ih.flying, fun me => untouched.replays (ih.replays me)⟩

/-- In a session a thread has given an answer, within four steps of its own, on
top of what waited below it at the start. -/
def Answered (key : UnitKey) (inside : Crew → Prop) (me : ThreadId)
    (stack : List Waiting) (reply : Reply) (crew : Crew)
    (acted : List ThreadId) (last : Crew) : Prop :=
  ∃ soon late said after mid, acted = soon ++ late ∧ soon.count me ≤ 4 ∧
    Session (.sparing key) inside crew soon said mid ∧
    Session (.sparing key) inside mid late after last ∧
    mid.thread me = ⟨.answer reply, stack⟩

theorem answered_of_driving {inside : Crew → Prop} {me : ThreadId}
    {target : Level} {phase : Phase} {stack : List Waiting} {world : World}
    {thread : Thread} {acted : List ThreadId}
    (session : Session (.sparing key) inside later acted said last)
    (stored : (last.world.unit key).failure.cause = some cause)
    (replays : (last.thread me).Replays (last.world.unit key) key)
    (drives : last.thread me = ⟨.drive key target phase, stack⟩)
    (count : phase.stepsLeft (last.world.unit key) target + acted.count me = 4)
    (member : me < last.threads.length)
    (act : World.Act (.sparing key) me last.world (last.thread me) deeds world
      thread)
    (within : inside ({ last with world }.setThread me thread)) :
    later.Answered key inside me stack
        ((cause.verdict (last.world.unit key).level target).map fun _ => true)
        (acted ++ [me]) ({ last with world }.setThread me thread) ∨
      ∃ further, thread = ⟨.drive key target further, stack⟩ ∧
        world = last.world ∧
        further.stepsLeft (last.world.unit key) target + acted.count me + 1 =
          4 := by
  have taken := session.act member act within
  have current := replays.task
  rw [drives] at act current
  obtain ⟨inactive, goes⟩ := current rfl
  cases act with
  | step step =>
      rcases World.replays_advance stored inactive goes with
        ⟨further, advances, fewer⟩ | ⟨answers, one⟩
      · rw [advances] at step
        cases step
        exact Or.inr ⟨further, rfl, rfl, by omega⟩
      · have answered : thread = ⟨.answer ((cause.verdict
            (last.world.unit key).level target).map fun _ => true), stack⟩ := by
          rw [answers] at step
          cases step
          rfl
        refine Or.inl ⟨acted ++ [me], [], _, [], _, by simp, ?_, taken,
          .start within, ?_⟩
        · rw [List.count_append, List.count_singleton_self]
          omega
        · rw [thread_acted member, if_pos rfl, answered]
  | operate operation turn => simp [World.step] at turn
  | call operation turn => simp [World.step] at turn
  | resume answered => simp at answered
  | finish result called => simp at called

/-- Whoever asks for a failed unit gets its answer in four steps, and is on the
way to it until then. -/
theorem answered_or_driving {me : ThreadId} {target : Level}
    {stack : List Waiting}
    (reached : Session (.sparing key) (first.Encloses key) first acted before
      later)
    (known : key < first.world.unitCount)
    (stored : (first.world.unit key).failure.cause = some cause)
    (undriven : ∀ me, (first.thread me).drives key = false)
    (asks : later.thread me = ⟨.ensure later.world
      (later.world.unit key).home key target, stack⟩)
    (session : Session (.sparing key) (first.Encloses key) later more said
      last) :
    later.Answered key (first.Encloses key) me stack
        ((cause.verdict (first.world.unit key).level target).map fun _ => true)
        more last ∨
      ∃ phase, last.thread me = ⟨.drive key target phase, stack⟩ ∧
        phase.stepsLeft (first.world.unit key) target + more.count me = 4 := by
  have failed := LoadUnit.isError_of_cause stored
  induction session with
  | start within =>
      have untouched := (spares_session reached known failed undriven).untouched
      have kept : (later.world.unit key).failure.cause = some cause := by
        rw [untouched.failure, stored]
      have native : later.world.checkDomain (later.world.unit key).home key =
          .ok () := if_pos rfl
      simp only [Task.ensure, native] at asks
      split at asks
      · exact Or.inr ⟨.checkLevel, asks, rfl⟩
      · refine Or.inl ⟨[], [], [], [], later, rfl, by simp, .start within,
          .start within, ?_⟩
        rw [asks, LoadUnit.throwIfError_of_cause kept, untouched.level]
  | @collect crew more said session within ih =>
      rcases ih with
        ⟨soon, late, early, after, mid, split, few, first, rest, answer⟩ |
        ⟨phase, drives, count⟩
      · exact Or.inl ⟨soon, late, early, after, mid, split, few, first,
          rest.collect within, answer⟩
      · exact Or.inr ⟨phase, drives, count⟩
  | @act crew more said deeds you world thread session member act within ih =>
      rcases ih with
        ⟨soon, late, early, after, mid, split, few, first, rest, answer⟩ |
        ⟨phase, drives, count⟩
      · refine Or.inl ⟨soon, late ++ [you], early, after ++ deeds, mid, ?_, few,
          first, rest.act member act within, answer⟩
        rw [split, List.append_assoc]
      by_cases own : you = me
      · subst own
        have spares :=
          spares_session (reached.trans session) known failed undriven
        have same := spares.untouched
        have kept : (crew.world.unit key).failure.cause = some cause := by
          rw [same.failure, stored]
        have steps : ∀ phase : Phase,
            phase.stepsLeft (crew.world.unit key) target =
              phase.stepsLeft (first.world.unit key) target := by
          intro phase
          cases phase <;> simp only [Phase.stepsLeft, same.level]
        rw [← steps] at count
        rcases answered_of_driving session kept (spares.replays you) drives
            count member act within with answered | ⟨further, drives, -, fewer⟩
        · rw [same.level] at answered
          exact Or.inl answered
        · refine Or.inr ⟨further, ?_, ?_⟩
          · rw [thread_acted member, if_pos rfl, drives]
          · rw [← steps, List.count_append, List.count_singleton_self]
            omega
      · refine Or.inr ⟨phase, ?_, ?_⟩
        · rw [thread_acted member, if_neg own]
          exact drives
        · rw [List.count_append, List.count_singleton]
          simpa [own] using count

/-- What is recorded in a session is what the recorder heard of other units. -/
theorem recorded_session
    (session : Session (.sparing key) (first.Encloses key) first acted deeds
      later)
    (known : key < first.world.unitCount)
    (failed : (first.world.unit key).isError = true)
    (undriven : ∀ me, (first.thread me).drives key = false) :
    ∃ news, later.world.events = first.world.events ++ news ∧
      ∀ event ∈ news, ∃ soon said mid deed,
        Session (.sparing key) (first.Encloses key) first soon said mid ∧
        deed.unit ≠ key ∧ event ∈ mid.world.recordDeed deed := by
  induction session with
  | start => exact ⟨[], by simp, by simp⟩
  | @collect crew acted said session within ih =>
      obtain ⟨news, grown, foreign⟩ := ih
      refine ⟨news, ?_, foreign⟩
      rw [← grown]
      exact World.events_collect _ _
  | @act crew acted said deeds me world thread session member act within ih =>
      obtain ⟨news, grown, foreign⟩ := ih
      have silent :=
        (spares_session (session.act member act within) known failed
          undriven).silent
      refine ⟨news ++ deeds.flatMap crew.world.recordDeed, ?_, ?_⟩
      · have told := World.events_act act
        rwa [grown, List.append_assoc] at told
      · intro event recorded
        rcases List.mem_append.mp recorded with old | new
        · exact foreign event old
        · obtain ⟨deed, done, heard⟩ := List.mem_flatMap.mp new
          exact ⟨acted, said, crew, deed, session,
            silent deed (List.mem_append_right said done), heard⟩

/-- What a failed unit replays after a session in which others went on. -/
structure Replayed (crew : Crew) (key : UnitKey) (cause : Cause)
    (deeds : List Deed) (later : Crew) : Prop where
  /-- Level, cause, latches and the work of the container are the same. -/
  untouched : (crew.world.unit key).Untouched (later.world.unit key)
  /-- Nothing has been said about the unit or done to it. -/
  silent : ∀ deed ∈ deeds, deed.unit ≠ key
  /-- Whatever was recorded meanwhile is about other units. -/
  recorded : ∃ news, later.world.events = crew.world.events ++ news ∧
    ∀ event ∈ news, ∃ soon said mid deed,
      Session (.sparing key) (crew.Encloses key) crew soon said mid ∧
      deed.unit ≠ key ∧ event ∈ mid.world.recordDeed deed
  /-- The cause is raised, or the level was reached before. -/
  raised : ∀ me target,
    (Operation.throwIfError key target).complete later.world me =
      (later.world, .ofUnit
        (cause.verdict (crew.world.unit key).level target))
  required : ∀ me target,
    (Operation.require key target).complete later.world me =
      (later.world, .ofUnit
        (cause.verdict (crew.world.unit key).level target))
  /-- A single sub-step is not run. -/
  declined : ∀ level,
    (Operation.incremental (crew.world.unit key).home key level).task?
      later.world = some (.answer (.ok false))
  /-- No second cause is taken. -/
  rejected : ∀ me other,
    (Operation.setError key other).complete later.world me =
      (later.world,
        .fault (.contract (.alreadyFailed other.unit other.message)))
  /-- Whoever begins to drive the unit gets the same answer within four steps of
  its own, whatever happens meanwhile, and does nothing else until then. -/
  ensured : ∀ me target stack,
    later.thread me = ⟨.ensure later.world (crew.world.unit key).home key
      target, stack⟩ →
    ∀ acted said last,
      Session (.sparing key) (crew.Encloses key) later acted said last →
      later.Answered key (crew.Encloses key) me stack
          ((cause.verdict (crew.world.unit key).level target).map
            fun _ => true) acted last ∨
        (acted.count me < 4 ∧
          ∃ phase, last.thread me = ⟨.drive key target phase, stack⟩)

/-- A unit that has failed and that nobody drives replays its cause, whoever
comes back to it and from wherever.  The state need not even be one that a run
leads to. -/
theorem replayed_of_stored_cause
    (known : key < crew.world.unitCount)
    (stored : (crew.world.unit key).failure.cause = some cause)
    (undriven : ∀ me, (crew.thread me).drives key = false)
    (session : Session (.sparing key) (crew.Encloses key) crew acted deeds
      later) :
    crew.Replayed key cause deeds later := by
  have failed := LoadUnit.isError_of_cause stored
  have spares := spares_session session known failed undriven
  have same := spares.untouched
  have kept : (later.world.unit key).failure.cause = some cause := by
    rw [same.failure, stored]
  refine ⟨same, spares.silent,
    recorded_session session known failed undriven, ?_, ?_, ?_, ?_, ?_⟩
  · intro me target
    rw [Operation.complete, LoadUnit.throwIfError_of_cause kept, same.level]
  · intro me target
    rw [Operation.complete, LoadUnit.requireLevel_of_cause kept, same.level]
  · intro level
    have native : later.world.checkDomain (crew.world.unit key).home key =
        .ok () := if_pos same.home
    simp [Operation.task?, Task.incremental, native,
      LoadUnit.isError_of_cause kept]
  · intro me other
    simp [Operation.complete, World.setError, CauseCell.record, kept]
  · intro me target stack asks more said last rest
    rw [← same.home] at asks
    rcases answered_or_driving session known stored undriven asks rest with
      answered | ⟨phase, drives, count⟩
    · exact Or.inl answered
    · refine Or.inr ⟨?_, phase, drives⟩
      have left : 0 < phase.stepsLeft (crew.world.unit key) target := by
        cases phase <;> simp only [Phase.stepsLeft] <;>
          first | omega | (split <;> omega)
      omega

/-- A run is a session if there is nothing that confines it. -/
theorem exists_session_of_run {repertoire : Repertoire} {inside : Crew → Prop}
    (run : Run repertoire first deeds later) (free : ∀ crew, inside crew) :
    ∃ acted, Session repertoire inside first acted deeds later := by
  induction run with
  | start => exact ⟨[], .start (free _)⟩
  | snoc run move ih =>
      obtain ⟨acted, session⟩ := ih
      cases move with
      | @act me world thread deeds member act =>
          exact ⟨acted ++ [me], session.act member act (free _)⟩
      | collect =>
          rw [List.append_nil]
          exact ⟨acted, session.collect (free _)⟩

theorem thread_cases (property : Thread → Prop) (free : property {})
    (members : ∀ thread ∈ crew.threads, property thread) (me : ThreadId) :
    property (crew.thread me) := by
  by_cases member : me < crew.threads.length
  · have here : crew.thread me = crew.threads[me] := by
      simp [Crew.thread, member]
    rw [here]
    exact members _ (List.getElem_mem member)
  · have none : crew.thread me = {} := by
      simp [Crew.thread, Nat.le_of_not_lt member]
    rw [none]
    exact free

/-- While the initializer of one unit runs, another unit has been made and has
failed. -/
def troubled : Crew :=
  (initializing.ask 0 (.create 0 { name := "Lib" } { name := "Lib" })).ask 0
    (.setError 1 ⟨.fail, "broken", "Lib", .created⟩)

/-- The initializer has asked for the failed unit and has its answer. -/
def replaying : Crew :=
  (troubled.ask 0 (.ensure 0 1 .active)).follow (List.replicate 4 0)

theorem replayed_troubled :
    (replaying.thread 0).outcome =
      .error (.load ⟨.fail, "broken", "Lib", .created⟩) ∧
    troubled.Replayed 1 ⟨.fail, "broken", "Lib", .created⟩
      (troubled.askDeeds (.ensure 0 1 .active) ++
        (troubled.ask 0 (.ensure 0 1 .active)).followDeeds
          (List.replicate 4 0)) replaying := by
  have landed : ∀ me, (troubled.thread me).inFlight 1 = [] :=
    thread_cases (fun thread => thread.inFlight 1 = []) rfl
      (by decide +kernel)
  have undriven : ∀ me, (troubled.thread me).drives 1 = false :=
    thread_cases (fun thread => thread.drives 1 = false) rfl
      (by decide +kernel)
  have called : Run (.sparing 1) troubled
      (troubled.askDeeds (.ensure 0 1 .active))
      (troubled.ask 0 (.ensure 0 1 .active)) :=
    run_ask (by decide +kernel) trivial
  have ran : Run (.sparing 1) troubled _ replaying :=
    called.trans (run_follow (by decide +kernel))
  obtain ⟨acted, session⟩ := exists_session_of_run ran
    fun later me flies => absurd (landed me) flies
  exact ⟨by decide +kernel, replayed_of_stored_cause (by decide +kernel)
    (by decide +kernel) undriven session⟩

end Crew

end LoadLadder
