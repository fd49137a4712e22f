import LoadLadder.Proofs.WorldViews

/-!
# Threads with something left out

A thread carries snapshots, which may show what is left out of its world.  Once it is
left out there as well, a thread takes the same step whether one looks at all of its
world or at what is left, as long as what is left out has no part in the step itself.
-/

namespace LoadLadder

def Callback.without (aspect : Aspect) : Callback → Callback
  | .listener number snapshot => .listener number (snapshot.without aspect)
  | callback => callback

def Task.without (aspect : Aspect) : Task → Task
  | .announce unit target snapshot rest =>
      .announce unit target (snapshot.without aspect) rest
  | .callback called => .callback (called.without aspect)
  | task => task

def Waiting.without (aspect : Aspect) : Waiting → Waiting
  | .onListener unit target snapshot rest =>
      .onListener unit target (snapshot.without aspect) rest
  | .onOperation callback => .onOperation (callback.without aspect)
  | waiting => waiting

def Thread.without (thread : Thread) (aspect : Aspect) : Thread where
  task := thread.task.without aspect
  stack := thread.stack.map (Waiting.without aspect)

variable {aspect : Aspect}

namespace Callback

@[simp]
theorem without_hooks (callback : Callback) : callback.without .hooks = callback := by
  cases callback <;> rfl

end Callback

namespace Task

@[simp]
theorem without_hooks (task : Task) : task.without .hooks = task := by
  cases task <;> simp [without, Snapshot.without]

theorem ensure_without (world : World) (through : DomainKey) (key : UnitKey)
    (target : Level) :
    Task.ensure (world.without aspect) through key target =
      (Task.ensure world through key target).without aspect := by
  have foreign : (world.without aspect).checkDomain through key =
      world.checkDomain through key := by
    simp [World.checkDomain]
  simp only [ensure, foreign, World.unit_without, LoadUnit.isLoading_without,
    LoadUnit.throwIfError_without]
  cases world.checkDomain through key with
  | error fault => rfl
  | ok => cases (world.unit key).isLoading <;> rfl

end Task

namespace Waiting

@[simp]
theorem without_hooks (waiting : Waiting) : waiting.without .hooks = waiting := by
  cases waiting <;> simp [without, Snapshot.without]

end Waiting

namespace Thread

@[simp]
theorem without_hooks (thread : Thread) : thread.without .hooks = thread := by
  have kept : Waiting.without .hooks = id := funext Waiting.without_hooks
  simp [without, kept]

theorem outcome_without (thread : Thread) :
    (thread.without aspect).outcome = thread.outcome := by
  obtain ⟨task, stack⟩ := thread
  cases task <;> rfl

end Thread

namespace World

variable (world : World) (me : ThreadId) (key : UnitKey) (stack : List Waiting)

theorem stepDrive_without (target : Level) (phase : Phase) :
    (world.without aspect).stepDrive me key target phase
        (stack.map (Waiting.without aspect)) =
      (world.stepDrive me key target phase stack).map
        (World.without · aspect) (Thread.without · aspect) := by
  cases phase with
  | checkLevel => simp only [stepDrive, unit_without, LoadUnit.level_without]; rfl
  | checkCause => simp only [stepDrive, unit_without, LoadUnit.isError_without]; rfl
  | acquire =>
      simp only [stepDrive, requestEntry_without]
      cases (world.requestEntry me key).2 <;> rfl
  | blocked =>
      simp only [stepDrive, wakeForEntry_without]
      cases (world.wakeForEntry me key).2 <;> rfl
  | recheck =>
      simp only [stepDrive, unit_without, LoadUnit.level_without,
        LoadUnit.isError_without]
      split
      · rfl
      · split <;> rfl
  | raise next =>
      refine Prod.ext (modifyUnit_without world key ?_).symm rfl
      cases aspect <;> rfl
  | fail next fault => simp only [stepDrive, recordFailure_without]; rfl
  | release exit =>
      simp only [stepDrive, releaseEntry_without]
      cases exit <;> rfl
  | leave =>
      have claimed : (world.claim key .hostLoadEvent).1.without aspect =
          ((world.without aspect).claim key .hostLoadEvent).1 :=
        (claim_without world key (by decide)).1
      have fresh : ((world.without aspect).claim key .hostLoadEvent).2 =
          (world.claim key .hostLoadEvent).2 :=
        (claim_without world key (by decide)).2
      simp only [stepDrive, unit_without, LoadUnit.isActive_without, fresh, ← claimed,
        homeOf_without, Domain.listeners_without, LoadUnit.snapshot_without]
      split
      · split <;> rfl
      · rfl
  | settle =>
      simp only [stepDrive, unit_without, LoadUnit.throwIfError_without]
      cases (world.unit key).throwIfError target <;> rfl
  | require =>
      simp only [stepDrive, unit_without, LoadUnit.requireLevel_without]
      rfl

/-- What is left out has no part in a step: the step does not report to a hook, and
a unit whose types may be expanded has been made. -/
def Spares (world : World) (thread : Thread) : Aspect → Prop
  | .advice => ∀ key level rest, thread.task = .subStep key level (.expandTypes :: rest) →
      (world.unit key).without .advice ≠ default
  | .hooks => ∀ key level rest,
      thread.task ≠ .subStep key level (.reportTransition :: rest)

section

variable {world key} {next : World} {action : Action} {level : Level} {rest : List Action}
  (ordinary : action ≠ .runInitializer) (silent : action ≠ .reportTransition)

include ordinary silent

theorem stepSubStep_of_done (done : world.perform key action = (next, none)) :
    world.stepSubStep key level (action :: rest) stack =
      (next, ⟨.subStep key level rest, stack⟩) := by
  cases action <;> simp_all [stepSubStep]

theorem stepSubStep_of_fault {fault : Fault}
    (done : world.perform key action = (next, some fault)) :
    world.stepSubStep key level (action :: rest) stack =
      (next, ⟨.answer (.error fault), stack⟩) := by
  cases action <;> simp_all [stepSubStep]

end

theorem stepInitializer_without (level : Level) (rest : List Action) :
    (world.without aspect).stepSubStep key level (.runInitializer :: rest)
        (stack.map (Waiting.without aspect)) =
      (world.stepSubStep key level (.runInitializer :: rest) stack).map
        (World.without · aspect) (Thread.without · aspect) := by
  have lifted : (world.modifyUnit key fun unit =>
        { unit with gateLifted := true }).without aspect =
      (world.without aspect).modifyUnit key fun unit => { unit with gateLifted := true } :=
    modifyUnit_without world key (by cases aspect <;> rfl)
  simp only [stepSubStep, unit_without, LoadUnit.container_without,
    LoadUnit.gateLifted_without, LoadUnit.dependencies_without, ← lifted]
  cases (world.unit key).container.initializer <;> rfl

/-- Without advice the hooks are still there. -/
theorem stepReport_unadvised (level : Level) (rest : List Action) :
    (world.without .advice).stepSubStep key level (.reportTransition :: rest)
        (stack.map (Waiting.without .advice)) =
      (world.stepSubStep key level (.reportTransition :: rest) stack).map
        (World.without · .advice) (Thread.without · .advice) := by
  have hook : ((world.without .advice).homeOf key).hook = (world.homeOf key).hook := by
    rw [homeOf_without]
    rfl
  have recorded (name : String) : (world.emit (.transition name level)).without .advice =
      (world.without .advice).emit (.transition name level) := emit_seen world rfl
  simp only [stepSubStep, hook, unit_without, LoadUnit.name_without, ← recorded]
  cases (world.homeOf key).hook.records <;> cases (world.homeOf key).hook.client <;> rfl

theorem stepSubStep_without (level : Level) (rest : List Action)
    (spares : world.Spares ⟨.subStep key level rest, stack⟩ aspect) :
    (world.without aspect).stepSubStep key level rest
        (stack.map (Waiting.without aspect)) =
      (world.stepSubStep key level rest stack).map
        (World.without · aspect) (Thread.without · aspect) := by
  cases rest with
  | nil => rfl
  | cons action rest =>
      by_cases initializing : action = .runInitializer
      · subst initializing
        exact stepInitializer_without world key stack level rest
      by_cases reporting : action = .reportTransition
      · subst reporting
        cases aspect with
        | hooks => exact absurd rfl (spares key level rest)
        | advice => exact stepReport_unadvised world key stack level rest
      have made : aspect = .advice → action = .expandTypes →
          (world.unit key).without .advice ≠ default := by
        rintro rfl rfl
        exact spares key level rest rfl
      have performed := perform_without world key action made
      rcases done : world.perform key action with ⟨next, none | fault⟩
      · rw [done] at performed
        rw [stepSubStep_of_done _ initializing reporting performed,
          stepSubStep_of_done _ initializing reporting done]
        rfl
      · rw [done] at performed
        rw [stepSubStep_of_fault _ initializing reporting performed,
          stepSubStep_of_fault _ initializing reporting done]
        rfl

theorem stepDependencies_without (rest : List UnitKey) :
    (world.without aspect).stepDependencies key rest
        (stack.map (Waiting.without aspect)) =
      (world.stepDependencies key rest stack).map
        (World.without · aspect) (Thread.without · aspect) := by
  cases rest with
  | nil =>
      refine Prod.ext (modifyUnit_without world key ?_).symm rfl
      cases aspect <;> rfl
  | cons dependency rest =>
      simp only [stepDependencies, unit_without, LoadUnit.isAlive_without,
        LoadUnit.home_without, Task.ensure_without]
      split <;> rfl

theorem stepAnnounce_without (target : Level) (snapshot : Snapshot)
    (rest : List Listener) :
    (world.without aspect).stepAnnounce key target (snapshot.without aspect) rest
        (stack.map (Waiting.without aspect)) =
      (world.stepAnnounce key target snapshot rest stack).map
        (World.without · aspect) (Thread.without · aspect) := by
  match rest with
  | [] => rfl
  | .recorder :: rest =>
      have heard : (Event.unitLoaded snapshot.name).concerns aspect = false := by
        cases aspect <;> rfl
      have name : (snapshot.without aspect).name = snapshot.name := by
        cases aspect <;> rfl
      simp only [stepAnnounce, name, ← emit_seen world heard]
      rfl
  | .client number :: rest => rfl

theorem stepAnswer_without (reply : Reply) (waiting : Waiting) :
    (world.without aspect).stepAnswer reply (waiting.without aspect)
        (stack.map (Waiting.without aspect)) =
      (world.stepAnswer reply waiting stack).map
        (World.without · aspect) (Thread.without · aspect) := by
  cases waiting with
  | onSubStep key target next =>
      match reply with
      | .ok true | .ok false | .error fault => rfl
  | onInitializer key level rest gateLifted =>
      have restored : (world.modifyUnit key fun unit =>
            { unit with gateLifted }).without aspect =
          (world.without aspect).modifyUnit key fun unit => { unit with gateLifted } :=
        modifyUnit_without world key (by cases aspect <;> rfl)
      cases reply <;> exact Prod.ext restored.symm rfl
  | onDependency key rest => cases reply <;> rfl
  | onHook | onListener | onOperation => rfl

/-- A step that what is left out has no part in is the same without it. -/
theorem step_without {thread : Thread} (spares : world.Spares thread aspect) :
    (world.without aspect).step me (thread.without aspect) =
      (world.step me thread).map
        (Prod.map (World.without · aspect) (Thread.without · aspect)) := by
  obtain ⟨task, stack⟩ := thread
  cases task with
  | drive key target phase =>
      exact congrArg some (stepDrive_without world me key stack target phase)
  | subStep key level rest =>
      exact congrArg some (stepSubStep_without world key stack level rest spares)
  | activateDependencies key rest =>
      exact congrArg some (stepDependencies_without world key stack rest)
  | announce key target snapshot rest =>
      exact congrArg some (stepAnnounce_without world key stack target snapshot rest)
  | callback => rfl
  | answer reply =>
      match stack with
      | [] => rfl
      | .onOperation callback :: stack => rfl
      | .onSubStep .. :: stack | .onInitializer .. :: stack | .onHook .. :: stack
      | .onDependency .. :: stack | .onListener .. :: stack =>
          exact congrArg some (stepAnswer_without world stack reply _)

end World

end LoadLadder
