import LoadLadder.Proofs.Blueprints
import LoadLadder.Proofs.CauseReplays
import LoadLadder.Proofs.LoneCrews

/-!
# The activation gate

The code of a unit may run before the unit is active, but only while the unit's own
initializer runs.  To that end each invocation of an initializer lifts a gate of
its unit, and puts the gate back to how it found it.  In a thread that runs alone
the invocations nest, so the gates are lifted exactly as the stack says: an inner
invocation finds the gate lifted and leaves it lifted, however it ends.
-/

namespace LoadLadder

/-- The unit whose initializer something waits for, and whether the gate was
already lifted when the initializer began. -/
def Waiting.guard? : Waiting → Option (UnitKey × Bool)
  | .onInitializer key _ _ gateLifted => some (key, gateLifted)
  | _ => none

/-- The invocations of initializers on the stack of a thread, innermost first. -/
def Thread.guards (thread : Thread) : List (UnitKey × Bool) :=
  thread.stack.filterMap Waiting.guard?

/-- The units whose initializers run in a thread, innermost first. -/
def Thread.initializing (thread : Thread) : List UnitKey :=
  thread.guards.map Prod.fst

/-- Every invocation found the gate lifted exactly if its unit was being
initialized already. -/
def Restores : List (UnitKey × Bool) → Prop
  | [] => True
  | (key, found) :: below =>
      found = decide (key ∈ below.map Prod.fst) ∧ Restores below

theorem LoadUnit.checkActivated_iff (unit : LoadUnit) :
    unit.checkActivated = true ↔
      unit.level = .active ∨
        unit.failure.cause = none ∧
          (unit.isSystem = true ∨
            unit.image.mapped = true ∧ .loaded ≤ unit.level ∧
              unit.gateLifted = true) := by
  by_cases active : unit.level = .active
  · have reached : Level.active ≤ Level.active := Nat.le_refl _
    simp [checkActivated, checkNoError, isActive, active, reached]
  · have short : ¬ Level.active ≤ unit.level := fun high =>
      active (eq_active_of_isActive (decide_eq_true high))
    have sound : unit.isError = false ↔ unit.failure.cause = none := by
      simp [isError, CauseCell.isSet]
    simp only [checkActivated, checkNoError, isActive, isLoaded, short, active,
      ← sound]
    cases unit.isError with
    | true => simp
    | false => cases unit.isSystem <;> cases unit.image.mapped <;> simp

namespace World

variable {world next : World} {repertoire : Repertoire} {me : ThreadId}
  {thread after : Thread} {deeds : List Deed} {key : UnitKey}

theorem gateLifted_modifyUnit (other : UnitKey) {change : LoadUnit → LoadUnit}
    (same : (change (world.unit other)).gateLifted =
      (world.unit other).gateLifted) :
    ((world.modifyUnit other change).unit key).gateLifted =
      (world.unit key).gateLifted := by
  rw [unit_modifyUnit]
  split
  · rename_i here
    rw [← here]
    exact same
  · rfl

theorem gateLifted_unbindHost (unit : LoadUnit) :
    unit.unbindHost.gateLifted = unit.gateLifted := by
  unfold LoadUnit.unbindHost
  split <;> rfl

theorem keeps_notifyDebuggerLoad (world : World) (other : UnitKey)
    (flags : AttachFlags) (attaching : Bool) :
    (world.unit key).Kept
      ((world.notifyDebuggerLoad other flags attaching).1.unit key) := by
  simp only [notifyDebuggerLoad]
  split
  · exact .refl _
  split
  · exact .refl _
  split
  · exact .refl _
  have sent : (world.unit key).Kept
      ((if flags.contains .assemblyLoad then world.sendUnitLoad other
        else world).unit key) := by
    split
    · exact keeps_sendUnitLoad world other key
    · exact .refl _
  generalize (if flags.contains .assemblyLoad then world.sendUnitLoad other
    else world) = informed at sent ⊢
  have claimed := sent.trans (keeps_claim informed other key .debuggerModule)
  split
  · rw [unit_containerDebuggerLoad]
    exact claimed
  · exact claimed

theorem gateLifted_unloadUnit (world : World) (through : DomainKey)
    (other : UnitKey) :
    ((world.unloadUnit through other).1.unit key).gateLifted =
      (world.unit key).gateLifted := by
  simp only [unloadUnit]
  split
  · rfl
  · split
    · rfl
    · rw [gateLifted_modifyUnit _ (gateLifted_unbindHost _),
        unit_notifyDebuggerUnload]
      rfl

theorem gateLifted_callContainer (world : World) (other : UnitKey)
    (call : ContainerCall) :
    ((world.callContainer other call).1.unit key).gateLifted =
      (world.unit key).gateLifted := by
  cases call with
  | tracing code => exact congrArg _ (unit_tellTracing world other key code)
  | profiler code => exact congrArg _ (unit_tellProfiler world other key code)
  | debuggerLoad flags =>
      exact congrArg _ (unit_containerDebuggerLoad world other key flags)
  | debuggerUnload =>
      simp only [callContainer, containerDebuggerUnload]
      split <;> rfl
  | hasPrecompiledFixups | hasInitializer => rfl
  | _ => exact gateLifted_modifyUnit other rfl

/-- No operation that completes at once lifts a gate or closes one. -/
theorem gateLifted_complete (operation : Operation)
    (known : key < world.unitCount) :
    ((operation.complete world me).1.unit key).gateLifted =
      (world.unit key).gateLifted := by
  cases operation with
  | create home image container =>
      rw [complete_create, unit_createUnit, if_neg (Nat.ne_of_gt known)]
  | addDependency unit dependency =>
      simp only [Operation.complete, addDependency]
      split
      · exact gateLifted_modifyUnit unit rfl
      · rfl
  | setError unit cause =>
      rw [complete_setError]
      exact (keeps_setError world unit key cause).gateLifted
  | unload through unit => exact gateLifted_unloadUnit world through unit
  | debugging unit =>
      rw [complete_debugging]
      exact gateLifted_modifyUnit unit
        (LoadUnit.keeps_debuggingConfig _).gateLifted
  | debuggerLoad unit flags attaching =>
      exact (keeps_notifyDebuggerLoad world unit flags attaching).gateLifted
  | debuggerUnload unit =>
      exact congrArg _ (unit_notifyDebuggerUnload world unit)
  | latch unit kind => exact (keeps_claim world unit key kind).gateLifted
  | container unit call => exact gateLifted_callContainer world unit call
  | dropUnit unit =>
      simp only [Operation.complete, dropUnit]
      split
      · exact gateLifted_modifyUnit unit rfl
      · rfl
  | dropDomain home =>
      simp only [Operation.complete, dropDomain]
      split <;> rfl
  | _ => rfl

theorem gateLifted_collect (world : World) (pinned : List UnitKey)
    (key : UnitKey) :
    ((world.collect pinned).unit key).gateLifted =
      (world.unit key).gateLifted := by
  have survives := survives_collect world key pinned
  generalize (world.collect pinned).unit key = later at survives ⊢
  cases survives with
  | spared => rfl
  | destroyed => exact gateLifted_unbindHost _

/-- What an act does to the gates and to the invocations in its thread. -/
inductive Gates (world next : World) (thread after : Thread) : Prop
  /-- No initializer begins or ends. -/
  | keeps (gates : ∀ key < world.unitCount,
        (next.unit key).gateLifted = (world.unit key).gateLifted)
      (guards : after.guards = thread.guards)
  /-- An initializer begins, and lifts the gate of its unit. -/
  | lifts {key : UnitKey}
      (begins : ∃ level rest, thread.task = .subStep key level rest)
      (gates : ∀ other, (next.unit other).gateLifted =
        if key = other then true else (world.unit other).gateLifted)
      (guards : after.guards =
        (key, (world.unit key).gateLifted) :: thread.guards)
  /-- An initializer ends, and the gate is put back. -/
  | restores {key : UnitKey} {found : Bool}
      (gates : ∀ other, (next.unit other).gateLifted =
        if key = other then found else (world.unit other).gateLifted)
      (guards : thread.guards = (key, found) :: after.guards)

theorem gateLifted_liftGate (world : World) (key other : UnitKey)
    (lifted : Bool) :
    ((world.modifyUnit key fun unit =>
      { unit with gateLifted := lifted }).unit other).gateLifted =
      if key = other then lifted else (world.unit other).gateLifted := by
  rw [unit_modifyUnit]
  split <;> rfl

theorem gates_stepped (stepped : world.Stepped me thread next after) :
    world.Gates next thread after := by
  have kept := keeps_stepped stepped
  cases stepped with
  | initializes runs =>
      apply Gates.lifts ⟨_, _, rfl⟩ (gateLifted_liftGate world _ · true)
      rcases runs with ⟨-, rfl⟩ | ⟨-, rfl⟩ <;> rfl
  | initialized | uninitialized =>
      exact .restores (gateLifted_liftGate world _ · _) rfl
  | reported goes =>
      apply Gates.keeps
      · intro other _
        split <;> rfl
      · rcases goes with ⟨-, rfl⟩ | ⟨-, rfl⟩ <;> rfl
  | @performed key level action rest next stack ordinary done =>
      refine .keeps (fun other _ => ?_) rfl
      have same := (keeps_perform world key other action).gateLifted
      rwa [done] at same
  | @faulted key level action rest next fault stack done =>
      refine .keeps (fun other _ => ?_) rfl
      have same := (keeps_perform world key other action).gateLifted
      rwa [done] at same
  | _ =>
      refine .keeps (fun other _ => ?_) rfl
      rcases kept other with same | ⟨_, _, _, lifting | closing⟩
      · exact same.gateLifted
      · obtain ⟨_, _, _, current⟩ := lifting
        cases current
      · obtain ⟨_, _, _, _, _, current⟩ := closing
        cases current

theorem guards_call {task : Task} (turn : world.step me thread = none) :
    (thread.call task).guards = thread.guards := by
  rcases turn_cases turn with
    ⟨callback, stack, rfl⟩ | ⟨reply, rfl⟩ | ⟨reply, callback, stack, rfl⟩ <;>
  rfl

theorem gates_act (act : world.Act repertoire me thread deeds next after) :
    world.Gates next thread after := by
  cases act with
  | step step => exact gates_stepped (stepped_of_step step)
  | operate operation =>
      exact .keeps (fun key known => gateLifted_complete operation known) rfl
  | call operation turn =>
      exact .keeps (fun key _ => rfl) (guards_call turn)
  | resume answered =>
      subst answered
      exact .keeps (fun key _ => rfl) rfl
  | finish result called =>
      subst called
      exact .keeps (fun key _ => rfl) rfl

theorem known_of_guards {seat : Seat} {stack : List Waiting}
    (seated : world.Seated seat stack) :
    ∀ guard ∈ stack.filterMap Waiting.guard?, guard.1 < world.unitCount := by
  induction seated with
  | subStepOutside | driveOutside => simp
  | initializing known runs remains insisted below ih =>
      intro guard member
      rcases List.mem_cons.mp member with rfl | rest
      · exact known
      · exact ih guard rest
  | _ =>
      rename_i ih
      exact ih

theorem known_of_initializing (supports : world.Supports thread)
    (runs : key ∈ thread.initializing) : key < world.unitCount := by
  obtain ⟨guard, member, rfl⟩ := List.mem_map.mp runs
  obtain ⟨seat, seated⟩ := supports.seated
  exact known_of_guards seated guard member

end World

/-- The gates are lifted as the invocations on the stack of a thread say. -/
structure World.Gated (world : World) (thread : Thread) : Prop where
  lifted : ∀ key < world.unitCount,
    (world.unit key).gateLifted = decide (key ∈ thread.initializing)
  restores : Restores thread.guards

namespace World

variable {world next : World} {repertoire : Repertoire} {me : ThreadId}
  {thread after : Thread} {deeds : List Deed} {key : UnitKey}

/-- The gates of the units that are there follow the act of the thread. -/
theorem gated_of_gates (gated : world.Gated thread)
    (supports : world.Supports thread) (gates : world.Gates next thread after) :
    (∀ key < world.unitCount,
      (next.unit key).gateLifted = decide (key ∈ after.initializing)) ∧
      Restores after.guards := by
  have lifted := gated.lifted
  have restores := gated.restores
  cases gates with
  | keeps gates guards =>
      rw [Thread.initializing, guards]
      exact ⟨fun key known => (gates key known).trans (lifted key known),
        restores⟩
  | @lifts unit begins gates guards =>
      obtain ⟨level, rest, task⟩ := begins
      simp only [Supports, task] at supports
      rw [Thread.initializing, guards]
      refine ⟨fun key known => ?_, lifted unit supports.1, restores⟩
      rw [gates]
      by_cases same : unit = key
      · simp [same]
      · rw [if_neg same, lifted key known]
        simp [Thread.initializing, Ne.symm same]
  | @restores unit found gates guards =>
      rw [guards] at restores
      refine ⟨fun key known => ?_, restores.2⟩
      rw [gates]
      by_cases same : unit = key
      · subst same
        rw [if_pos rfl, restores.1]
        rfl
      · rw [if_neg same, lifted key known]
        simp [Thread.initializing, guards, Ne.symm same]

theorem known_of_gates (gates : world.Gates next thread after)
    (supports : world.Supports thread) (runs : key ∈ after.initializing) :
    key < world.unitCount := by
  rw [Thread.initializing] at runs
  cases gates with
  | keeps gates guards =>
      rw [guards] at runs
      exact known_of_initializing supports runs
  | @lifts unit begins gates guards =>
      rw [guards] at runs
      rcases List.mem_cons.mp runs with rfl | outer
      · obtain ⟨level, rest, task⟩ := begins
        simp only [Supports, task] at supports
        exact supports.1
      · exact known_of_initializing supports outer
  | restores gates guards =>
      apply known_of_initializing supports
      rw [Thread.initializing, guards]
      exact List.mem_cons_of_mem _ runs

theorem gated_act (gated : world.Gated thread)
    (supports : world.Supports thread)
    (act : world.Act repertoire me thread deeds next after) :
    next.Gated after := by
  have gates := gates_act act
  obtain ⟨lifted, restores⟩ := gated_of_gates gated supports gates
  refine ⟨fun key known => ?_, restores⟩
  by_cases before : key < world.unitCount
  · exact lifted key before
  · -- a unit that was just made is closed, and nothing of it runs yet
    obtain ⟨home, image, container, made⟩ := unit_of_new act before known
    have idle : key ∉ after.initializing := fun runs =>
      before (known_of_gates gates supports runs)
    rw [made]
    simp [idle]

end World

namespace Crew

variable {setups : List Setup} {crew next : Crew} {deeds : List Deed}
  {key : UnitKey}

theorem gated_move {repertoire : Repertoire}
    (gated : crew.world.Gated (crew.thread 0))
    (single : crew.threads.length = 1) (framed : crew.Framed)
    (move : Move repertoire crew deeds next) :
    next.world.Gated (next.thread 0) := by
  cases turns_of_move move single with
  | collect =>
      have count := (World.alike_collect crew.world crew.pinned).count
      refine ⟨fun key known => ?_, gated.restores⟩
      rw [count] at known
      exact (World.gateLifted_collect crew.world crew.pinned key).trans
        (gated.lifted key known)
  | act act later =>
      rw [later]
      exact World.gated_act gated (framed.supports 0) act

theorem gated_run {repertoire : Repertoire}
    (run : Run repertoire (idle setups 1) deeds crew) :
    crew.world.Gated (crew.thread 0) := by
  induction run with
  | start =>
      rw [thread_idle]
      refine ⟨fun key known => ?_, trivial⟩
      change key < (World.ofSetups setups).unitCount at known
      rw [(World.ofSetups_units setups).2.1] at known
      contradiction
  | snoc run move ih =>
      exact gated_move ih (single_run run) (framed_run framed_idle run) move

/-- The gate of a unit follows its initializer, and so does what code of the unit
may run. -/
structure FollowsInitializer (crew : Crew) (key : UnitKey) : Prop where
  gate : (crew.world.unit key).gateLifted = true ↔
    key ∈ (crew.thread 0).initializing
  activated : (crew.world.unit key).checkActivated = true ↔
    (crew.world.unit key).level = .active ∨
      (crew.world.unit key).failure.cause = none ∧
        ((crew.world.unit key).isSystem = true ∨
          (crew.world.unit key).image.mapped = true ∧
            .loaded ≤ (crew.world.unit key).level ∧
            key ∈ (crew.thread 0).initializing)

/-- In every state of a thread that runs alone, the gate of a unit is lifted
exactly while an invocation of the unit's own initializer is on the stack. -/
theorem gate_follows_initializer
    (run : Run .full (idle setups 1) deeds crew)
    (known : key < crew.world.unitCount) : crew.FollowsInitializer key := by
  have gate : (crew.world.unit key).gateLifted = true ↔
      key ∈ (crew.thread 0).initializing := by
    rw [(gated_run run).lifted key known, decide_eq_true_eq]
  refine ⟨gate, ?_⟩
  rw [LoadUnit.checkActivated_iff, gate]

/-- The initializer of a unit has the unit activated once more, which calls it back
again. -/
def nested : Crew :=
  (initializing.ask 0 (.incremental 0 0 .active)).follow (List.replicate 3 0)

/-- The inner invocation has failed, and the outer one goes on. -/
def reinitializing : Crew :=
  (nested.endCallback 0 (.error (.imageValidation "again"))).follow [0]

theorem gate_follows_reinitializing :
    nested.FollowsInitializer 0 ∧ (nested.thread 0).initializing = [0, 0] ∧
      reinitializing.FollowsInitializer 0 ∧
      (reinitializing.thread 0).initializing = [0] := by
  have asked : Run .full initializing _
      (initializing.ask 0 (.incremental 0 0 .active)) :=
    run_ask (by decide +kernel) trivial
  have called : Run .full _ _ nested := run_follow (by decide +kernel)
  have inner := (initializing_reached.trans asked).trans called
  have ended : Run .full nested _
      (nested.endCallback 0 (.error (.imageValidation "again"))) :=
    run_endCallback (by decide +kernel) _
  have resumed : Run .full _ _ reinitializing := run_follow (by decide +kernel)
  have outer := (inner.trans ended).trans resumed
  exact ⟨gate_follows_initializer inner (by decide +kernel), by decide +kernel,
    gate_follows_initializer outer (by decide +kernel), by decide +kernel⟩

end Crew

end LoadLadder
